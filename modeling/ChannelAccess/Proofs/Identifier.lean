import ChannelAccess.Proofs.Text.Numeral
import ChannelAccess.Uuid

/-!
# Texts of identifiers

The text of an identifier has 36 characters and tells it from every other one.
-/

namespace ChannelAccess.Uuid

open ChannelAccess.Text

set_option autoImplicit false

theorem written_length_le (id : Uuid) : (writeNat 16 id.toNat).length ≤ 32 := by
  rw [writeNat, Nat.length_toDigits_le_iff (by decide) (by decide)]
  exact id.value.isLt

theorem digits_length (id : Uuid) : id.digits.length = 32 := by
  have short := written_length_le id
  simp only [digits, List.length_append, List.length_replicate]
  omega

theorem characters_length (id : Uuid) : id.characters.length = 36 := by
  have count := digits_length id
  simp only [characters, List.length_append, List.length_cons, List.length_take,
    List.length_drop, count]
  omega

theorem text_to_list (id : Uuid) : id.text.toList = id.characters := by
  simp [text]

theorem read_digits_leading_zeros (count : Nat) (digits : List Char) :
    readDigits 16 0 (List.replicate count '0' ++ digits) = readDigits 16 0 digits := by
  induction count with
  | zero => rfl
  | succ count ih =>
      have zeroDigit : digitIn 16 '0' = some 0 := rfl
      rw [List.replicate_succ, List.cons_append, readDigits, zeroDigit]
      exact ih

theorem read_digits_digits (id : Uuid) : readDigits 16 0 id.digits = some id.toNat := by
  rw [digits, read_digits_leading_zeros]
  exact read_digits_write_nat 16 id.toNat (by decide) (by decide)

theorem digits_injective {first second : Uuid} (same : first.digits = second.digits) :
    first = second := by
  have firstRead := read_digits_digits first
  rw [same, read_digits_digits second] at firstRead
  apply Uuid.ext
  exact BitVec.eq_of_toNat_eq (Option.some.inj firstRead).symm

/-- The five groups of digits stand in the same places in every text. -/
theorem characters_injective {first second : Uuid}
    (same : first.characters = second.characters) : first = second := by
  have firstCount := digits_length first
  have secondCount := digits_length second
  obtain ⟨one, afterOne⟩ := List.append_inj same (by simp [firstCount, secondCount])
  obtain ⟨two, afterTwo⟩ := List.append_inj (List.cons.inj afterOne).2
    (by simp [firstCount, secondCount])
  obtain ⟨three, afterThree⟩ := List.append_inj (List.cons.inj afterTwo).2
    (by simp [firstCount, secondCount])
  obtain ⟨four, afterFour⟩ := List.append_inj (List.cons.inj afterThree).2
    (by simp [firstCount, secondCount])
  have five := (List.cons.inj afterFour).2
  have regroup (id : Uuid) : id.digits = id.digits.take 8 ++ ((id.digits.drop 8).take 4 ++
      ((id.digits.drop 12).take 4 ++ ((id.digits.drop 16).take 4 ++ id.digits.drop 20))) := by
    have fourth := List.take_append_drop 4 (id.digits.drop 16)
    have third := List.take_append_drop 4 (id.digits.drop 12)
    have next := List.take_append_drop 4 (id.digits.drop 8)
    rw [List.drop_drop] at fourth third next
    rw [fourth, third, next, List.take_append_drop]
  apply digits_injective
  rw [regroup first, regroup second, one, two, three, four, five]

theorem text_injective {first second : Uuid} (same : first.text = second.text) :
    first = second := by
  apply characters_injective
  rw [← text_to_list first, ← text_to_list second, same]

@[simp]
theorem text_inj {first second : Uuid} : first.text = second.text ↔ first = second :=
  ⟨text_injective, congrArg text⟩

end ChannelAccess.Uuid
