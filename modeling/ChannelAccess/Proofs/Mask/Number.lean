import ChannelAccess.Mask
import ChannelAccess.Proofs.Text.Denotation

/-!
# Masks as numbers

The numbers of masks are those of a 64-bit word, unsigned in texts and signed in columns. Either way
every number of the word is the number of one mask.
-/

namespace ChannelAccess.Mask

set_option autoImplicit false

open ChannelAccess.Text

theorem of_nat_to_nat (mask : Mask) : ofNat mask.toNat = mask := by
  rw [ofNat, toNat, BitVec.ofNat_toNat, BitVec.setWidth_eq]

theorem to_nat_of_nat {value : Nat} (fits : value < wordBound) : (ofNat value).toNat = value := by
  rw [ofNat, toNat, BitVec.toNat_ofNat]
  exact Nat.mod_eq_of_lt fits

theorem to_nat_inj {left right : Mask} : left.toNat = right.toNat ↔ left = right := by
  rw [toNat, toNat, BitVec.toNat_inj, Mask.ext_iff]

/-! Numerals. -/

section

variable {radix : Nat} (small : radix ≤ 16) (positive : 0 < radix)

include small positive

theorem read_word_eq_some_iff (text : List Char) (mask : Mask) :
    readBelow radix wordBound text = some mask.toNat ↔ Denotes radix text mask.toNat := by
  rw [read_below_eq_some_iff small positive (by decide)]
  exact and_iff_left mask.bits.isLt

theorem exists_mask_of_read {text : List Char} {value : Nat}
    (read : readBelow radix wordBound text = some value) : ∃ mask : Mask, mask.toNat = value := by
  have below := (read_below_eq_some_iff small positive (by decide) text value).mp read
  exact ⟨ofNat value, to_nat_of_nat below.2⟩

theorem read_word_eq_none_iff (text : List Char) :
    readBelow radix wordBound text = none ↔ ∀ mask : Mask, ¬Denotes radix text mask.toNat := by
  constructor
  · intro nothing mask denotes
    rw [(read_word_eq_some_iff small positive text mask).mpr denotes] at nothing
    contradiction
  · intro invalid
    rw [Option.eq_none_iff_forall_not_mem]
    intro value read
    obtain ⟨mask, rfl⟩ := exists_mask_of_read small positive read
    exact invalid mask ((read_word_eq_some_iff small positive text mask).mp read)

end

/-! Columns. -/

theorem to_signed_bounds (mask : Mask) : -2 ^ 63 ≤ mask.toSigned ∧ mask.toSigned < 2 ^ 63 :=
  ⟨BitVec.le_toInt mask.bits, BitVec.toInt_lt⟩

theorem to_signed_of_signed {value : Int} (low : -2 ^ 63 ≤ value) (high : value < 2 ^ 63) :
    (ofSigned value).toSigned = value := by
  rw [toSigned, ofSigned]
  exact BitVec.toInt_ofInt_eq_self (by decide) low high

end ChannelAccess.Mask
