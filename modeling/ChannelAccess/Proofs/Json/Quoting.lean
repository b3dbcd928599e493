import Mathlib.Tactic.SplitIfs
import ChannelAccess.Json.Reader
import ChannelAccess.Proofs.Text.Denotation

/-!
# Quoted texts read back

Between quotes a character is spelled by itself, by a backslash and a letter that stands for it, or
by the four hexadecimal digits of its code. The writer spells every character in one of these ways,
and the reader gets a character back from any of them in one step. So a reader with more steps than
there are characters gets back the whole text, and the input after its closing quote.
-/

namespace ChannelAccess.Json

set_option autoImplicit false

open ChannelAccess.Text

def shortEscapes : List (Char × Char) :=
  [('"', '"'), ('\\', '\\'), ('/', '/'), ('b', Char.ofNat 8), ('f', Char.ofNat 12), ('n', '\n'),
    ('r', '\r'), ('t', '\t')]

/-- How a character may be spelled between quotes. A quote, a backslash and a control character do
not stand for themselves. -/
inductive SpelledBy : Char → List Char → Prop where
  | plain (c : Char) (quote : c ≠ '"') (backslash : c ≠ '\\') (shown : 0x20 ≤ c.toNat) :
      SpelledBy c [c]
  | short (c letter : Char) (stands : (letter, c) ∈ shortEscapes) : SpelledBy c ['\\', letter]
  | coded (c : Char) (digits : List Char) (four : digits.length = 4)
      (denote : DigitsDenote 16 digits c.toNat) : SpelledBy c ('\\' :: 'u' :: digits)

def SpelledOut (source written : List Char) : Prop :=
  ∃ pieces, List.Forall₂ SpelledBy source pieces ∧ written = pieces.flatten

/-! What is written. -/

theorem digit_in_hex_digit : ∀ digit < 16, digitIn 16 (hexDigit digit) = some digit := by
  decide

theorem digits_denote_control {code : Nat} (control : code < 0x20) :
    DigitsDenote 16 ['0', '0', hexDigit (code / 16), hexDigit (code % 16)] code := by
  have zero : digitIn 16 '0' = some 0 := rfl
  have high := digit_in_hex_digit (code / 16) (by omega)
  have low := digit_in_hex_digit (code % 16) (by omega)
  have whole : ((0 * 16 + 0) * 16 + code / 16) * 16 + code % 16 = code := by omega
  rw [digits_denote_iff (Nat.le_refl 16)]
  refine ⟨List.cons_ne_nil _ _, ?_⟩
  simp only [readDigits, zero, high, low, Option.bind_some, whole]

theorem spelled_by_escape (c : Char) : SpelledBy c (escape c) := by
  unfold escape
  split_ifs with quote backslash line back tab bell feed control
  case pos => subst quote; exact .short _ _ (by decide)
  case pos => subst backslash; exact .short _ _ (by decide)
  case pos => subst line; exact .short _ _ (by decide)
  case pos => subst back; exact .short _ _ (by decide)
  case pos => subst tab; exact .short _ _ (by decide)
  case pos => subst bell; exact .short _ _ (by decide)
  case pos => subst feed; exact .short _ _ (by decide)
  case pos => exact .coded c _ rfl (digits_denote_control control)
  case neg => exact .plain c quote backslash (Nat.le_of_not_lt control)

theorem spelled_out_escape (source : List Char) : SpelledOut source (source.flatMap escape) := by
  refine ⟨source.map escape, ?_, List.flatMap_def⟩
  rw [List.forall₂_map_right_iff, List.forall₂_same]
  exact fun c _ => spelled_by_escape c

/-! What is read. -/

theorem read_unit_eq_read_digits (first second third fourth : Char) (rest : List Char) :
    readUnit (first :: second :: third :: fourth :: rest) =
      (readDigits 16 0 [first, second, third, fourth]).map fun unit => (unit, rest) := by
  simp only [readUnit, readDigits]
  cases digitIn 16 first <;> cases digitIn 16 second <;> cases digitIn 16 third <;>
    cases digitIn 16 fourth <;> simp

/-- A character comes back from the four digits of its code, which is never that of a surrogate. -/
theorem read_escape_of_coded {c : Char} {digits : List Char} (four : digits.length = 4)
    (denote : DigitsDenote 16 digits c.toNat) (rest : List Char) :
    readEscape ('u' :: (digits ++ rest)) = some (c, rest) := by
  have read := ((digits_denote_iff (Nat.le_refl 16) _ _).mp denote).2
  match digits, four with
  | [first, second, third, fourth], _ =>
      have unit : readUnit (first :: second :: third :: fourth :: rest) = some (c.toNat, rest) := by
        rw [read_unit_eq_read_digits, read, Option.map_some]
      have valid : c.toNat < 0xD800 ∨ 0xDFFF < c.toNat := c.valid.imp id And.left
      simp only [List.cons_append, List.nil_append, readEscape, unit]
      rw [if_neg (by omega), if_neg (by omega), Char.ofNat_toNat]

theorem read_escape_of_short {c letter : Char} (stands : (letter, c) ∈ shortEscapes)
    (rest : List Char) : readEscape (letter :: rest) = some (c, rest) := by
  simp only [shortEscapes, List.mem_cons, Prod.mk.injEq, List.not_mem_nil, or_false] at stands
  rcases stands with ⟨rfl, rfl⟩ | ⟨rfl, rfl⟩ | ⟨rfl, rfl⟩ | ⟨rfl, rfl⟩ | ⟨rfl, rfl⟩ | ⟨rfl, rfl⟩ |
    ⟨rfl, rfl⟩ | ⟨rfl, rfl⟩ <;> rfl

theorem read_quoted_escaped (fuel : Nat) {c : Char} {source rest : List Char}
    (escaped : readEscape source = some (c, rest)) :
    readQuoted (fuel + 1) ('\\' :: source) =
      (readQuoted fuel rest).map fun (tail, rest) => (c :: tail, rest) := by
  rw [readQuoted, if_neg (by decide), if_pos rfl, escaped]

theorem read_quoted_spelled (fuel : Nat) {c : Char} {piece : List Char}
    (spelled : SpelledBy c piece) (rest : List Char) :
    readQuoted (fuel + 1) (piece ++ rest) =
      (readQuoted fuel rest).map fun (tail, rest) => (c :: tail, rest) := by
  cases spelled with
  | plain quote backslash shown =>
      rw [List.singleton_append, readQuoted, if_neg quote, if_neg backslash,
        if_neg (Nat.not_lt_of_le shown)]
  | short letter stands => exact read_quoted_escaped fuel (read_escape_of_short stands rest)
  | coded digits four denote =>
      exact read_quoted_escaped fuel (read_escape_of_coded four denote rest)

theorem read_quoted_of_spelled_out {source written : List Char} (out : SpelledOut source written)
    (rest : List Char) {fuel : Nat} (enough : source.length < fuel) :
    readQuoted fuel (written ++ '"' :: rest) = some (source, rest) := by
  obtain ⟨pieces, spelled, rfl⟩ := out
  induction spelled generalizing fuel with
  | nil =>
      obtain ⟨left, rfl⟩ : ∃ left, fuel = left + 1 := ⟨fuel - 1, by omega⟩
      rfl
  | cons here _ ih =>
      obtain ⟨left, rfl⟩ : ∃ left, fuel = left + 1 := ⟨fuel - 1, by omega⟩
      rw [List.length_cons] at enough
      rw [List.flatten_cons, List.append_assoc, read_quoted_spelled left here, ih (by omega)]
      rfl

theorem read_quoted_of_written (source rest : List Char) {fuel : Nat}
    (enough : source.length < fuel) :
    readQuoted fuel (source.flatMap escape ++ '"' :: rest) = some (source, rest) :=
  read_quoted_of_spelled_out (spelled_out_escape source) rest enough

theorem length_le_length_written (source : List Char) :
    source.length ≤ (source.flatMap escape).length := by
  induction source with
  | nil => exact Nat.le_refl 0
  | cons c source ih =>
      have one : 1 ≤ (escape c).length := by
        unfold escape
        split_ifs <;> simp
      rw [List.flatMap_cons, List.length_append, List.length_cons]
      omega

/-- A value is read back from its written form, whatever comes after it, by a reader with more steps
than there are characters. No blanks stand before it. -/
structure ReadBack (value : Json) : Prop where
  start : ∀ rest, skipBlanks (value.compact ++ rest) = value.compact ++ rest
  read : ∀ (rest : List Char) (fuel : Nat), value.compact.length < fuel →
    readValue fuel (value.compact ++ rest) = some (value, rest)

theorem ReadBack.of_text {value : Json} (back : value.ReadBack) :
    ofText? value.compactText = some value := by
  have start : skipBlanks value.compact = value.compact := by
    simpa using back.start []
  have read : readValue (value.compact.length + 1) value.compact = some (value, []) := by
    simpa using back.read [] _ (Nat.lt_succ_self _)
  rw [ofText?, compactText, String.toList_ofList, start]
  simp only [read]
  rfl

theorem length_quote (source : List Char) : source.length + 2 ≤ (quote source).length := by
  have length := length_le_length_written source
  simp only [quote, List.length_cons, List.length_append, List.length_nil]
  omega

theorem quote_append (source rest : List Char) :
    quote source ++ rest = '"' :: (source.flatMap escape ++ '"' :: rest) := by
  simp [quote]

theorem read_back_text (source : String) : (text source).ReadBack where
  start _ := rfl
  read rest fuel enough := by
    have longer : source.toList.length + 2 ≤ (text source).compact.length :=
      length_quote source.toList
    obtain ⟨left, rfl⟩ : ∃ left, fuel = left + 1 := ⟨fuel - 1, by omega⟩
    rw [compact, quote_append, readValue, read_quoted_of_written source.toList rest (by omega)]
    simp [String.ofList_toList]

theorem of_text_of_compact_text (source : String) :
    ofText? (text source).compactText = some (.text source) :=
  (read_back_text source).of_text

end ChannelAccess.Json
