import Mathlib.Data.List.Forall2
import Mathlib.Data.Nat.Digits.Defs
import Mathlib.Tactic.Ring
import ChannelAccess.Proofs.Text.Numeral

/-!
# What numerals denote

A numeral is an optional plus sign and then at least one digit, the first digit counting
most. It denotes a number by place value, however many zeros it starts with. Reading with
a bound accepts exactly the numerals that denote a number below it, and comes to that
number.
-/

namespace ChannelAccess.Text

set_option autoImplicit false

/-- A character stands for a digit in a radix, as a figure or as a letter of either case. -/
def Spells (radix : Nat) (c : Char) (digit : Nat) : Prop :=
  digit < radix ∧ (c = digit.digitChar ∨ c = digit.digitChar.toUpper)

/-- A run of at least one digit denotes a number by place value. -/
def DigitsDenote (radix : Nat) (text : List Char) (number : Nat) : Prop :=
  text ≠ [] ∧ ∃ digits, List.Forall₂ (Spells radix) text digits ∧
    number = Nat.ofDigits radix digits.reverse

/-- A numeral denotes the number of its digits, with or without a plus sign before them. -/
inductive Denotes (radix : Nat) : List Char → Nat → Prop where
  | plain (text : List Char) (number : Nat) (denote : DigitsDenote radix text number) :
      Denotes radix text number
  | signed (text : List Char) (number : Nat) (denote : DigitsDenote radix text number) :
      Denotes radix ('+' :: text) number

/-! Digits. -/

theorem digit_value_to_upper_digit_char :
    ∀ digit < 16, digitValue digit.digitChar.toUpper = some digit := by
  decide

/-- The characters up to the letter `z`, beyond which there are no digits. -/
theorem spelled_of_code : ∀ code < 0x7B, ∀ digit < 16,
    digitValue (Char.ofNat code) = some digit →
      Char.ofNat code = digit.digitChar ∨ Char.ofNat code = digit.digitChar.toUpper := by
  decide +kernel

theorem code_lt_of_digit_value {c : Char} {digit : Nat} (value : digitValue c = some digit) :
    c.toNat < 0x7B := by
  unfold digitValue at value
  dsimp only at value
  split_ifs at value <;> omega

theorem spelled_of_digit_value {c : Char} {digit : Nat} (value : digitValue c = some digit)
    (small : digit < 16) : c = digit.digitChar ∨ c = digit.digitChar.toUpper := by
  have coded := spelled_of_code c.toNat (code_lt_of_digit_value value) digit small
  rw [Char.ofNat_toNat] at coded
  exact coded value

variable {radix : Nat} (small : radix ≤ 16)

include small

theorem digit_in_eq_some_iff (c : Char) (digit : Nat) :
    digitIn radix c = some digit ↔ Spells radix c digit := by
  rw [digitIn, Option.filter_eq_some_iff, decide_eq_true_eq]
  constructor
  · rintro ⟨value, bound⟩
    exact ⟨bound, spelled_of_digit_value value (by omega)⟩
  · rintro ⟨bound, rfl | rfl⟩
    · exact ⟨digit_value_digit_char digit (by omega), bound⟩
    · exact ⟨digit_value_to_upper_digit_char digit (by omega), bound⟩

omit small in
theorem exists_digit_of_mem {text : List Char} {digits : List Nat}
    (spelled : List.Forall₂ (Spells radix) text digits) {c : Char} (member : c ∈ text) :
    ∃ digit, Spells radix c digit := by
  induction spelled with
  | nil => nomatch member
  | cons spells _ ih =>
      cases member with
      | head => exact ⟨_, spells⟩
      | tail _ later => exact ih later

/-- Digits that are read on from a value denote a number to which the value adds at the next place.
-/
theorem read_digits_eq_some_iff (text : List Char) (value number : Nat) :
    readDigits radix value text = some number ↔
      ∃ digits, List.Forall₂ (Spells radix) text digits ∧
        number = value * radix ^ text.length + Nat.ofDigits radix digits.reverse := by
  induction text generalizing value with
  | nil => simp [readDigits, List.forall₂_nil_left_iff, eq_comm]
  | cons c rest ih =>
      simp only [readDigits, Option.bind_eq_some_iff, digit_in_eq_some_iff small, ih,
        List.forall₂_cons_left_iff]
      constructor
      · rintro ⟨digit, spells, digits, spelled, rfl⟩
        refine ⟨digit :: digits, ⟨digit, digits, spells, spelled, rfl⟩, ?_⟩
        rw [Nat.ofDigits_reverse_cons, List.length_cons, ← spelled.length_eq]
        ring
      · rintro ⟨_, ⟨digit, digits, spells, spelled, rfl⟩, rfl⟩
        refine ⟨digit, spells, digits, spelled, ?_⟩
        rw [Nat.ofDigits_reverse_cons, List.length_cons, ← spelled.length_eq]
        ring

theorem digits_denote_iff (text : List Char) (number : Nat) :
    DigitsDenote radix text number ↔ text ≠ [] ∧ readDigits radix 0 text = some number := by
  simp [DigitsDenote, read_digits_eq_some_iff small]

omit small in
theorem lt_of_read_bounded {bound value number : Nat} {text : List Char} (fits : value < bound)
    (read : readBounded radix bound value text = .ok number) : number < bound := by
  induction text generalizing value with
  | nil => rwa [← Except.ok.inj read]
  | cons c rest ih =>
      rw [readBounded] at read
      cases isDigit : digitIn radix c with
      | none => simp [isDigit] at read
      | some digit =>
          simp only [isDigit] at read
          by_cases inside : value * radix + digit < bound
          · rw [if_pos inside] at read
            exact ih inside read
          · rw [if_neg inside] at read
            contradiction

theorem read_bounded_eq_ok_iff (positive : 0 < radix) {bound : Nat} (bounding : 0 < bound)
    {text : List Char} (given : text ≠ []) (number : Nat) :
    readBounded radix bound 0 text = .ok number ↔
      DigitsDenote radix text number ∧ number < bound := by
  rw [digits_denote_iff small]
  constructor
  · intro read
    exact ⟨⟨given, read_digits_of_read_bounded radix bound 0 number text read⟩,
      lt_of_read_bounded bounding read⟩
  · rintro ⟨⟨_, read⟩, fits⟩
    exact (read_bounded_of_read_digits radix bound 0 number text positive read fits).1

/-- A plus sign is no digit, so at most one is left out. -/
theorem denotes_iff (text : List Char) (number : Nat) :
    Denotes radix text number ↔ DigitsDenote radix (unsignedDigits text) number := by
  constructor
  · intro denotes
    cases denotes with
    | signed rest _ denote => exact denote
    | plain _ _ denote =>
        have read := (digits_denote_iff small text number).mp denote
        rwa [unsigned_digits_of_read_digits radix 0 number text read.2]
  · intro denote
    unfold unsignedDigits at denote
    split at denote
    case h_1 rest => exact .signed rest number denote
    case h_2 => exact .plain text number denote

omit small in
theorem read_number_eq_ok_iff {bound : Nat} (text : List Char) (number : Nat) :
    readNumber radix bound text = .ok number ↔
      unsignedDigits text ≠ [] ∧ readBounded radix bound 0 (unsignedDigits text) = .ok number := by
  unfold readNumber
  split
  case h_1 => simp [unsignedDigits]
  case h_2 nothing => simp [nothing]
  case h_3 something => exact ⟨fun read => ⟨something, read⟩, And.right⟩

theorem read_below_eq_some_iff (positive : 0 < radix) {bound : Nat} (bounding : 0 < bound)
    (text : List Char) (number : Nat) :
    readBelow radix bound text = some number ↔ Denotes radix text number ∧ number < bound := by
  have some_iff (result : Except NumberFault Nat) :
      result.toOption = some number ↔ result = .ok number := by
    cases result <;> simp [Except.toOption]
  rw [readBelow, some_iff, read_number_eq_ok_iff, denotes_iff small]
  constructor
  · rintro ⟨given, read⟩
    exact (read_bounded_eq_ok_iff small positive bounding given number).mp read
  · rintro ⟨denote, fits⟩
    have given := denote.1
    exact ⟨given, (read_bounded_eq_ok_iff small positive bounding given number).mpr ⟨denote, fits⟩⟩

theorem digits_denote_write_nat (large : 1 < radix) (number : Nat) :
    DigitsDenote radix (writeNat radix number) number :=
  (digits_denote_iff small _ _).mpr
    ⟨Nat.toDigits_ne_nil, read_digits_write_nat radix number large small⟩

end ChannelAccess.Text
