import ChannelAccess.Text.Numeral

/-!
# Written numbers read back

The digits that are written for a number denote that number again, in every
radix that has its digits among `0` to `9` and `a` to `f`. A bounded reader
follows the unbounded one for as long as the number stays below its bound, so
leading zeros and the length of a text make no difference to it, and it never
reads a written number as another one.
-/

namespace ChannelAccess.Text

set_option autoImplicit false

theorem digit_value_digit_char (digit : Nat) (bound : digit < 16) :
    digitValue digit.digitChar = some digit := by
  revert digit
  decide

theorem digit_in_digit_char (radix digit : Nat) (small : radix ≤ 16) (bound : digit < radix) :
    digitIn radix digit.digitChar = some digit := by
  rw [digitIn, digit_value_digit_char digit (by omega)]
  simp [Option.filter, bound]

theorem read_digits_append (radix value : Nat) (front back : List Char) :
    readDigits radix value (front ++ back) =
      (readDigits radix value front).bind fun read => readDigits radix read back := by
  induction front generalizing value with
  | nil => rfl
  | cons c rest ih =>
      simp only [List.cons_append, readDigits]
      cases digitIn radix c with
      | none => rfl
      | some digit => exact ih _

theorem read_digits_write_nat (radix number : Nat) (large : 1 < radix) (small : radix ≤ 16) :
    readDigits radix 0 (writeNat radix number) = some number := by
  induction number using Nat.strongRecOn with
  | ind number ih =>
      rw [writeNat, Nat.toDigits_eq_if large]
      split
      case isTrue single =>
        simp [readDigits, digit_in_digit_char radix number small single]
      case isFalse several =>
        have shorter : number / radix < number := Nat.div_lt_self (by omega) large
        have front := ih (number / radix) shorter
        have last := digit_in_digit_char radix (number % radix) small
          (Nat.mod_lt number (by omega))
        rw [writeNat] at front
        rw [read_digits_append, front]
        simp only [Option.bind_some, readDigits, last]
        rw [Nat.div_add_mod']

/-- A bounded reader never overtakes the number that it arrives at: whatever it has read on the way
is at most that number, and so below the bound. -/
theorem read_bounded_of_read_digits (radix bound value number : Nat) (source : List Char)
    (positive : 0 < radix) (read : readDigits radix value source = some number)
    (fits : number < bound) :
    readBounded radix bound value source = .ok number ∧ value ≤ number := by
  induction source generalizing value with
  | nil =>
      simp only [readDigits, Option.some.injEq] at read
      subst read
      exact ⟨rfl, Nat.le_refl _⟩
  | cons c rest ih =>
      simp only [readDigits] at read
      obtain ⟨digit, isDigit, further⟩ := Option.bind_eq_some_iff.mp read
      obtain ⟨readRest, grows⟩ := ih (value * radix + digit) further
      have step : value ≤ value * radix := Nat.le_mul_of_pos_right value positive
      refine ⟨?_, by omega⟩
      have inside : value * radix + digit < bound := by omega
      simp only [readBounded, isDigit, if_pos inside]
      exact readRest

theorem read_below_of_read_digits (radix bound number : Nat) (digits : List Char)
    (positive : 0 < radix) (some_digit : digits ≠ []) (unsigned : unsignedDigits digits = digits)
    (read : readDigits radix 0 digits = some number) (fits : number < bound) :
    readBelow radix bound digits = some number := by
  have bounded := (read_bounded_of_read_digits radix bound 0 number digits positive read fits).1
  cases digits with
  | nil => exact absurd rfl some_digit
  | cons c rest =>
      unfold readBelow readNumber
      rw [unsigned]
      simp only [bounded, Except.toOption]

theorem unsigned_digits_of_read_digits (radix value number : Nat) (digits : List Char)
    (read : readDigits radix value digits = some number) : unsignedDigits digits = digits := by
  cases digits with
  | nil => rfl
  | cons c rest =>
      by_cases plus : c = '+'
      · subst plus
        have noDigit : digitIn radix '+' = none := rfl
        simp [readDigits, noDigit] at read
      · simp [unsignedDigits, plus]

theorem read_below_write_nat (radix bound number : Nat) (large : 1 < radix) (small : radix ≤ 16)
    (fits : number < bound) : readBelow radix bound (writeNat radix number) = some number := by
  have read := read_digits_write_nat radix number large small
  exact read_below_of_read_digits radix bound number _ (by omega) Nat.toDigits_ne_nil
    (unsigned_digits_of_read_digits radix 0 number _ read) read fits

theorem read_digits_of_read_bounded (radix bound value number : Nat) (source : List Char)
    (read : readBounded radix bound value source = .ok number) :
    readDigits radix value source = some number := by
  induction source generalizing value with
  | nil => exact congrArg some (Except.ok.inj read)
  | cons c rest ih =>
      rw [readBounded] at read
      rw [readDigits]
      cases isDigit : digitIn radix c with
      | none => simp [isDigit] at read
      | some digit =>
          simp only [isDigit] at read
          split at read
          case isTrue => exact ih _ read
          case isFalse => nomatch read

theorem eq_of_read_below_write_nat (radix bound number found : Nat) (large : 1 < radix)
    (small : radix ≤ 16) (read : readBelow radix bound (writeNat radix number) = some found) :
    found = number := by
  have digits := read_digits_write_nat radix number large small
  have unsigned := unsigned_digits_of_read_digits radix 0 number _ digits
  unfold readBelow readNumber at read
  rw [unsigned] at read
  split at read
  · nomatch read
  · nomatch read
  · cases bounded : readBounded radix bound 0 (writeNat radix number) with
    | error fault => simp [bounded, Except.toOption] at read
    | ok value =>
        have valued := read_digits_of_read_bounded radix bound 0 value _ bounded
        have written : number = value := Option.some.inj (digits.symm.trans valued)
        rw [bounded] at read
        have same : value = found := Option.some.inj read
        exact (written.trans same).symm

end ChannelAccess.Text
