/-!
# Unsigned numbers as text

Reading and writing natural numbers in a radix. A reader takes an optional plus sign and at least
one digit, leading zeros and letters of either case included, and nothing else: no minus sign, blank
or separator. A bound rejects a number that does not fit the word it is read into. Where several
faults meet, the leftmost character that cannot be read on decides.
-/

namespace ChannelAccess.Text

set_option autoImplicit false

/-- The value of a digit, the letters of either case counting on from ten. -/
def digitValue (c : Char) : Option Nat :=
  let n := c.toNat
  if 0x30 ≤ n ∧ n ≤ 0x39 then some (n - 0x30)
  else if 0x61 ≤ n ∧ n ≤ 0x7A then some (n - 0x61 + 10)
  else if 0x41 ≤ n ∧ n ≤ 0x5A then some (n - 0x41 + 10)
  else none

def digitIn (radix : Nat) (c : Char) : Option Nat :=
  (digitValue c).filter (· < radix)

/-- The number that a run of digits denotes, read on from the digits before it. -/
def readDigits (radix : Nat) : Nat → List Char → Option Nat
  | value, [] => some value
  | value, c :: rest => (digitIn radix c).bind fun d => readDigits radix (value * radix + d) rest

def unsignedDigits : List Char → List Char
  | '+' :: digits => digits
  | digits => digits

inductive NumberFault where
  | empty
  | digit
  /-- The number is not below the bound. -/
  | tooLarge
deriving DecidableEq

def NumberFault.message : NumberFault → String
  | .empty => "cannot parse integer from empty string"
  | .digit => "invalid digit found in string"
  | .tooLarge => "number too large to fit in target type"

/-- The number that a run of digits denotes, read on from the digits before it for as long as it
stays below `bound`. -/
def readBounded (radix bound : Nat) : Nat → List Char → Except NumberFault Nat
  | value, [] => .ok value
  | value, c :: rest =>
      match digitIn radix c with
      | none => .error .digit
      | some digit =>
          let next := value * radix + digit
          if next < bound then readBounded radix bound next rest else .error .tooLarge

/-- The number below `bound` that a text denotes: an optional plus sign, then at least one digit. -/
def readNumber (radix bound : Nat) (text : List Char) : Except NumberFault Nat :=
  match text, unsignedDigits text with
  | [], _ => .error .empty
  | _, [] => .error .digit
  | _, digits => readBounded radix bound 0 digits

def readBelow (radix bound : Nat) (text : List Char) : Option Nat :=
  (readNumber radix bound text).toOption

/-- The digits of a number, lower-case and without leading zeros. -/
def writeNat (radix value : Nat) : List Char :=
  Nat.toDigits radix value

def wordBound : Nat := Nat.pow 2 64

end ChannelAccess.Text
