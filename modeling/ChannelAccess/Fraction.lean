/-!
# Binary fractions

The finite numbers of the 64-bit binary floating-point format, kept as a sign, a significand and a
power of two, and the nearest of them to a decimal. All arithmetic is on natural numbers.
-/

namespace ChannelAccess

set_option autoImplicit false

/-- A finite 64-bit binary fraction: the sign, then `significand * 2 ^ exponent`. The significand is
below `2 ^ 53` and has 53 bits unless the exponent is `-1074`. -/
structure Fraction where
  /-- Whether the number is below zero, or a zero with a minus sign. -/
  negative : Bool
  /-- The significand, below `2 ^ 53`. -/
  significand : Nat
  exponent : Int
deriving DecidableEq

namespace Fraction

def leastExponent : Int := -1074

def greatestExponent : Int := 971

/-- A quotient rounded to the nearest integer, a half going to the even neighbour. -/
def roundQuotient (numerator denominator : Nat) : Nat :=
  let quotient := numerator / denominator
  let twice := 2 * (numerator % denominator)
  if twice < denominator then quotient
  else if denominator < twice then quotient + 1
  else quotient + quotient % 2

def roundScaled (numerator denominator : Nat) : Int → Nat
  | .ofNat power => roundQuotient numerator (denominator * Nat.pow 2 power)
  | .negSucc power => roundQuotient (numerator * Nat.pow 2 (power + 1)) denominator

/-- The fraction nearest to a positive quotient, or nothing beyond the range of the format. The
first guess at the exponent may be one too high, in which case the significand comes out short. -/
def ofQuotient (negative : Bool) (numerator denominator : Nat) : Option Fraction :=
  let guess : Int := (numerator.log2 : Int) - denominator.log2 - 52
  let first := max guess leastExponent
  let exponent :=
    if roundScaled numerator denominator first < Nat.pow 2 52 then max (first - 1) leastExponent
    else first
  let significand := roundScaled numerator denominator exponent
  let rounded : Fraction :=
    if significand = Nat.pow 2 53 then ⟨negative, Nat.pow 2 52, exponent + 1⟩
    else ⟨negative, significand, exponent⟩
  if greatestExponent < rounded.exponent then none else some rounded

def quotient (value : Fraction) : Nat × Nat :=
  match value.exponent with
  | .ofNat up => (value.significand * Nat.pow 2 up, 1)
  | .negSucc down => (value.significand, Nat.pow 2 (down + 1))

/-- The fraction nearest to a product, with the sign of the first factor. -/
def times (value factor : Fraction) : Option Fraction :=
  ofQuotient value.negative (value.quotient.1 * factor.quotient.1)
    (value.quotient.2 * factor.quotient.2)

/-- The fraction nearest to a ratio, with the sign of the dividend. -/
def dividedBy (value divisor : Fraction) : Option Fraction :=
  ofQuotient value.negative (value.quotient.1 * divisor.quotient.2)
    (value.quotient.2 * divisor.quotient.1)

def greatestPower : Nat := 308

def powerOfTen (power : Nat) : Option Fraction :=
  ofQuotient false (Nat.pow 10 power) 1

/-- A fraction times a power of ten. Powers below the range are divided by in several steps, of
which the second already ends at zero. -/
def scale : Nat → Fraction → Int → Option Fraction
  | 0, value, _ => some value
  | _ + 1, value, .ofNat up =>
      if up ≤ greatestPower then (powerOfTen up).bind value.times
      else if value.significand = 0 then some value
      else none
  | steps + 1, value, .negSucc down =>
      if down + 1 ≤ greatestPower then (powerOfTen (down + 1)).bind value.dividedBy
      else if value.significand = 0 then some value
      else do
        let smaller ← (powerOfTen greatestPower).bind value.dividedBy
        scale steps smaller (.negSucc down + greatestPower)

/-- The fraction that stands for `digits * 10 ^ power`, or nothing beyond the range of the format.
The digits are rounded first, then their product with the power of ten. -/
def ofDecimal (negative : Bool) (digits : Nat) (power : Int) : Option Fraction := do
  scale 3 (← ofQuotient negative digits 1) power

end Fraction

end ChannelAccess
