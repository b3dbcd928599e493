import ChannelAccess.Fraction

/-!
# The shortest text of a fraction

The digits of a fraction are the fewest that read back as the same fraction, and of those the
nearest to it. They are found on decimal grids of growing fineness: the first grid with a point in
the interval of numbers that round to the fraction wins. The text is positional while the decimal
point falls within 16 places before the digits' end and five zeros before their start, and
scientific beyond that, where the exponent always carries its sign.
-/

namespace ChannelAccess.Fraction

set_option autoImplicit false

/-- A positive decimal, `digits * 10 ^ power`. -/
structure Decimal where
  digits : Nat
  power : Int
deriving DecidableEq

/-- An interval of rationals around a fraction, all over one denominator. -/
structure Neighbourhood where
  centre : Nat
  low : Nat
  high : Nat
  denominator : Nat
  closed : Bool

/-- The numbers that round to a positive fraction. Below a power of two the gap is half as wide. -/
def neighbourhood (value : Fraction) : Neighbourhood :=
  let centre := 4 * value.significand
  let narrow := value.significand = Nat.pow 2 52 ∧ leastExponent < value.exponent
  let low := if narrow then centre - 1 else centre - 2
  let closed := value.significand % 2 = 0
  match value.exponent - 2 with
  | .ofNat up =>
      ⟨centre * Nat.pow 2 up, low * Nat.pow 2 up, (centre + 2) * Nat.pow 2 up, 1, closed⟩
  | .negSucc down => ⟨centre, low, centre + 2, Nat.pow 2 (down + 1), closed⟩

def leadingPower (numerator denominator : Nat) : Int :=
  if denominator ≤ numerator then (Nat.toDigits 10 (numerator / denominator)).length - 1
  else
    let size := (Nat.toDigits 10 (denominator / numerator)).length
    if denominator = numerator * Nat.pow 10 (size - 1) then 1 - (size : Int) else -(size : Int)

/-- The points of a decimal grid at or next above a neighbourhood's centre that lie in it, the
nearer one where both do and the even one where both are equally near. -/
def gridPoint (around : Neighbourhood) (power : Int) : Option Decimal :=
  let scaleUp := match power with
    | .ofNat up => Nat.pow 10 up
    | .negSucc _ => 1
  let scaleDown := match power with
    | .ofNat _ => 1
    | .negSucc down => Nat.pow 10 (down + 1)
  let step := around.denominator * scaleUp
  let target := around.centre * scaleDown
  let inside (digits : Nat) : Bool :=
    let point := digits * step
    let low := around.low * scaleDown
    let high := around.high * scaleDown
    if around.closed then low ≤ point && point ≤ high else low < point && point < high
  let below := target / step
  let twice := 2 * (target % step)
  let above := below + 1
  match inside below, inside above with
  | true, true =>
      if twice < step ∨ (twice = step ∧ below % 2 = 0) then some ⟨below, power⟩
      else some ⟨above, power⟩
  | true, false => some ⟨below, power⟩
  | false, true => some ⟨above, power⟩
  | false, false => none

def searchGrids (around : Neighbourhood) (leading : Int) : Nat → Nat → Decimal
  | _, 0 => ⟨0, 0⟩
  | count, fuel + 1 =>
      match gridPoint around (leading - count) with
      | some found => found
      | none => searchGrids around leading (count + 1) fuel

def stripZeros : Nat → Decimal → Decimal
  | 0, value => value
  | fuel + 1, value =>
      if value.digits % 10 = 0 then stripZeros fuel ⟨value.digits / 10, value.power + 1⟩
      else value

/-- The shortest decimal that reads back as a positive fraction. Seventeen digits always do. -/
def shortest (value : Fraction) : Decimal :=
  let around := value.neighbourhood
  let leading := leadingPower around.centre around.denominator
  stripZeros 20 (searchGrids around leading 0 18)

def Decimal.layout (value : Decimal) : List Char :=
  let digits := Nat.toDigits 10 value.digits
  let point : Int := digits.length + value.power
  if 0 ≤ value.power ∧ point ≤ 16 then
    digits ++ List.replicate value.power.toNat '0' ++ ['.', '0']
  else if 0 < point ∧ point ≤ 16 then
    digits.take point.toNat ++ '.' :: digits.drop point.toNat
  else if -5 < point ∧ point ≤ 0 then
    '0' :: '.' :: (List.replicate (-point).toNat '0' ++ digits)
  else
    let mantissa := match digits with
      | [] => []
      | [digit] => [digit]
      | digit :: rest => digit :: '.' :: rest
    let scale := point - 1
    let sign := if scale < 0 then '-' else '+'
    mantissa ++ 'e' :: sign :: Nat.toDigits 10 scale.natAbs

def text (value : Fraction) : List Char :=
  let sign := if value.negative then ['-'] else []
  if value.significand = 0 then sign ++ ['0', '.', '0'] else sign ++ value.shortest.layout

end ChannelAccess.Fraction
