import ChannelAccess.Text.Numeral

/-!
# Punycode

Reading a text that is written with ASCII characters only. The ASCII characters of the text come
first, and a hyphen after them; then each other character, in the order of the codes, as a number
that tells how far it is from the one before, in steps of code and place. The numbers have their
lowest digit first, and a digit that is smaller than a threshold ends one; the threshold follows the
size of the numbers before. A number has to fit 32 bits, and so do the weights of its digits.
-/

namespace ChannelAccess.Text.Punycode

set_option autoImplicit false

/-- The value of a digit: the letters come first, then the decimal digits. -/
def digit (c : Char) : Option Nat :=
  (digitValue c).map fun value => if value < 10 then value + 26 else value - 10

def threshold (place bias : Nat) : Nat :=
  if place ≤ bias then 1 else if bias + 26 ≤ place then 26 else place - bias

/-- The bias that belongs to a size, where `place` counts what it was divided by. -/
def biasOfSize (size place : Nat) : Nat :=
  if 455 < size then biasOfSize (size / 35) (place + 36) else place + 36 * size / (size + 38)
termination_by size
decreasing_by omega

/-- The bias after a number, where `count` is the number of characters so far. -/
def nextBias (number count : Nat) (first : Bool) : Nat :=
  let size := number / if first then 700 else 2
  biasOfSize (size + size / count) 0

structure Progress where
  characters : List Char
  /-- The code of the last one that was read from a number. -/
  code : Nat
  bias : Nat
  start : Nat
  index : Nat
  weight : Nat
  place : Nat

def Progress.initial (characters : List Char) : Progress :=
  ⟨characters, 0x80, 72, 0, 0, 1, 36⟩

def Progress.next (progress : Progress) (c : Char) : Option Progress := do
  let value ← digit c
  let index := progress.index + value * progress.weight
  let bound := threshold progress.place progress.bias
  let weight := progress.weight * (36 - bound)
  let count := progress.characters.length + 1
  let code := progress.code + index / count
  if Nat.pow 2 32 ≤ index then none
  else if bound ≤ value then
    if Nat.pow 2 32 ≤ weight then none
    else some { progress with index := index, weight := weight, place := progress.place + 36 }
  else if code.isValidChar then
    let characters := progress.characters.insertIdx (index % count) (Char.ofNat code)
    let bias := nextBias (index - progress.start) count (progress.start = 0)
    let after := index % count + 1
    some ⟨characters, code, bias, after, after, 1, 36⟩
  else none

def decode (source : List Char) : Option (List Char) := do
  let reversed := source.reverse
  let digits := (reversed.takeWhile (· ≠ '-')).reverse
  let basic := ((reversed.dropWhile (· ≠ '-')).drop 1).reverse
  if basic = [] ∧ source.contains '-' = true then none
  let progress ← digits.foldlM Progress.next (.initial basic)
  if progress.weight = 1 then some progress.characters else none

end ChannelAccess.Text.Punycode
