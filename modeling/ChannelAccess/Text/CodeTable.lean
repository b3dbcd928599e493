import ChannelAccess.Text.Blank
import ChannelAccess.Text.Numeral

/-!
# Tables of characters

Sets of characters, and what a table assigns to them, written as text. An entry names a character by
its code in hexadecimal, all characters from one to another with a hyphen between their codes, or
every second one of them with a tilde. After a colon come the codes that the entry assigns, with
plus signs between them. A blank separates two entries.
-/

namespace ChannelAccess.Text

set_option autoImplicit false

structure CodeSpan where
  /-- The code of the first character. -/
  first : Nat
  /-- The code of the last character. -/
  last : Nat
  step : Nat
  /-- What is assigned to the first character. -/
  codes : List Nat
deriving DecidableEq

namespace CodeSpan

def covers (span : CodeSpan) (c : Char) : Bool :=
  span.first ≤ c.toNat && c.toNat ≤ span.last && (c.toNat - span.first) % span.step == 0

/-- The characters that an entry assigns to one of its characters: what it assigns to the first one,
moved on as far as the character is from the first. -/
def image (span : CodeSpan) (c : Char) : List Char :=
  span.codes.map fun code => Char.ofNat (code + (c.toNat - span.first))

def readCode (digits : List Char) : Nat :=
  (readDigits 16 0 digits).getD 0

def read (source : List Char) : CodeSpan :=
  let codes := match source.dropWhile (· ≠ ':') with
    | _ :: assigned => (split '+' assigned).map readCode
    | [] => []
  let place := source.takeWhile (· ≠ ':')
  let first := readCode (place.takeWhile Char.isAlphanum)
  match place.dropWhile Char.isAlphanum with
  | mark :: last => ⟨first, readCode last, if mark = '~' then 2 else 1, codes⟩
  | [] => ⟨first, first, 1, codes⟩

end CodeSpan

abbrev CodeTable := List CodeSpan

namespace CodeTable

def read (lines : List String) : CodeTable :=
  lines.flatMap fun line => (split ' ' line.toList).map CodeSpan.read

def contains (table : CodeTable) (c : Char) : Bool :=
  table.any (·.covers c)

def entry? (table : CodeTable) (c : Char) : Option CodeSpan :=
  table.find? (·.covers c)

end CodeTable

end ChannelAccess.Text
