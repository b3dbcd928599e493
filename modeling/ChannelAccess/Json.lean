import ChannelAccess.Fraction.Shortest
import ChannelAccess.Text.Numeral

/-!
# JSON values

A JSON value and its two written forms: compact, and spread over lines with two blanks per level.
Objects are lists of fields in the order they are written. A number is an integer of any size, or a
binary fraction that only a reader produces.
-/

namespace ChannelAccess

set_option autoImplicit false

inductive Json where
  | null
  | bool (value : Bool)
  | integer (value : Int)
  | fraction (value : Fraction)
  | text (value : String)
  | array (items : List Json)
  | object (fields : List (String × Json))
deriving Inhabited

namespace Json

open ChannelAccess.Text

def nat (value : Nat) : Json :=
  .integer value

def ofOption {α : Type} (render : α → Json) : Option α → Json
  | some value => render value
  | none => .null

def list {α : Type} (render : α → Json) (items : List α) : Json :=
  .array (items.map render)

def hexDigit (value : Nat) : Char :=
  if value < 10 then Char.ofNat (0x30 + value) else Char.ofNat (0x57 + value)

/-- A character inside a quoted text: quotes and backslashes get a backslash, control characters are
written by their short escape or by four hexadecimal digits, all others stand for themselves. -/
def escape (c : Char) : List Char :=
  if c = '"' then ['\\', '"']
  else if c = '\\' then ['\\', '\\']
  else if c = '\n' then ['\\', 'n']
  else if c = '\r' then ['\\', 'r']
  else if c = '\t' then ['\\', 't']
  else if c = Char.ofNat 8 then ['\\', 'b']
  else if c = Char.ofNat 12 then ['\\', 'f']
  else if c.toNat < 0x20 then
    ['\\', 'u', '0', '0', hexDigit (c.toNat / 16), hexDigit (c.toNat % 16)]
  else [c]

def quote (source : List Char) : List Char :=
  '"' :: (source.flatMap escape ++ ['"'])

def integerText : Int → List Char
  | .ofNat value => writeNat 10 value
  | .negSucc value => '-' :: writeNat 10 (value + 1)

def boolText (value : Bool) : List Char :=
  if value then ['t', 'r', 'u', 'e'] else ['f', 'a', 'l', 's', 'e']

mutual

def compact : Json → List Char
  | .null => ['n', 'u', 'l', 'l']
  | .bool value => boolText value
  | .integer value => integerText value
  | .fraction value => value.text
  | .text value => quote value.toList
  | .array items => '[' :: (compactItems items ++ [']'])
  | .object fields => '{' :: (compactFields fields ++ ['}'])

def compactItems : List Json → List Char
  | [] => []
  | [item] => compact item
  | item :: rest => compact item ++ ',' :: compactItems rest

def compactFields : List (String × Json) → List Char
  | [] => []
  | [(name, value)] => quote name.toList ++ ':' :: compact value
  | (name, value) :: rest =>
      quote name.toList ++ ':' :: (compact value ++ ',' :: compactFields rest)

end

def newLine (level : Nat) : List Char :=
  '\n' :: List.replicate (2 * level) ' '

mutual

/-- A value over several lines, its inner lines one level below the given one. Empty arrays and
objects stay on one line. -/
def spread (level : Nat) : Json → List Char
  | .array (item :: rest) =>
      '[' :: (spreadItems (level + 1) (item :: rest) ++ newLine level ++ [']'])
  | .object (field :: rest) =>
      '{' :: (spreadFields (level + 1) (field :: rest) ++ newLine level ++ ['}'])
  | .null => compact .null
  | .bool value => boolText value
  | .integer value => integerText value
  | .fraction value => value.text
  | .text value => quote value.toList
  | .array [] => ['[', ']']
  | .object [] => ['{', '}']

def spreadItems (level : Nat) : List Json → List Char
  | [] => []
  | [item] => newLine level ++ spread level item
  | item :: rest => newLine level ++ spread level item ++ ',' :: spreadItems level rest

def spreadFields (level : Nat) : List (String × Json) → List Char
  | [] => []
  | [(name, value)] => newLine level ++ quote name.toList ++ ':' :: ' ' :: spread level value
  | (name, value) :: rest =>
      newLine level ++ quote name.toList ++ ':' :: ' ' ::
        (spread level value ++ ',' :: spreadFields level rest)

end

def compactText (value : Json) : String :=
  String.ofList value.compact

def prettyText (value : Json) : String :=
  String.ofList (value.spread 0)

/-- The value of a field, the last one where a name is repeated. -/
def field? (name : String) : Json → Option Json
  | .object fields => (fields.reverse.find? fun entry => entry.1 == name).map (·.2)
  | _ => none

end Json

end ChannelAccess
