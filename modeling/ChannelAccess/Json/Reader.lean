import ChannelAccess.Json

/-!
# Reading JSON

A reader for the whole of JSON. Each step consumes characters, so the length of the input bounds the
depth of the recursion and serves as its fuel. A number without a fraction or exponent that fits a
64-bit word is an integer, every other number is a binary fraction. Of fields with one name the last
one is kept.
-/

namespace ChannelAccess.Json

set_option autoImplicit false

open ChannelAccess.Text

def skipBlanks (source : List Char) : List Char :=
  source.dropWhile fun c => c == ' ' || c == '\t' || c == '\n' || c == '\r'

def readUnit : List Char → Option (Nat × List Char)
  | a :: b :: c :: d :: rest => do
      let high ← digitIn 16 a
      let upper ← digitIn 16 b
      let lower ← digitIn 16 c
      let low ← digitIn 16 d
      return (((high * 16 + upper) * 16 + lower) * 16 + low, rest)
  | _ => none

/-- The character after a backslash, and the input after it. A unit of the upper surrogate range
needs one of the lower range next to it. -/
def readEscape : List Char → Option (Char × List Char)
  | '"' :: rest => some ('"', rest)
  | '\\' :: rest => some ('\\', rest)
  | '/' :: rest => some ('/', rest)
  | 'b' :: rest => some (Char.ofNat 8, rest)
  | 'f' :: rest => some (Char.ofNat 12, rest)
  | 'n' :: rest => some ('\n', rest)
  | 'r' :: rest => some ('\r', rest)
  | 't' :: rest => some ('\t', rest)
  | 'u' :: rest =>
      match readUnit rest with
      | none => none
      | some (unit, rest) =>
          if 0xD800 ≤ unit ∧ unit < 0xDC00 then
            match rest with
            | '\\' :: 'u' :: rest =>
                match readUnit rest with
                | none => none
                | some (second, rest) =>
                    if 0xDC00 ≤ second ∧ second < 0xE000 then
                      some (Char.ofNat (0x10000 + (unit - 0xD800) * 0x400 + (second - 0xDC00)),
                        rest)
                    else none
            | _ => none
          else if 0xDC00 ≤ unit ∧ unit < 0xE000 then none
          else some (Char.ofNat unit, rest)
  | _ => none

def readQuoted : Nat → List Char → Option (List Char × List Char)
  | 0, _ => none
  | _ + 1, [] => none
  | fuel + 1, c :: rest =>
      if c = '"' then some ([], rest)
      else if c = '\\' then
        match readEscape rest with
        | none => none
        | some (escaped, rest) =>
            (readQuoted fuel rest).map fun (tail, rest) => (escaped :: tail, rest)
      else if c.toNat < 0x20 then none
      else (readQuoted fuel rest).map fun (tail, rest) => (c :: tail, rest)

def readRun (source : List Char) : Option (List Char × List Char) :=
  match source.takeWhile Char.isDigit with
  | [] => none
  | digits => some (digits, source.dropWhile Char.isDigit)

/-- The integral digits of a number, which have no superfluous leading zero. -/
def readIntegral : List Char → Option (List Char × List Char)
  | '0' :: rest =>
      match rest with
      | c :: _ => if c.isDigit then none else some (['0'], rest)
      | [] => some (['0'], [])
  | source => readRun source

def readDecimals : List Char → Option (List Char × List Char)
  | '.' :: rest => readRun rest
  | source => some ([], source)

def readPower : List Char → Option (Int × List Char)
  | '-' :: rest =>
      (readRun rest).bind fun (digits, rest) => (readDigits 10 0 digits).map fun n => (-n, rest)
  | '+' :: rest =>
      (readRun rest).bind fun (digits, rest) => (readDigits 10 0 digits).map fun n => (n, rest)
  | rest =>
      (readRun rest).bind fun (digits, rest) => (readDigits 10 0 digits).map fun n => (n, rest)

def readExponent : List Char → Option (Option Int × List Char)
  | 'e' :: rest => (readPower rest).map fun (power, rest) => (some power, rest)
  | 'E' :: rest => (readPower rest).map fun (power, rest) => (some power, rest)
  | source => some (none, source)

/-- The number that leading digits denote as far as it fits a 64-bit word, after the digits of a
number read before, and the digits left over. -/
def readWord : Nat → List Char → Nat × List Char
  | value, [] => (value, [])
  | value, c :: rest =>
      let longer := 10 * value + (c.toNat - 0x30)
      if longer < wordBound then readWord longer rest else (value, c :: rest)

/-- The value of a number: an integer if it is written as one, fits a 64-bit word and is not a
negative zero. In a fraction only the leading digits that fit a word count; integral digits after
them each stand for a power of ten. -/
def numberOf (negative : Bool) (integral decimals : List Char) (exponent : Option Int) :
    Option Json :=
  let (whole, beyond) := readWord 0 integral
  let (digits, unread) := readWord whole decimals
  let power : Int := beyond.length - (decimals.length - unread.length) + exponent.getD 0
  let isInteger := decimals.isEmpty && exponent.isNone && beyond.isEmpty
  if isInteger && !negative then some (.integer whole)
  else if isInteger && 0 < whole && whole ≤ Nat.pow 2 63 then some (.integer (-(whole : Int)))
  else (Fraction.ofDecimal negative digits power).map .fraction

def readMagnitude (negative : Bool) (source : List Char) : Option (Json × List Char) := do
  let (integral, source) ← readIntegral source
  let (decimals, source) ← readDecimals source
  let (exponent, source) ← readExponent source
  let value ← numberOf negative integral decimals exponent
  return (value, source)

def readNumber : List Char → Option (Json × List Char)
  | '-' :: rest => readMagnitude true rest
  | source => readMagnitude false source

def lastFields : List (String × Json) → List (String × Json)
  | [] => []
  | (name, value) :: rest =>
      if rest.any fun later => later.1 == name then lastFields rest
      else (name, value) :: lastFields rest

mutual

/-- A value at the start of an input without leading blanks, and the input after it. -/
def readValue : Nat → List Char → Option (Json × List Char)
  | 0, _ => none
  | fuel + 1, source =>
      match source with
      | 'n' :: 'u' :: 'l' :: 'l' :: rest => some (.null, rest)
      | 't' :: 'r' :: 'u' :: 'e' :: rest => some (.bool true, rest)
      | 'f' :: 'a' :: 'l' :: 's' :: 'e' :: rest => some (.bool false, rest)
      | '"' :: rest =>
          (readQuoted fuel rest).map fun (inner, rest) =>
            (.text (String.ofList inner), rest)
      | '[' :: rest =>
          match skipBlanks rest with
          | ']' :: rest => some (.array [], rest)
          | rest => (readItems fuel rest).map fun (items, rest) => (.array items, rest)
      | '{' :: rest =>
          match skipBlanks rest with
          | '}' :: rest => some (.object [], rest)
          | rest =>
              (readFields fuel rest).map fun (fields, rest) => (.object (lastFields fields), rest)
      | _ => readNumber source

def readItems : Nat → List Char → Option (List Json × List Char)
  | 0, _ => none
  | fuel + 1, source =>
      match readValue fuel source with
      | none => none
      | some (item, rest) =>
          match skipBlanks rest with
          | ']' :: rest => some ([item], rest)
          | ',' :: rest =>
              (readItems fuel (skipBlanks rest)).map fun (items, rest) => (item :: items, rest)
          | _ => none

def readFields : Nat → List Char → Option (List (String × Json) × List Char)
  | 0, _ => none
  | fuel + 1, source =>
      match source with
      | '"' :: rest =>
          match readQuoted fuel rest with
          | none => none
          | some (name, rest) =>
              match skipBlanks rest with
              | ':' :: rest =>
                  match readValue fuel (skipBlanks rest) with
                  | none => none
                  | some (value, rest) =>
                      match skipBlanks rest with
                      | '}' :: rest => some ([(String.ofList name, value)], rest)
                      | ',' :: rest =>
                          (readFields fuel (skipBlanks rest)).map fun (fields, rest) =>
                            ((String.ofList name, value) :: fields, rest)
                      | _ => none
              | _ => none
      | _ => none

end

def ofText? (source : String) : Option Json :=
  let characters := skipBlanks source.toList
  match readValue (characters.length + 1) characters with
  | some (value, rest) => if skipBlanks rest = [] then some value else none
  | none => none

end ChannelAccess.Json
