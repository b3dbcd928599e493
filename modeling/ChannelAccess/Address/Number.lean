import ChannelAccess.Text.Blank
import ChannelAccess.Text.Numeral

/-!
# Numbered hosts

The written forms of the numbers that hosts have. A number of the older kind is four decimal numbers
below 256 with points between them and no leading zeros; a reader of web addresses also takes fewer
parts, the last one filling the places of the missing ones, and parts in octal and hexadecimal. A
number of the newer kind is eight groups of one to four hexadecimal digits with colons between them.
Two adjacent colons, once, stand for one or more groups of zeros, and a number of the older kind may
stand for the last two groups.
-/

namespace ChannelAccess.Address

set_option autoImplicit false

open Text

def isOctet (source : List Char) : Bool :=
  match source with
  | [] => false
  | first :: rest =>
      (first ≠ '0' || rest.isEmpty) && (readDigits 10 0 source).any (· < 256)

/-- Whether a text is a number of the older kind, written in full. -/
def isQuad (source : List Char) : Bool :=
  let parts := split '.' source
  parts.length = 4 && parts.all isOctet

/-- The number that a part of a short form denotes: hexadecimal after `0x`, octal after any other
zero, and decimal otherwise. -/
def shortPart : List Char → Option Nat
  | [] => none
  | '0' :: 'x' :: digits => readDigits 16 0 digits
  | '0' :: 'X' :: digits => readDigits 16 0 digits
  | '0' :: digit :: digits => readDigits 8 0 (digit :: digits)
  | digits => readDigits 10 0 digits

/-- The parts of a short form. A point at its end does not count. -/
def shortParts (source : List Char) : List (List Char) :=
  let parts := split '.' source
  if parts.getLast? = some [] then parts.dropLast else parts

/-- Whether a text can only be meant as a number: its last part is one, or at least has digits
only. -/
def endsInNumber (source : List Char) : Bool :=
  match (shortParts source).getLast? with
  | none => false
  | some last => (!last.isEmpty && last.all Char.isDigit) || (shortPart last).isSome

def isShortQuad (source : List Char) : Bool :=
  let values := (shortParts source).map shortPart
  match values.reverse with
  | [] => false
  | last :: others =>
      others.length < 4 && last.any (· < Nat.pow 256 (4 - others.length)) &&
        others.all fun value => value.any (· < 256)

def isGroup (source : List Char) : Bool :=
  !source.isEmpty && source.length ≤ 4 && (readDigits 16 0 source).isSome

/-- How many groups there are in the parts of a number of the newer kind, where `tail` tells whether
they may end in a number of the older kind. -/
def groupCount (tail : Bool) : List (List Char) → Option Nat
  | [] => some 0
  | [last] =>
      if isGroup last then some 1 else if tail && isQuad last then some 2 else none
  | first :: rest => if isGroup first then (groupCount tail rest).map (· + 1) else none

def splitGap : List Char → Option (List Char × List Char)
  | [] => none
  | ':' :: ':' :: rest => some ([], rest)
  | c :: rest => (splitGap rest).map fun (before, after) => (c :: before, after)

/-- How many groups a text has, where an empty text has none. -/
def groupsOf (tail : Bool) (source : List Char) : Option Nat :=
  if source.isEmpty then some 0 else groupCount tail (split ':' source)

def isGrouped (source : List Char) : Bool :=
  match splitGap source with
  | none => groupsOf true source = some 8
  | some (before, after) =>
      match groupsOf false before, groupsOf true after with
      | some first, some second => first + second < 8
      | _, _ => false

def isNumber (source : List Char) : Bool :=
  isQuad source || isGrouped source

end ChannelAccess.Address
