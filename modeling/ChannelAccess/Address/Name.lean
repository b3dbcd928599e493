import ChannelAccess.Address.Name.Direction
import ChannelAccess.Address.Name.Joining
import ChannelAccess.Address.Name.Mark
import ChannelAccess.Address.Name.Spelling
import ChannelAccess.Text.Punycode
import ChannelAccess.Text.Utf8

/-!
# Names of hosts

The name that a text in a web address denotes, by Unicode's rules for international names: labels
with points between them, in small letters and normal form. A label may also be written with ASCII
characters only, after four characters that announce it. No label starts with a mark, joiners stand
where they show, and a name with parts from right to left can be read one way only.
-/

namespace ChannelAccess.Address

set_option autoImplicit false

open Text

def isSeparator (c : Char) : Bool :=
  "#/:<>?@[\\]^|".toList.contains c

namespace Name

/-- Whether no name has a character, although the rules for international names know it. -/
def isDenied (c : Char) : Bool :=
  isSeparator c || c == '%' || c.toNat ≤ 0x20 || c.toNat == 0x7F

def spell (source : List Char) : Option (List Char) :=
  (source.mapM spelling?).map fun spelled => normalize spelled.flatten

def isAscii (c : Char) : Bool :=
  c.toNat < 0x80

def codeLimit : Nat := 2000

/-- How many characters a label has at most that is not written in ASCII. -/
def labelLimit : Nat := 1000

/-- Whether each character of a label stands for itself and the form of the label is normal. -/
def isSpelled (label : List Char) : Bool :=
  label.all allowed.contains && normalize label == label

def decodeLabel (code : List Char) : Option (List Char) :=
  if code.all isAscii && code.length ≤ codeLimit && code.getLast?.any (· ≠ '-') then
    (Punycode.decode code).filter isSpelled
  else none

def readLabel : List Char → Option (List Char)
  | 'x' :: 'n' :: '-' :: '-' :: code => decodeLabel code
  | label => some label

def isLabel (label : List Char) : Bool :=
  !label.any isDenied && !startsWithMark label && areJoinersFit [] label &&
    (label.all isAscii || label.length ≤ labelLimit)

def read (source : List Char) : Option (List Char) := do
  let labels ← (split '.' (← spell source)).mapM readLabel
  if labels.all isLabel && isUnambiguous labels then some (['.'].intercalate labels) else none

end Name

end ChannelAccess.Address
