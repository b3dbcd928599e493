import ChannelAccess.Json.Choice
import ChannelAccess.Mask
import ChannelAccess.Text.Blank
import ChannelAccess.Text.Numeral

/-!
# Masks as text

A mask is written as the labels of its flags in bit order, then one hexadecimal number for its
reserved bits if it has any, joined by ` | `. The empty mask is the empty text. Reading is wider
than writing: terms may come in any order and overlap, may stand between any white space, and a
number may denote named bits too. The first bad term from the left decides the error.
-/

namespace ChannelAccess.Mask

set_option autoImplicit false

open ChannelAccess.Text

def terms (mask : Mask) : List (List Char) :=
  mask.flags.map (fun flag => flag.label.toList) ++
    (if mask.reserved.isEmpty then []
     else ['0' :: 'x' :: writeNat 16 mask.reserved.toNat])

def text (mask : Mask) : String :=
  String.ofList ([' ', '|', ' '].intercalate mask.terms)

/-- The text of a mask inside messages, where the empty mask is the number zero. -/
def description (mask : Mask) : String :=
  let inner := if mask.isEmpty then "0x0" else mask.text
  "Permissions(" ++ inner ++ ")"

inductive TextError where
  | emptyTerm
  /-- The digits after `0x` denote no 64-bit number. -/
  | badNumber
  | unknownName
deriving DecidableEq

def TextError.message : TextError → String
  | .emptyTerm => "encountered empty flag"
  | .badNumber => "invalid hex flag"
  | .unknownName => "unrecognized named flag"

def ofTrimmedTerm : List Char → Except TextError Mask
  | [] => .error .emptyTerm
  | '0' :: 'x' :: digits =>
      match readBelow 16 wordBound digits with
      | some value => .ok (ofNat value)
      | none => .error .badNumber
  | name =>
      match Flag.ofLabel? (String.ofList name) with
      | some flag => .ok (ofFlag flag)
      | none => .error .unknownName

/-- The union of the masks of some terms, or the error of the first bad one. -/
def ofTerms : List (List Char) → Except TextError Mask
  | [] => .ok ∅
  | term :: rest =>
      match ofTrimmedTerm (trim term) with
      | .error problem => .error problem
      | .ok mask =>
          match ofTerms rest with
          | .error problem => .error problem
          | .ok others => .ok (mask ∪ others)

def ofText (source : String) : Except TextError Mask :=
  if trim source.toList = [] then .ok ∅ else ofTerms (split '|' source.toList)

def ofJson : Json → Except JsonError Mask
  | .text source =>
      match ofText source with
      | .ok mask => .ok mask
      | .error problem => .error (.badText problem.message)
  | other => .error (.wrongKind other "a string value of `|` separated flags")

end ChannelAccess.Mask
