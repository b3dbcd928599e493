import Std.Data.ExtTreeMap
import ChannelAccess.Text.Numeral

/-!
# Universally unique identifiers

Users, roles, channels and overrides are named by 128-bit identifiers. They are written as 32
lower-case hexadecimal digits in five groups, and ordered by their number, which is also the order
of their texts. A reader takes digits of either case in four layouts: with hyphens, without them,
with hyphens between braces, and with hyphens after `urn:uuid:`, whose letters may be of either
case as well.
-/

namespace ChannelAccess

set_option autoImplicit false

@[ext]
structure Uuid where
  value : BitVec 128
deriving DecidableEq

namespace Uuid

open ChannelAccess.Text

instance : Ord Uuid := ⟨compareOn Uuid.value⟩

instance : Std.TransOrd Uuid :=
  inferInstanceAs (Std.TransCmp (compareOn Uuid.value))

instance : Std.LawfulEqOrd Uuid where
  eq_of_compare {first second} same := by
    have sameValue : compare first.value second.value = .eq := same
    exact Uuid.ext (Std.LawfulEqCmp.eq_of_compare sameValue)

def zero : Uuid :=
  ⟨0#128⟩

instance : Inhabited Uuid := ⟨zero⟩

/-- The identifier of a number, whose bits beyond 128 are dropped. -/
def ofNat (number : Nat) : Uuid :=
  ⟨BitVec.ofNat 128 number⟩

def toNat (id : Uuid) : Nat :=
  id.value.toNat

def digits (id : Uuid) : List Char :=
  let written := writeNat 16 id.toNat
  List.replicate (32 - written.length) '0' ++ written

def characters (id : Uuid) : List Char :=
  let all := id.digits
  all.take 8 ++ '-' :: ((all.drop 8).take 4 ++ '-' :: ((all.drop 12).take 4 ++
    '-' :: ((all.drop 16).take 4 ++ '-' :: all.drop 20)))

def text (id : Uuid) : String :=
  String.ofList id.characters

def ofDigits? (source : List Char) : Option Uuid :=
  if source.length = 32 then (readDigits 16 0 source).map ofNat else none

def ofHyphenated? (source : List Char) : Option Uuid :=
  if source.length = 36 ∧ source[8]? = some '-' ∧ source[13]? = some '-' ∧
      source[18]? = some '-' ∧ source[23]? = some '-' then
    ofDigits? (source.take 8 ++ (source.drop 9).take 4 ++ (source.drop 14).take 4 ++
      (source.drop 19).take 4 ++ source.drop 24)
  else none

/-- What a text in the layout of a uniform resource name starts with. -/
def namespaceStart : List Char :=
  "urn:uuid:".toList

/-- The identifier that a text denotes in any of the four layouts. -/
def ofText? (source : String) : Option Uuid :=
  match source.toList with
  | '{' :: rest => if rest.getLast? = some '}' then ofHyphenated? rest.dropLast else none
  | plain =>
      if (plain.take 9).map Char.toLower = namespaceStart then ofHyphenated? (plain.drop 9)
      else if plain.length = 32 then ofDigits? plain
      else ofHyphenated? plain

end Uuid

abbrev UserId := Uuid

abbrev ChannelId := Uuid

abbrev RoleId := Uuid

/-- Values filed under identifiers, in the order of the identifiers. -/
abbrev IdMap (α : Type) := Std.ExtTreeMap Uuid α

namespace IdMap

/-- The map of some entries, the last one where an identifier is repeated. -/
def ofEntries {α : Type} (entries : List (Uuid × α)) : IdMap α :=
  entries.foldl (fun filed entry => filed.insert entry.1 entry.2) ∅

def overlay {α : Type} (base top : IdMap α) : IdMap α :=
  top.toList.foldl (fun filed entry => filed.insert entry.1 entry.2) base

end IdMap

end ChannelAccess
