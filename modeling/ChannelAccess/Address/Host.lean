import ChannelAccess.Address.Name
import ChannelAccess.Address.Number
import ChannelAccess.Text.Percent

/-!
# Hosts in addresses

The host that the host part of an address names, and why an address is refused. A number of the
newer kind stands in brackets. In a web address the host is unescaped and read as an international
name, and a name that ends in a number is one; in any other address the host stays as it is written.
-/

namespace ChannelAccess

set_option autoImplicit false

inductive AddressFault where
  | relative
  | emptyHost
  /-- The port is no number of 16 bits. -/
  | port
  | grouped
  /-- A host of a web address ends in a number but is none. -/
  | quad
  | hostCharacter
  | internationalName
deriving DecidableEq

def AddressFault.message : AddressFault → String
  | .relative => "relative URL without a base"
  | .emptyHost => "empty host"
  | .port => "invalid port number"
  | .grouped => "invalid IPv6 address"
  | .quad => "invalid IPv4 address"
  | .hostCharacter => "invalid domain character"
  | .internationalName => "invalid international domain name"

namespace Address

open Text

inductive Host where
  | number
  | name (characters : List Char)
deriving DecidableEq

def isForbidden (c : Char) : Bool :=
  isSeparator c || c == ' ' || c == '\t' || c == '\n' || c == '\r' || c.toNat == 0

def webHost (source : List Char) : Except AddressFault Host :=
  match Name.read (ofUtf8Lenient (unescape source)) with
  | none => .error .internationalName
  | some name =>
      if name.isEmpty then .error .emptyHost
      else if endsInNumber name then
        if isShortQuad name then .ok .number else .error .quad
      else .ok (.name name)

def openHost (web : Bool) (source : List Char) : Except AddressFault (Option Host) :=
  if web then (webHost source).map some
  else if source.any isForbidden then .error .hostCharacter
  else .ok (if source.isEmpty then none else some (.name source))

def readHost (web : Bool) (source : List Char) : Except AddressFault (Option Host) :=
  match source with
  | '[' :: rest =>
      if rest.getLast? = some ']' ∧ isGrouped rest.dropLast = true then .ok (some .number)
      else .error .grouped
  | plain => openHost web plain

end Address

end ChannelAccess
