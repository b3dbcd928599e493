import ChannelAccess.Text.Blank
import ChannelAccess.Text.Numeral
import ChannelAccess.Text.Utf8

/-!
# Percent escapes

The bytes that a text with percent escapes denotes. An escape is a percent sign and two hexadecimal
digits; a percent sign that no two digits follow stands for itself, and every other character for
the bytes that encode it. In a query a plus sign stands for a blank as well.
-/

namespace ChannelAccess.Text

set_option autoImplicit false

def escapedByte (high low : UInt8) : Option UInt8 := do
  let upper ← digitIn 16 (Char.ofNat high.toNat)
  let lower ← digitIn 16 (Char.ofNat low.toNat)
  return UInt8.ofNat (16 * upper + lower)

def unescapeBytes : List UInt8 → List UInt8
  | first :: high :: low :: rest =>
      match if first.toNat = 0x25 then escapedByte high low else none with
      | some byte => byte :: unescapeBytes rest
      | none => first :: unescapeBytes (high :: low :: rest)
  | first :: rest => first :: unescapeBytes rest
  | [] => []

def unescape (source : List Char) : List UInt8 :=
  unescapeBytes (source.flatMap String.utf8EncodeChar)

def readQueryPart (source : List Char) : List Char :=
  ofUtf8Lenient (unescape (source.map fun c => if c = '+' then ' ' else c))

/-- The named values of a query: pieces between ampersands, each split at its first equals sign.
Empty pieces do not count. -/
def queryPairs (source : List Char) : List (String × String) :=
  ((split '&' source).filter fun piece => !piece.isEmpty).map fun piece =>
    (String.ofList (readQueryPart (piece.takeWhile (· ≠ '='))),
      String.ofList (readQueryPart ((piece.dropWhile (· ≠ '=')).drop 1)))

end ChannelAccess.Text
