import ChannelAccess.Text.Hidden
import ChannelAccess.Text.Numeral
import ChannelAccess.Text.Utf8

/-!
# Quoted diagnostics

The form in which a message shows a foreign text: between double quotes, with escapes for double
quotes, backslashes and the usual control characters, and the code of every hidden character. Bytes
that are no UTF-8 are shown as two upper-case hexadecimal digits each.
-/

namespace ChannelAccess.Text

set_option autoImplicit false

def quoteChar (c : Char) : List Char :=
  if c = Char.ofNat 0 then ['\\', '0']
  else if c = '\t' then ['\\', 't']
  else if c = '\r' then ['\\', 'r']
  else if c = '\n' then ['\\', 'n']
  else if c = '\\' then ['\\', '\\']
  else if c = '"' then ['\\', '"']
  else if isHidden c then ['\\', 'u', '{'] ++ writeNat 16 c.toNat ++ ['}']
  else [c]

def quoteText (source : String) : String :=
  String.ofList ('"' :: (source.toList.flatMap quoteChar ++ ['"']))

def hexPair (byte : UInt8) : List Char :=
  let digit (value : Nat) : Char := Char.ofNat (if value < 10 then 0x30 + value else 0x37 + value)
  [digit (byte.toNat / 16), digit (byte.toNat % 16)]

def quotePiece : Utf8Piece → List Char
  | .character c => quoteChar c
  | .stray byte => '\\' :: 'x' :: hexPair byte

def quoteBytes (bytes : List UInt8) : String :=
  String.ofList ('"' :: ((utf8Pieces bytes.length bytes).flatMap quotePiece ++ ['"']))

end ChannelAccess.Text
