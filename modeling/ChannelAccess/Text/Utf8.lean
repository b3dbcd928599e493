/-!
# UTF-8

Splitting bytes into the characters they encode and the bytes that belong to none. A character takes
one to four bytes and is written in its shortest form; surrogates and numbers beyond U+10FFFF have
no form. A fault is as long as the bytes in it could have started a character; a lenient reader puts
one replacement character in its place.
-/

namespace ChannelAccess.Text

set_option autoImplicit false

def continuation (byte : UInt8) : Option Nat :=
  if 0x80 ≤ byte.toNat ∧ byte.toNat ≤ 0xBF then some (byte.toNat - 0x80) else none

/-- A code point if it needs at least the given size and is no surrogate. -/
def codePoint (least value : Nat) : Option Char :=
  if least ≤ value ∧ value.isValidChar then some (Char.ofNat value) else none

def leadingChar : List UInt8 → Option (Char × Nat)
  | [] => none
  | first :: rest =>
      let lead := first.toNat
      if lead < 0x80 then some (Char.ofNat lead, 1)
      else if 0xC0 ≤ lead ∧ lead < 0xE0 then
        match rest with
        | second :: _ => do
            let b ← continuation second
            let c ← codePoint 0x80 ((lead - 0xC0) * 0x40 + b)
            return (c, 2)
        | _ => none
      else if 0xE0 ≤ lead ∧ lead < 0xF0 then
        match rest with
        | second :: third :: _ => do
            let b ← continuation second
            let c ← continuation third
            let d ← codePoint 0x800 (((lead - 0xE0) * 0x40 + b) * 0x40 + c)
            return (d, 3)
        | _ => none
      else if 0xF0 ≤ lead ∧ lead < 0xF8 then
        match rest with
        | second :: third :: fourth :: _ => do
            let b ← continuation second
            let c ← continuation third
            let d ← continuation fourth
            let e ← codePoint 0x10000 ((((lead - 0xF0) * 0x40 + b) * 0x40 + c) * 0x40 + d)
            return (e, 4)
        | _ => none
      else none

inductive Utf8Piece where
  | character (c : Char)
  | stray (byte : UInt8)

/-- The pieces of a byte sequence, read with as many steps as it has bytes. -/
def utf8Pieces : Nat → List UInt8 → List Utf8Piece
  | 0, _ => []
  | _, [] => []
  | fuel + 1, byte :: rest =>
      match leadingChar (byte :: rest) with
      | some (c, size) => .character c :: utf8Pieces fuel ((byte :: rest).drop size)
      | none => .stray byte :: utf8Pieces fuel rest

def characters? : List Utf8Piece → Option (List Char)
  | [] => some []
  | .character c :: rest => (characters? rest).map (c :: ·)
  | .stray _ :: _ => none

def ofUtf8? (bytes : List UInt8) : Option String :=
  (characters? (utf8Pieces bytes.length bytes)).map String.ofList

/-- How many bytes follow the lead byte of a character, and the bounds of the first of them. -/
def followers (lead : Nat) : Option (Nat × Nat × Nat) :=
  if 0xC2 ≤ lead ∧ lead < 0xE0 then some (1, 0x80, 0xBF)
  else if lead = 0xE0 then some (2, 0xA0, 0xBF)
  else if lead = 0xED then some (2, 0x80, 0x9F)
  else if 0xE0 < lead ∧ lead < 0xF0 then some (2, 0x80, 0xBF)
  else if lead = 0xF0 then some (3, 0x90, 0xBF)
  else if 0xF0 < lead ∧ lead < 0xF4 then some (3, 0x80, 0xBF)
  else if lead = 0xF4 then some (3, 0x80, 0x8F)
  else none

/-- The length of the fault at the start of bytes that start with no character, unless they end
before it can be told. -/
def faultLength : List UInt8 → Option Nat
  | [] => none
  | first :: rest =>
      match followers first.toNat with
      | none => some 1
      | some (count, low, high) =>
          match rest with
          | [] => none
          | second :: more =>
              if low ≤ second.toNat ∧ second.toNat ≤ high then
                let fitting := (more.take (count - 1)).takeWhile fun byte =>
                  (continuation byte).isSome
                if fitting.length = more.length then none else some (2 + fitting.length)
              else some 1

structure Utf8Fault where
  index : Nat
  /-- The length of the fault, unless the bytes end inside a character. -/
  size : Option Nat
deriving DecidableEq

def Utf8Fault.message (fault : Utf8Fault) : String :=
  let place := " from index " ++ String.ofList (Nat.toDigits 10 fault.index)
  match fault.size with
  | some size =>
      "invalid utf-8 sequence of " ++ String.ofList (Nat.toDigits 10 size) ++ " bytes" ++ place
  | none => "incomplete utf-8 byte sequence" ++ place

def findFault : Nat → Nat → List UInt8 → Option Utf8Fault
  | _, 0, _ => none
  | _, _, [] => none
  | index, fuel + 1, byte :: rest =>
      match leadingChar (byte :: rest) with
      | some (_, size) => findFault (index + size) fuel ((byte :: rest).drop size)
      | none => some ⟨index, faultLength (byte :: rest)⟩

def utf8Fault? (bytes : List UInt8) : Option Utf8Fault :=
  findFault 0 bytes.length bytes

/-- What stands for a fault where bytes are read leniently. -/
def replacement : Char :=
  Char.ofNat 0xFFFD

def lenientChars : Nat → List UInt8 → List Char
  | 0, _ => []
  | _, [] => []
  | fuel + 1, byte :: rest =>
      match leadingChar (byte :: rest) with
      | some (c, size) => c :: lenientChars fuel ((byte :: rest).drop size)
      | none =>
          let length := (faultLength (byte :: rest)).getD (rest.length + 1)
          replacement :: lenientChars fuel ((byte :: rest).drop length)

/-- The characters of some bytes, with a replacement for every fault. -/
def ofUtf8Lenient (bytes : List UInt8) : List Char :=
  lenientChars bytes.length bytes

end ChannelAccess.Text
