import ChannelAccess.Address.Host

/-!
# Addresses of servers

Reading an address: a scheme, then after two slashes a user, a password, a host and a port, then a
path and a query. Blanks and control characters around an address do not count, nor, but after a
drive, do tabs and line breaks inside. How the part after the scheme is read depends on the scheme:
a web address always has a host and takes backslashes for slashes, a file address has a host only
after two slashes and no port, and in any other address the host may be missing or empty.
-/

namespace ChannelAccess

set_option autoImplicit false

structure Address where
  user : List Char
  /-- The password, with escapes; empty if there is none. -/
  password : List Char
  host : Option Address.Host
  /-- The port, unless it is the usual one. -/
  port : Option Nat
  /-- The path without its first slash, with escapes. -/
  path : List Char
  /-- The query, with escapes; empty if there is none. -/
  query : List Char
deriving DecidableEq

namespace Address

open Text

inductive Scheme where
  | web (port : Nat)
  | file
  | other
deriving DecidableEq

namespace Scheme

def webPorts : List (String × Nat) :=
  [("http", 80), ("https", 443), ("ws", 80), ("wss", 443), ("ftp", 21)]

def ofName (name : String) : Scheme :=
  match webPorts.lookup name with
  | some port => .web port
  | none => if name = "file" then .file else .other

def usualPort : Scheme → Option Nat
  | .web port => some port
  | _ => none

def isSlash (scheme : Scheme) (c : Char) : Bool :=
  c == '/' || (c == '\\' && scheme != .other)

def endsHost (scheme : Scheme) (c : Char) : Bool :=
  scheme.isSlash c || c == '?' || c == '#'

end Scheme

def trimEdges (source : List Char) : List Char :=
  let isEdge (c : Char) : Bool := c.toNat ≤ 0x20
  ((source.dropWhile isEdge).reverse.dropWhile isEdge).reverse

def isBreak (c : Char) : Bool :=
  c == '\t' || c == '\n' || c == '\r'

def dropBreaks (source : List Char) : List Char :=
  source.filter fun c => !isBreak c

def isSchemeCharacter (c : Char) : Bool :=
  c.isAlphanum || c == '+' || c == '-' || c == '.'

def readScheme : List Char → Option (Scheme × List Char)
  | [] => none
  | first :: rest =>
      match first.isAlpha, rest.dropWhile isSchemeCharacter with
      | true, ':' :: after =>
          let name := (first :: rest.takeWhile isSchemeCharacter).map Char.toLower
          some (.ofName (String.ofList name), after)
      | _, _ => none

/-- The credentials before the last at sign, if there is one, and the place after it. -/
def splitCredentials (source : List Char) : Option (List Char) × List Char :=
  if source.contains '@' then
    let reversed := source.reverse
    (some ((reversed.dropWhile (· ≠ '@')).drop 1).reverse,
      (reversed.takeWhile (· ≠ '@')).reverse)
  else (none, source)

/-- The texts before and from the first colon that is not in brackets, where `inside` tells whether
a bracket is open. -/
def splitPort (inside : Bool) : List Char → List Char × List Char
  | [] => ([], [])
  | c :: rest =>
      if c = ':' ∧ inside = false then ([], c :: rest)
      else
        let inside := if c = '[' then true else if c = ']' then false else inside
        let (host, port) := splitPort inside rest
        (c :: host, port)

/-- The port that a text denotes, if it is not the usual one. An empty text denotes none. -/
def readPort (usual : Option Nat) (source : List Char) : Except AddressFault (Option Nat) :=
  match (readDigits 10 0 source).filter (· < Nat.pow 2 16) with
  | none => .error .port
  | some port => .ok (if source = [] ∨ some port = usual then none else some port)

/-- Reads what follows the two slashes: an address without path and query, and the rest. -/
def readAuthority (scheme : Scheme) (source : List Char) :
    Except AddressFault (Address × List Char) := do
  let authority := source.takeWhile fun c => !scheme.endsHost c
  let rest := source.dropWhile fun c => !scheme.endsHost c
  let (credentials, place) := splitCredentials authority
  if credentials = some [] ∧ place = [] ∧ rest ≠ [] then throw .emptyHost
  let user := (credentials.getD []).takeWhile (· ≠ ':')
  let password := ((credentials.getD []).dropWhile (· ≠ ':')).drop 1
  let (written, port) := splitPort false place
  let host ← if scheme.usualPort.isSome ∧ written = [] then throw .emptyHost
    else readHost scheme.usualPort.isSome written
  if host = none ∧ port ≠ [] then throw .emptyHost
  let number ← readPort scheme.usualPort ((port.drop 1).takeWhile (· ≠ '\\'))
  if host = none ∧ (user ≠ [] ∨ password ≠ []) then throw .emptyHost
  return (⟨user, password, host, number, [], []⟩, (port.drop 1).dropWhile (· ≠ '\\') ++ rest)

def isDrive : List Char → Bool
  | [letter, mark] => letter.isAlpha && (mark == ':' || mark == '|')
  | _ => false

/-- Reads what follows the two slashes of a file's address. The host of the machine itself does not
count, and a drive belongs to the path. -/
def readFileHost (source : List Char) : Except AddressFault (Option Host × List Char) := do
  let written := dropBreaks (source.takeWhile fun c => !Scheme.file.endsHost c)
  if isDrive written = true then return (none, source)
  let rest := source.dropWhile fun c => !Scheme.file.endsHost c
  let host ← if written = [] then pure none else readHost true written
  return (host.filter (· ≠ .name "localhost".toList), rest)

/-- A piece of a path with its escaped points written out, as far as points are concerned. -/
def plainPoints : List Char → List Char
  | '%' :: '2' :: 'e' :: rest => '.' :: plainPoints rest
  | '%' :: '2' :: 'E' :: rest => '.' :: plainPoints rest
  | c :: rest => c :: plainPoints rest
  | [] => []

/-- The drive at the start of a piece and what follows it, if a tab or a line break ends it. -/
def splitDrive? (piece : List Char) : Option (List Char × List Char) :=
  let drive := dropBreaks (piece.takeWhile (· ≠ ':')) ++ [':']
  let rest := (piece.dropWhile (· ≠ ':')).drop 1
  if isDrive drive && rest.head?.any isBreak && !(dropBreaks rest).isEmpty then
    some (drive, dropBreaks rest)
  else none

/-- The pieces of a path without those of one or two points, where `kept` holds the pieces before
them, last one first. One point stands for nothing and two take the piece before them away, unless
it is a drive; at the end of a path either leaves an empty piece. A tab or a line break ends a drive
at the start of a path, and does not count anywhere else. -/
def resolvePoints (kept : List (List Char)) : List (List Char) → List (List Char)
  | [] => kept.reverse
  | written :: rest =>
      let piece := dropBreaks written
      let points := plainPoints piece
      let isRemoved := points = ['.', '.'] ∧ kept.head?.any isDrive = false
      let before := if isRemoved then kept.drop 1 else kept
      match if kept.isEmpty then splitDrive? written else none with
      | some (drive, after) => resolvePoints [after, drive] rest
      | none =>
          if points = ['.'] ∨ points = ['.', '.'] then
            if rest.isEmpty then ([] :: before).reverse else resolvePoints before rest
          else resolvePoints (piece :: kept) rest

def resolvePath (scheme : Scheme) (source : List Char) : List (List Char) :=
  let slashed := (source.map fun c => if scheme.isSlash c then '/' else c).dropWhile isBreak
  resolvePoints [] (split '/' (if slashed.head? = some '/' then slashed.drop 1 else slashed))

/-- An address of a file with a path of some pieces. A drive at its start has no host, and slashes
at its start do not count. -/
def withFile (address : Address) (pieces : List (List Char)) : Address :=
  let host := if pieces.head?.any isDrive then none else address.host
  { address with host := host, path := (['/'].intercalate pieces).dropWhile (· = '/') }

/-- An address with the path and the query that follow it. A path that is no list of pieces stays as
it is. -/
def withPath (address : Address) (scheme : Scheme) (listed : Bool) (source : List Char) :
    Address :=
  let path := source.takeWhile fun c => c != '?' && c != '#'
  let query := match source.dropWhile fun c => c != '?' && c != '#' with
    | '?' :: rest => rest.takeWhile (· ≠ '#')
    | _ => []
  let pieces := resolvePath scheme path
  let placed :=
    if listed = false then { address with path := path }
    else if scheme = .file then address.withFile pieces
    else { address with path := ['/'].intercalate pieces }
  { placed with query := dropBreaks query }

def blank : Address :=
  ⟨[], [], none, none, [], []⟩

/-- Reads what follows the colon in an address of a file, tabs and line breaks included. -/
def readFile (source : List Char) : Except AddressFault Address := do
  let first := source.dropWhile isBreak
  let second := (first.drop 1).dropWhile isBreak
  if first.head?.any Scheme.file.isSlash && second.head?.any Scheme.file.isSlash then
    let (host, rest) ← readFileHost (second.drop 1)
    return withPath { blank with host := host } .file true rest
  else return blank.withPath .file true source

def readWeb (scheme : Scheme) (source : List Char) : Except AddressFault Address := do
  let (address, rest) ← readAuthority scheme (source.dropWhile scheme.isSlash)
  return address.withPath scheme true rest

def readOther : List Char → Except AddressFault Address
  | '/' :: '/' :: source => do
      let (address, rest) ← readAuthority .other source
      return address.withPath .other true rest
  | source => return blank.withPath .other (source.head? = some '/') source

def read (source : String) : Except AddressFault Address :=
  let text := trimEdges source.toList
  match readScheme (dropBreaks text) with
  | none => .error .relative
  | some (.web port, rest) => readWeb (.web port) rest
  | some (.file, _) => readFile ((text.dropWhile (· ≠ ':')).drop 1)
  | some (.other, rest) => readOther rest

end Address

end ChannelAccess
