import Std.Data.ExtTreeMap

/-!
# A server of keys

The shared cache server: keys that hold either a text or a set of members with scores, some of them
with an expiry. A key is gone the moment its time is over, and a set without members does not exist.
A command on a key of the wrong kind is refused. Several commands can run as one script; a script
that is refused half-way keeps what it did.
-/

namespace ChannelAccess

set_option autoImplicit false

inductive Stored where
  | text (value : String)
  | members (scores : Std.ExtTreeMap String Int)

structure Slot where
  content : Stored
  expiry : Option Nat

/-- The keys of a server. Times are microseconds. -/
structure Keyspace where
  clock : Nat
  slots : Std.ExtTreeMap String Slot

namespace Keyspace

def second : Nat := 1000000

def blank (clock : Nat) : Keyspace :=
  ⟨clock, ∅⟩

def seconds (space : Keyspace) : Nat :=
  space.clock / second

def lives (clock : Nat) (slot : Slot) : Bool :=
  match slot.expiry with
  | none => true
  | some expiry => clock < expiry

/-- The server at a later time, without the keys that are over by then. -/
def advance (space : Keyspace) (micros : Nat) : Keyspace :=
  let clock := space.clock + micros
  ⟨clock, space.slots.filter fun _ slot => lives clock slot⟩

def erase (space : Keyspace) (key : String) : Keyspace :=
  { space with slots := space.slots.erase key }

def isVoid : Stored → Bool
  | .text _ => false
  | .members scores => scores.isEmpty

/-- The server with a slot under a key. A set without members takes the key away. -/
def put (space : Keyspace) (key : String) (slot : Slot) : Keyspace :=
  if isVoid slot.content then space.erase key
  else { space with slots := space.slots.insert key slot }

def wrongKind : String :=
  "WRONGTYPE Operation against a key holding the wrong kind of value"

def textAt (space : Keyspace) (key : String) : Except String (Option String) :=
  match space.slots[key]? with
  | none => .ok none
  | some ⟨.text value, _⟩ => .ok (some value)
  | some ⟨.members _, _⟩ => .error wrongKind

/-- The members of a set and its expiry; an absent key is a set without members. -/
def membersAt (space : Keyspace) (key : String) :
    Except String (Std.ExtTreeMap String Int × Option Nat) :=
  match space.slots[key]? with
  | none => .ok (∅, none)
  | some ⟨.members scores, expiry⟩ => .ok (scores, expiry)
  | some ⟨.text _, _⟩ => .error wrongKind

end Keyspace

/-- Commands run as a whole: a refusal carries the server's reply, and what was done before stays.
-/
abbrev KeyspaceScript (α : Type) := ExceptT String (StateM Keyspace) α

namespace KeyspaceScript

/-- The reply to a script that computes with something that is no number. -/
def notANumber : String :=
  "ERR value is not an integer or out of range"

def current : KeyspaceScript Keyspace :=
  MonadState.get

def get (key : String) : KeyspaceScript (Option String) := do
  MonadExcept.ofExcept ((← current).textAt key)

/-- The texts under several keys; a key of the other kind counts as absent. -/
def getAll (keys : List String) : KeyspaceScript (List (Option String)) := do
  let space ← current
  return keys.map fun key =>
    match space.textAt key with
    | .ok found => found
    | .error _ => none

/-- Puts a text under a key of whatever kind, for a number of seconds. -/
def set (key value : String) (seconds : Nat) : KeyspaceScript Unit :=
  modify fun space =>
    space.put key ⟨.text value, some (space.clock + seconds * Keyspace.second)⟩

def delete (key : String) : KeyspaceScript Unit :=
  modify fun space => space.erase key

def members (key : String) : KeyspaceScript (Std.ExtTreeMap String Int × Option Nat) := do
  MonadExcept.ofExcept ((← current).membersAt key)

def storeMembers (key : String) (scores : Std.ExtTreeMap String Int) (expiry : Option Nat) :
    KeyspaceScript Unit :=
  modify fun space => space.put key ⟨.members scores, expiry⟩

def addMember (key member : String) (score : Int) : KeyspaceScript Unit := do
  let (scores, expiry) ← members key
  storeMembers key (scores.insert member score) expiry

def removeMember (key member : String) : KeyspaceScript Unit := do
  let (scores, expiry) ← members key
  storeMembers key (scores.erase member) expiry

def removeUpTo (key : String) (score : Int) : KeyspaceScript Unit := do
  let (scores, expiry) ← members key
  storeMembers key (scores.filter fun _ given => score < given) expiry

/-- The members of a set in order of score, then of member. -/
def range (key : String) : KeyspaceScript (List String) := do
  let (scores, _) ← members key
  return (scores.toList.mergeSort fun first second => first.2 ≤ second.2).map (·.1)

def count (key : String) : KeyspaceScript Nat := do
  let (scores, _) ← members key
  return scores.size

def expire (key : String) (seconds : Nat) : KeyspaceScript Unit :=
  modify fun space =>
    match space.slots[key]? with
    | none => space
    | some slot =>
        space.put key ⟨slot.content, some (space.clock + seconds * Keyspace.second)⟩

def time : KeyspaceScript Nat := do
  return (← current).seconds

end KeyspaceScript

end ChannelAccess
