import ChannelAccess.Cache.Shared
import ChannelAccess.Proofs.Cache.KeyNames
import ChannelAccess.Proofs.Cache.Roster
import Mathlib.Logic.Function.Basic

/-!
# What the keys of a scope hold

The keys of one scope on a server, read as entries and indexes. A server depicts
such holdings if every key of the scope is exactly what they say; it may have any
other keys besides. Commands on the keys then are operations on the holdings, and
a script on the keys of the scope is never refused.
-/

namespace ChannelAccess

set_option autoImplicit false

@[ext]
structure Holdings where
  clock : Nat
  entry : EntryKey → Option TimedMask
  /-- The indexes, blank where they do not exist. -/
  index : IndexName → Roster

namespace Holdings

def blank (clock : Nat) : Holdings where
  clock := clock
  entry := fun _ => none
  index := fun _ => .blank

def seconds (held : Holdings) : Nat :=
  held.clock / Keyspace.second

def setEntry (held : Holdings) (key : EntryKey) (entry : Option TimedMask) : Holdings :=
  { held with entry := Function.update held.entry key entry }

def setIndex (held : Holdings) (name : IndexName) (roster : Roster) : Holdings :=
  { held with index := Function.update held.index name roster }

def advance (held : Holdings) (micros : Nat) : Holdings where
  clock := held.clock + micros
  entry := fun key => (held.entry key).filter fun entry => held.clock + micros < entry.expiry
  index := fun name => (held.index name).atTime (held.clock + micros)

@[simp]
theorem index_set_entry (held : Holdings) (key : EntryKey) (entry : Option TimedMask) :
    (held.setEntry key entry).index = held.index := rfl

@[simp]
theorem clock_set_index (held : Holdings) (name : IndexName) (roster : Roster) :
    (held.setIndex name roster).clock = held.clock := rfl

@[simp]
theorem entry_set_index (held : Holdings) (name : IndexName) (roster : Roster) :
    (held.setIndex name roster).entry = held.entry := rfl

theorem entry_set_entry (held : Holdings) (key other : EntryKey) (entry : Option TimedMask) :
    (held.setEntry key entry).entry other = if other = key then entry else held.entry other :=
  Function.update_apply ..

theorem index_set_index (held : Holdings) (name other : IndexName) (roster : Roster) :
    (held.setIndex name roster).index other = if other = name then roster else held.index other :=
  Function.update_apply ..

@[simp]
theorem index_set_index_self (held : Holdings) (name : IndexName) (roster : Roster) :
    (held.setIndex name roster).index name = roster :=
  Function.update_self ..

@[simp]
theorem set_index_set_index (held : Holdings) (name : IndexName) (first second : Roster) :
    (held.setIndex name first).setIndex name second = held.setIndex name second := by
  simp [setIndex]

def entrySlot (entry : TimedMask) : Slot :=
  ⟨.text (SharedCache.maskText entry.mask), some entry.expiry⟩

/-- Every key of a scope is what the holdings say, and so is the clock. -/
structure Depicts (names : KeyNames) (space : Keyspace) (held : Holdings) : Prop where
  clock : space.clock = held.clock
  entry : ∀ key, space.slots[names.entryKey key]? = (held.entry key).map entrySlot
  index : ∀ name, space.slots[names.indexKey name]? = (held.index name).slot?

variable {names : KeyNames} {space : Keyspace} {held : Holdings}

theorem seconds_of_depicts (depicts : Depicts names space held) :
    space.seconds = held.seconds := by
  rw [Keyspace.seconds, Holdings.seconds, depicts.clock]

theorem text_at_entry (depicts : Depicts names space held) (key : EntryKey) :
    space.textAt (names.entryKey key) =
      .ok ((held.entry key).map fun entry => SharedCache.maskText entry.mask) := by
  rw [Keyspace.textAt, depicts.entry key]
  cases held.entry key <;> rfl

theorem members_at_index (depicts : Depicts names space held) (name : IndexName) :
    space.membersAt (names.indexKey name) =
      .ok (Roster.texts (held.index name).scores, (held.index name).expiry) := by
  rw [Keyspace.membersAt, depicts.index name, Roster.slot?]
  by_cases empty : (held.index name).scores = ∅
  · have noExpiry := (held.index name).expiry_of_empty empty
    simp only [empty, noExpiry]
    rfl
  · simp [empty]

theorem get_put (space : Keyspace) (key other : String) (slot : Slot) :
    (space.put key slot).slots[other]? =
      if other = key then (if Keyspace.isVoid slot.content then none else some slot)
      else space.slots[other]? := by
  unfold Keyspace.put Keyspace.erase
  split <;>
    simp only [Std.ExtTreeMap.getElem?_erase, Std.ExtTreeMap.getElem?_insert,
      Std.compare_eq_iff_eq, eq_comm (a := key)]

theorem get_erase (space : Keyspace) (key other : String) :
    (space.erase key).slots[other]? = if other = key then none else space.slots[other]? := by
  simp only [Keyspace.erase, Std.ExtTreeMap.getElem?_erase, Std.compare_eq_iff_eq,
    eq_comm (a := key)]

theorem clock_put (space : Keyspace) (key : String) (slot : Slot) :
    (space.put key slot).clock = space.clock := by
  unfold Keyspace.put
  split <;> rfl

theorem depicts_put_entry (depicts : Depicts names space held) (key : EntryKey)
    (entry : TimedMask) :
    Depicts names (space.put (names.entryKey key) (entrySlot entry))
      (held.setEntry key (some entry)) where
  clock := (clock_put ..).trans depicts.clock
  entry other := by
    rw [get_put, entry_set_entry]
    simp only [KeyNames.entry_key_inj]
    split
    · rfl
    · exact depicts.entry other
  index name := by
    rw [get_put, if_neg (KeyNames.index_key_ne_entry_key name key), index_set_entry]
    exact depicts.index name

theorem depicts_erase_entry (depicts : Depicts names space held) (key : EntryKey) :
    Depicts names (space.erase (names.entryKey key)) (held.setEntry key none) where
  clock := depicts.clock
  entry other := by
    rw [get_erase, entry_set_entry]
    simp only [KeyNames.entry_key_inj]
    split
    · rfl
    · exact depicts.entry other
  index name := by
    rw [get_erase, if_neg (KeyNames.index_key_ne_entry_key name key), index_set_entry]
    exact depicts.index name

theorem depicts_put_index (depicts : Depicts names space held) (name : IndexName)
    (scores : IdMap Int) (expiry : Option Nat) :
    Depicts names (space.put (names.indexKey name) ⟨.members (Roster.texts scores), expiry⟩)
      (held.setIndex name (.ofScores scores expiry)) where
  clock := (clock_put ..).trans depicts.clock
  entry key := by
    rw [get_put, if_neg (KeyNames.entry_key_ne_index_key key name), entry_set_index]
    exact depicts.entry key
  index other := by
    rw [get_put, index_set_index]
    simp only [KeyNames.index_key_inj]
    split
    · rw [Keyspace.isVoid, Roster.texts_is_empty, Roster.slot?, Roster.scores_of_scores,
        Roster.expiry_of_scores]
      split <;> rfl
    · exact depicts.index other

theorem depicts_erase_index (depicts : Depicts names space held) (name : IndexName) :
    Depicts names (space.erase (names.indexKey name)) (held.setIndex name .blank) where
  clock := depicts.clock
  entry key := by
    rw [get_erase, if_neg (KeyNames.entry_key_ne_index_key key name), entry_set_index]
    exact depicts.entry key
  index other := by
    rw [get_erase, index_set_index]
    simp only [KeyNames.index_key_inj]
    split
    · rfl
    · exact depicts.index other

theorem slot_at_time (roster : Roster) (clock : Nat) :
    (roster.atTime clock).slot? = roster.slot?.filter (Keyspace.lives clock) := by
  unfold Roster.atTime Roster.slot?
  cases expires : roster.expiry with
  | none =>
      by_cases empty : roster.scores = ∅ <;>
        simp [empty, expires, Option.filter, Keyspace.lives]
  | some expiry =>
      by_cases empty : roster.scores = ∅ <;> by_cases left : clock < expiry <;>
        simp [empty, expires, left, Option.filter, Keyspace.lives, Roster.blank]

theorem depicts_advance (depicts : Depicts names space held) (micros : Nat) :
    Depicts names (space.advance micros) (held.advance micros) where
  clock := by
    simp only [Keyspace.advance, Holdings.advance, depicts.clock]
  entry key := by
    simp only [Keyspace.advance, Holdings.advance, Std.ExtTreeMap.getElem?_filter',
      depicts.entry key, depicts.clock]
    cases held.entry key with
    | none => rfl
    | some entry =>
        simp only [Option.map_some, Option.filter_some, entrySlot, Keyspace.lives]
        split <;> rfl
  index name := by
    simp only [Keyspace.advance, Holdings.advance, Std.ExtTreeMap.getElem?_filter',
      depicts.index name, depicts.clock]
    exact (slot_at_time _ _).symm

end Holdings

end ChannelAccess
