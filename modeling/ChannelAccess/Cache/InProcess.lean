import ChannelAccess.Cache.Basic

/-!
# The in-process cache

A cache in memory. An entry lives until its expiry; a read of an expired entry removes it, and every
1024th write sweeps all expired entries, so that entries nobody reads do not pile up. The write
counter is a machine word and wraps around.
-/

namespace ChannelAccess

set_option autoImplicit false

@[ext]
structure EntryKey where
  user : UserId
  channel : ChannelId
deriving DecidableEq

namespace EntryKey

instance : Ord EntryKey := ⟨compareLex (compareOn EntryKey.user) (compareOn EntryKey.channel)⟩

instance : Std.TransOrd EntryKey :=
  inferInstanceAs (Std.TransCmp (compareLex (compareOn EntryKey.user) (compareOn EntryKey.channel)))

instance : Std.LawfulEqOrd EntryKey where
  eq_of_compare {first second} same := by
    have both :
        (compare first.user second.user).then (compare first.channel second.channel) = .eq :=
      same
    rw [Ordering.then_eq_eq] at both
    exact EntryKey.ext (Std.LawfulEqCmp.eq_of_compare both.1)
      (Std.LawfulEqCmp.eq_of_compare both.2)

end EntryKey

structure TimedMask where
  mask : Mask
  expiry : Nat
deriving DecidableEq

/-- A cache in the memory of a process. Times are microseconds of its clock. -/
structure InProcessCache where
  lifetime : Nat
  clock : Nat
  /-- The stored entries, expired ones included until they are read or swept. -/
  entries : Std.ExtTreeMap EntryKey TimedMask
  /-- The number of writes so far, as far as a machine word counts. -/
  writes : BitVec 64
  /-- Whether a write asked for an expiry beyond the end of the clock, which stops the process. -/
  overran : Bool

namespace InProcessCache

def sweepEvery : Nat := 1024

def second : Nat := 1000000

/-- The end of the clock, which counts seconds in a signed 64-bit word. -/
def clockEnd : Nat := Nat.pow 2 63 * second

def fresh (seconds : Nat) : InProcessCache :=
  ⟨seconds * second, 0, ∅, 0#64, false⟩

def size (cache : InProcessCache) : Nat :=
  cache.entries.size

def alive (cache : InProcessCache) (entry : TimedMask) : Bool :=
  cache.clock < entry.expiry

def advance (cache : InProcessCache) (micros : Nat) : InProcessCache :=
  { cache with clock := cache.clock + micros }

def sweep (cache : InProcessCache) : InProcessCache :=
  { cache with entries := cache.entries.filter fun _ entry => cache.alive entry }

/-- The mask under a key, and the cache without the entry if it has expired. -/
def read (cache : InProcessCache) (key : EntryKey) : Option Mask × InProcessCache :=
  match cache.entries[key]? with
  | none => (none, cache)
  | some entry =>
      if cache.alive entry then (some entry.mask, cache)
      else (none, { cache with entries := cache.entries.erase key })

/-- The cache with a mask under a key, swept if this write's turn has come. -/
def write (cache : InProcessCache) (key : EntryKey) (mask : Mask) : InProcessCache :=
  let expiry := cache.clock + cache.lifetime
  let written : InProcessCache :=
    { cache with
      entries := cache.entries.insert key ⟨mask, expiry⟩
      writes := cache.writes + 1#64
      overran := cache.overran || clockEnd ≤ expiry }
  if cache.writes.toNat % sweepEvery = sweepEvery - 1 then written.sweep else written

/-- The masks under several keys, filed by the part of the key that differs. -/
def readAll (key : Uuid → EntryKey) :
    List Uuid → InProcessCache → IdMap Mask × InProcessCache
  | [], cache => (∅, cache)
  | id :: rest, cache =>
      let (found, cache) := cache.read (key id)
      let (others, cache) := readAll key rest cache
      match found with
      | some mask => (others.insert id mask, cache)
      | none => (others, cache)

def writeAll (key : Uuid → EntryKey) (masks : List (Uuid × Mask)) (cache : InProcessCache) :
    InProcessCache :=
  masks.foldl (fun cache entry => cache.write (key entry.1) entry.2) cache

def drop (cache : InProcessCache) (scope : Invalidation) : InProcessCache :=
  { cache with
    entries := cache.entries.filter fun key _ => !scope.covers key.user key.channel }

def reply : (query : CacheQuery) → InProcessCache → query.Reply × InProcessCache
  | .get user channel, cache =>
      let (found, cache) := cache.read ⟨user, channel⟩
      (.ok found, cache)
  | .set user channel mask, cache => (.ok (), cache.write ⟨user, channel⟩ mask)
  | .getMany user channels, cache =>
      let (found, cache) := readAll (fun channel => ⟨user, channel⟩) channels cache
      (.ok found, cache)
  | .setMany user masks, cache =>
      (.ok (), writeAll (fun channel => ⟨user, channel⟩) masks.toList cache)
  | .getManyUsers channel users, cache =>
      let (found, cache) := readAll (fun user => ⟨user, channel⟩) users cache
      (.ok found, cache)
  | .setManyUsers channel masks, cache =>
      (.ok (), writeAll (fun user => ⟨user, channel⟩) masks.toList cache)
  | .deleteByUser user, cache => (.ok (), cache.drop (.ofUser user))
  | .deleteByChannel channel, cache => (.ok (), cache.drop (.ofChannel channel))
  | .deleteExact user channel, cache => (.ok (), cache.drop (.ofEntry user channel))
  | .deleteAll, cache => (.ok (), cache.drop .all)

end InProcessCache

end ChannelAccess
