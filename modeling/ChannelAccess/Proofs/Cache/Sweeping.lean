import Mathlib.Data.List.Nodup
import Mathlib.Tactic.SplitIfs
import ChannelAccess.Proofs.Cache.InProcessReply

/-!
# Entries that do not live

With a lifetime of zero every entry of the in-process cache has ended when it is written. It is
never found, but it is stored until something removes it. The sweep at every 1024th write bounds
how many such entries there are: never more than were written since the last sweep.
-/

namespace ChannelAccess

set_option autoImplicit false

/-- What happens to a cache at one moment: an entry is written or looked at, a scope is dropped,
entries that have ended are swept out, or time goes by. -/
inductive Touch where
  | write (key : EntryKey) (mask : Mask)
  | read (key : EntryKey)
  | drop (scope : Invalidation)
  | sweep
  | wait (micros : Nat)

namespace Touch

def on (cache : InProcessCache) : Touch → InProcessCache
  | .write key mask => cache.write key mask
  | .read key => (cache.read key).2
  | .drop scope => cache.drop scope
  | .sweep => cache.sweep
  | .wait micros => cache.advance micros

def written? : Touch → Option EntryKey
  | .write key _ => some key
  | _ => none

def written (touches : List Touch) : List EntryKey :=
  touches.filterMap written?

/-- Whether an entry may be taken away on purpose, other than by the sweep that a write may start.
-/
def Removes : Touch → Prop
  | .write _ _ => False
  | .wait _ => False
  | _ => True

end Touch

def CacheQuery.touches (order : List SharedCache.Entry) : CacheQuery → List Touch
  | .get user channel => [.read ⟨user, channel⟩]
  | .getMany user channels => channels.map fun channel => .read ⟨user, channel⟩
  | .getManyUsers channel users => users.map fun user => .read ⟨user, channel⟩
  | .deleteByUser user => [.drop (.ofUser user)]
  | .deleteByChannel channel => [.drop (.ofChannel channel)]
  | .deleteExact user channel => [.drop (.ofEntry user channel)]
  | .deleteAll => [.drop .all]
  | _ => order.map fun entry => .write ⟨entry.user, entry.channel⟩ entry.mask

/-- A step in the life of a cache: a query, whose entries are written in any order, a purge, or
time that goes by. -/
inductive CacheStep where
  | ask (query : CacheQuery) (order : List SharedCache.Entry) (arranged : order.Perm query.entries)
  | purge
  | wait (micros : Nat)

namespace CacheStep

def on (cache : InProcessCache) : CacheStep → InProcessCache
  | .ask query order _ => (cache.replyInOrder order query).2
  | .purge => cache.sweep
  | .wait micros => cache.advance micros

def entries : CacheStep → List SharedCache.Entry
  | .ask query _ _ => query.entries
  | _ => []

def touches : CacheStep → List Touch
  | .ask query order _ => query.touches order
  | .purge => [.sweep]
  | .wait micros => [.wait micros]

end CacheStep

/-! Steps, one touch at a time. -/

namespace InProcessCache

theorem read_all_touches (key : Uuid → EntryKey) (ids : List Uuid) (cache : InProcessCache) :
    (readAll key ids cache).2 = (ids.map fun id => Touch.read (key id)).foldl Touch.on cache := by
  induction ids generalizing cache with
  | nil => rfl
  | cons id rest ih =>
      have further := ih (cache.read (key id)).2
      unfold readAll
      dsimp only
      split <;> exact further

theorem write_each_touches (entries : List SharedCache.Entry) (cache : InProcessCache) :
    cache.writeEach entries =
      (entries.map fun entry => Touch.write ⟨entry.user, entry.channel⟩ entry.mask).foldl
        Touch.on cache := by
  rw [writeEach, List.foldl_map]
  rfl

theorem reply_touches (cache : InProcessCache) (query : CacheQuery)
    (order : List SharedCache.Entry) :
    (cache.replyInOrder order query).2 = (query.touches order).foldl Touch.on cache := by
  cases query with
  | set user channel mask => exact write_each_touches order cache
  | getMany user channels => exact read_all_touches _ channels cache
  | setMany user masks => exact write_each_touches order cache
  | getManyUsers channel users => exact read_all_touches _ users cache
  | setManyUsers channel masks => exact write_each_touches order cache
  | _ => rfl

end InProcessCache

theorem CacheStep.on_eq_touches (cache : InProcessCache) (step : CacheStep) :
    step.on cache = step.touches.foldl Touch.on cache := by
  cases step with
  | ask query order _ => exact cache.reply_touches query order
  | purge => rfl
  | wait micros => rfl

theorem Touch.written_append (front back : List Touch) :
    written (front ++ back) = written front ++ written back :=
  List.filterMap_append

theorem CacheStep.length_written (step : CacheStep) :
    (Touch.written step.touches).length = step.entries.length := by
  have reads (ids : List Uuid) (key : Uuid → EntryKey) :
      (Touch.written (ids.map fun id => Touch.read (key id))).length = 0 := by
    simp [Touch.written, Touch.written?]
  have writes (order : List SharedCache.Entry) :
      (Touch.written (order.map fun entry =>
        Touch.write ⟨entry.user, entry.channel⟩ entry.mask)).length = order.length := by
    simp [Touch.written, List.filterMap_map, Function.comp_def, Touch.written?]
  cases step with
  | ask query order arranged =>
      cases query with
      | set user channel mask => exact (writes order).trans arranged.length_eq
      | getMany user channels => exact reads channels _
      | setMany user masks => exact (writes order).trans arranged.length_eq
      | getManyUsers channel users => exact reads users _
      | setManyUsers channel masks => exact (writes order).trans arranged.length_eq
      | _ => rfl
  | purge => rfl
  | wait micros => rfl

/-! One touch. -/

/-- A cache in which nothing lives, after a number of writes: what is stored has ended, and there is
no more of it than was written since the last sweep. -/
structure InProcessCache.Tallied (cache : InProcessCache) (count : Nat) : Prop where
  lifetime : cache.lifetime = 0
  ended : ∀ (key : EntryKey) (entry : TimedMask),
    cache.entries[key]? = some entry → entry.expiry ≤ cache.clock
  counted : cache.writes.toNat % 1024 = count % 1024
  few : cache.size ≤ count % 1024

namespace InProcessCache

variable {cache : InProcessCache} {count : Nat}

theorem tallied_fresh : (fresh 0).Tallied 0 where
  lifetime := rfl
  ended key entry stored := by simp [fresh] at stored
  counted := rfl
  few := Nat.le_refl 0

theorem view_of_tallied (tallied : cache.Tallied count) : cache.view = fun _ => none := by
  funext key
  cases stored : cache.entries[key]? with
  | none => rw [view, stored, Option.filter_none, Option.map_none]
  | some entry =>
      apply view_of_ended stored
      simpa [alive] using tallied.ended key entry stored

theorem ended_of_steady (tallied : cache.Tallied count) {after : InProcessCache}
    (steady : Steady cache after) {key : EntryKey} {entry : TimedMask}
    (stored : after.entries[key]? = some entry) : entry.expiry ≤ after.clock := by
  rw [steady.clock]
  rcases steady.entry key entry stored with before | new
  · exact tallied.ended key entry before
  · rw [new, tallied.lifetime]
    exact Nat.le_refl _

theorem tallied_of_part (tallied : cache.Tallied count)
    {entries : Std.ExtTreeMap EntryKey TimedMask}
    (steady : Steady cache { cache with entries := entries })
    (fewer : entries.size ≤ cache.entries.size) :
    Tallied { cache with entries := entries } count where
  lifetime := tallied.lifetime
  ended _ _ stored := ended_of_steady tallied steady stored
  counted := tallied.counted
  few := Nat.le_trans fewer tallied.few

theorem tallied_filter (tallied : cache.Tallied count) (stays : EntryKey → TimedMask → Bool) :
    Tallied { cache with entries := cache.entries.filter stays } count :=
  tallied_of_part tallied (steady_filter stays) Std.ExtTreeMap.size_filter_le_size

theorem tallied_read (tallied : cache.Tallied count) (key : EntryKey) :
    (cache.read key).2.Tallied count := by
  have part : ∃ entries, (cache.read key).2 = { cache with entries := entries } ∧
      entries.size ≤ cache.entries.size := by
    unfold read
    split
    · exact ⟨cache.entries, rfl, Nat.le_refl _⟩
    · split
      · exact ⟨cache.entries, rfl, Nat.le_refl _⟩
      · exact ⟨cache.entries.erase key, rfl, Std.ExtTreeMap.size_erase_le⟩
  have steady : Steady cache (cache.read key).2 := steady_read key
  obtain ⟨entries, same, fewer⟩ := part
  rw [same] at steady ⊢
  exact tallied_of_part tallied steady fewer

theorem tallied_wait (tallied : cache.Tallied count) (micros : Nat) :
    (cache.advance micros).Tallied count where
  lifetime := tallied.lifetime
  ended key entry stored := Nat.le_trans (tallied.ended key entry stored) (Nat.le_add_right _ _)
  counted := tallied.counted
  few := tallied.few

theorem size_sweep_of_ended (ended : ∀ (key : EntryKey) (entry : TimedMask),
    cache.entries[key]? = some entry → entry.expiry ≤ cache.clock) : cache.sweep.size = 0 := by
  have nothing : cache.sweep.entries = ∅ := by
    apply Std.ExtTreeMap.ext_getElem?
    intro key
    rw [sweep, Std.ExtTreeMap.getElem?_filter', Std.ExtTreeMap.getElem?_empty,
      Option.filter_eq_none_iff]
    intro entry stored living
    have past := ended key entry stored
    have ahead : cache.clock < entry.expiry := by simpa [alive] using living
    omega
  rw [size, nothing, Std.ExtTreeMap.size_empty]

theorem writes_write (cache : InProcessCache) (key : EntryKey) (mask : Mask) :
    (cache.write key mask).writes = cache.writes + 1#64 := by
  unfold write
  dsimp only
  split <;> rfl

/-- A write adds an entry unless there is one under its key, but every 1024th write leaves none. The
counter of the cache wraps around at a multiple of 1024, so it tells which write this is. -/
theorem size_write (tallied : cache.Tallied count) (key : EntryKey) (mask : Mask) :
    (cache.write key mask).size =
      if count % 1024 = 1023 then 0
      else if key ∈ cache.entries then cache.size else cache.size + 1 := by
  have its_turn : cache.writes.toNat % sweepEvery = sweepEvery - 1 ↔ count % 1024 = 1023 := by
    rw [sweepEvery, tallied.counted]
  by_cases turn : count % 1024 = 1023
  · rw [if_pos turn, write, if_pos (its_turn.mpr turn)]
    apply size_sweep_of_ended
    intro other entry stored
    rw [Std.ExtTreeMap.getElem?_insert] at stored
    split at stored
    · rw [← Option.some.inj stored, tallied.lifetime]
      exact Nat.le_refl _
    · exact tallied.ended other entry stored
  · rw [if_neg turn, write, if_neg (mt its_turn.mp turn), size, Std.ExtTreeMap.size_insert]
    simp only [Std.ExtTreeMap.contains_iff_mem]
    rfl

theorem tallied_write (tallied : cache.Tallied count) (key : EntryKey) (mask : Mask) :
    (cache.write key mask).Tallied (count + 1) := by
  have steady : Steady cache (cache.write key mask) := steady_write key mask
  have counted := tallied.counted
  have few := tallied.few
  refine ⟨steady.lifetime.trans tallied.lifetime, ?_, ?_, ?_⟩
  · intro other entry stored
    exact ended_of_steady tallied steady stored
  · rw [writes_write, BitVec.toNat_add, BitVec.toNat_ofNat]
    omega
  · rw [size_write tallied]
    split_ifs <;> omega

theorem tallied_touch (tallied : cache.Tallied count) (touch : Touch) :
    (touch.on cache).Tallied (count + (Touch.written [touch]).length) := by
  cases touch with
  | write key mask => exact tallied_write tallied key mask
  | read key => exact tallied_read tallied key
  | drop scope => exact tallied_filter tallied _
  | sweep => exact tallied_filter tallied _
  | wait micros => exact tallied_wait tallied micros

theorem tallied_touches (tallied : cache.Tallied count) (touches : List Touch) :
    (touches.foldl Touch.on cache).Tallied (count + (Touch.written touches).length) := by
  induction touches generalizing cache count with
  | nil => exact tallied
  | cons touch rest ih =>
      have further := ih (tallied_touch tallied touch)
      rwa [Nat.add_assoc, ← List.length_append, ← Touch.written_append] at further

/-! Distinct writes. -/

/-- As much is stored as was written since the last sweep, and under no other keys than those of the
writes since some multiple of 1024. -/
structure Filled (cache : InProcessCache) (done : List EntryKey) : Prop where
  tallied : cache.Tallied done.length
  full : cache.size = done.length % 1024
  within : ∀ key ∈ cache.entries, key ∈ done

theorem filled_of_multiple (tallied : cache.Tallied count) (multiple : count % 1024 = 0) :
    cache.Filled [] := by
  have few := tallied.few
  have nothing : cache.size = 0 := by omega
  refine ⟨⟨tallied.lifetime, tallied.ended, ?_, ?_⟩, nothing, ?_⟩
  · rw [tallied.counted, multiple, List.length_nil, Nat.zero_mod]
  · exact Nat.le_of_eq nothing
  · intro key stored
    rw [Std.ExtTreeMap.eq_empty_iff_size_eq_zero.mpr nothing] at stored
    exact absurd stored Std.ExtTreeMap.not_mem_empty

theorem mem_write {key other : EntryKey} {mask : Mask}
    (stored : other ∈ (cache.write key mask).entries) : other = key ∨ other ∈ cache.entries := by
  have inserted : other ∈ cache.entries.insert key ⟨mask, cache.clock + cache.lifetime⟩ := by
    unfold write at stored
    split at stored
    · exact Std.ExtTreeMap.mem_of_mem_filter stored
    · exact stored
  rwa [Std.ExtTreeMap.mem_insert, Std.compare_eq_iff_eq, eq_comm] at inserted

theorem filled_write {done : List EntryKey} (filled : cache.Filled done) {key : EntryKey}
    (new : key ∉ done) (mask : Mask) : (cache.write key mask).Filled (done ++ [key]) := by
  have absent : key ∉ cache.entries := fun stored => new (filled.within key stored)
  have full := filled.full
  refine ⟨?_, ?_, ?_⟩
  · rw [List.length_append, List.length_singleton]
    exact tallied_write filled.tallied key mask
  · rw [size_write filled.tallied, if_neg absent, List.length_append, List.length_singleton]
    split <;> omega
  · intro other stored
    rw [List.mem_append, List.mem_singleton]
    exact (mem_write stored).symm.imp (filled.within other) id

theorem filled_touches {touches : List Touch} {done : List EntryKey} (filled : cache.Filled done)
    (quiet : ∀ touch ∈ touches, ¬touch.Removes)
    (distinct : (done ++ Touch.written touches).Nodup) :
    (touches.foldl Touch.on cache).Filled (done ++ Touch.written touches) := by
  induction touches generalizing cache done with
  | nil => simpa [Touch.written] using filled
  | cons touch rest ih =>
      obtain ⟨still, quietRest⟩ := List.forall_mem_cons.mp quiet
      cases touch with
      | write key mask =>
          have split : done ++ Touch.written (.write key mask :: rest) =
              done ++ [key] ++ Touch.written rest := by
            rw [List.append_assoc]
            rfl
          rw [split] at distinct ⊢
          have new : key ∉ done := by
            have apart := (List.nodup_append.mp (List.nodup_append.mp distinct).1).2.2
            exact fun earlier => apart key earlier key (List.mem_singleton_self key) rfl
          exact ih (filled_write filled new mask) quietRest distinct
      | wait micros =>
          have waited := tallied_wait filled.tallied micros
          exact ih ⟨waited, filled.full, filled.within⟩ quietRest distinct
      | read key => exact absurd trivial still
      | drop scope => exact absurd trivial still
      | sweep => exact absurd trivial still

end InProcessCache

/-! Runs. -/

namespace CacheStep

def run (steps : List CacheStep) : InProcessCache :=
  steps.foldl on (.fresh 0)

def history (steps : List CacheStep) : List Touch :=
  steps.flatMap touches

theorem run_eq_touches (steps : List CacheStep) :
    run steps = (history steps).foldl Touch.on (.fresh 0) := by
  rw [run, history, List.foldl_flatMap]
  congr 1
  funext cache step
  exact on_eq_touches cache step

theorem length_written_history (steps : List CacheStep) :
    (Touch.written (history steps)).length = (steps.flatMap entries).length := by
  induction steps with
  | nil => rfl
  | cons step rest ih =>
      rw [history, List.flatMap_cons, Touch.written_append, List.length_append, length_written,
        List.flatMap_cons, List.length_append, ← ih, history]

theorem tallied_run (steps : List CacheStep) :
    (run steps).Tallied (steps.flatMap entries).length := by
  have tallied := InProcessCache.tallied_touches InProcessCache.tallied_fresh (history steps)
  rwa [Nat.zero_add, length_written_history, ← run_eq_touches] at tallied

end CacheStep

/-- Without a lifetime nothing is ever found, and no more is stored than was written since the last
sweep, every entry of a batch counting as one write. Just as much is stored if what was written
since a multiple of 1024 writes has distinct keys, and nothing was looked at or taken away. -/
theorem ended_entries_never_pile_up (steps : List CacheStep) :
    (∀ user channel, ((CacheStep.run steps).reply (.get user channel)).1 = .ok none) ∧
    (∀ user channels, ((CacheStep.run steps).reply (.getMany user channels)).1 = .ok ∅) ∧
    (∀ channel users, ((CacheStep.run steps).reply (.getManyUsers channel users)).1 = .ok ∅) ∧
    (CacheStep.run steps).size ≤ (steps.flatMap CacheStep.entries).length % 1024 ∧
    ∀ earlier recent, CacheStep.history steps = earlier ++ recent →
      (Touch.written earlier).length % 1024 = 0 → (∀ touch ∈ recent, ¬touch.Removes) →
      (Touch.written recent).Nodup →
      (CacheStep.run steps).size = (steps.flatMap CacheStep.entries).length % 1024 := by
  have tallied := CacheStep.tallied_run steps
  have replies (query : CacheQuery) :
      ((CacheStep.run steps).reply query).1 = .ok (query.answerFrom fun _ => none) := by
    rw [← InProcessCache.reply_in_order_entries, InProcessCache.reply_in_order_fst,
      InProcessCache.view_of_tallied tallied]
  have nothing (ids : List Uuid) : gather (fun _ => (none : Option Mask)) ids = ∅ :=
    (eq_gather fun id => by simp).symm
  refine ⟨fun user channel => replies (.get user channel), ?many, ?manyUsers, tallied.few, ?full⟩
  case many =>
    intro user channels
    rw [replies, CacheQuery.answerFrom, nothing]
  case manyUsers =>
    intro channel users
    rw [replies, CacheQuery.answerFrom, nothing]
  case full =>
    intro earlier recent parts multiple quiet distinct
    have before := InProcessCache.tallied_touches InProcessCache.tallied_fresh earlier
    rw [Nat.zero_add] at before
    have start := InProcessCache.filled_of_multiple before multiple
    have filled := InProcessCache.filled_touches start quiet distinct
    rw [CacheStep.run_eq_touches, ← CacheStep.length_written_history, parts, List.foldl_append,
      Touch.written_append, List.length_append, filled.full, List.nil_append]
    omega

/-- A cache that gets nothing but ten thousand writes under distinct keys keeps the last 784. -/
theorem ended_entries_never_pile_up_over_ten_thousand_writes :
    (CacheStep.run ((List.range 10000).map fun number =>
      .ask (.set (.ofNat number) .zero .all) [⟨.ofNat number, .zero, .all⟩] (.refl _))).size =
      784 := by
  let touch (number : Nat) : Touch := .write ⟨.ofNat number, .zero⟩ .all
  have written (numbers : List Nat) : Touch.written (numbers.map touch) =
      numbers.map fun number => ⟨.ofNat number, .zero⟩ := by
    simp [Touch.written, List.filterMap_map, Function.comp_def, touch, Touch.written?]
  have parts : (List.range 10000).map touch =
      (List.range 9216).map touch ++ (List.range' 9216 784).map touch := by
    rw [← List.map_append, List.range_eq_range', List.range_eq_range', List.range'_append]
  have distinct : ((List.range' 9216 784).map fun number =>
      (⟨.ofNat number, .zero⟩ : EntryKey)).Nodup := by
    apply List.Nodup.map_on _ List.nodup_range'
    intro first inFirst second inSecond same
    have sameBits := congrArg (fun key => key.user.value.toNat) same
    simp only [Uuid.ofNat, BitVec.toNat_ofNat] at sameBits
    rw [List.mem_range'_1] at inFirst inSecond
    omega
  obtain ⟨_, _, _, _, full⟩ := ended_entries_never_pile_up
    ((List.range 10000).map fun number =>
      .ask (.set (.ofNat number) .zero .all) [⟨.ofNat number, .zero, .all⟩] (.refl _))
  have size := full ((List.range 9216).map touch) ((List.range' 9216 784).map touch)
    (by rw [← parts, CacheStep.history, List.flatMap_map, List.map_eq_flatMap]; rfl)
    (by simp [written]) (List.forall_mem_map.mpr fun _ _ => id) (by rwa [written])
  rw [size, List.flatMap_map]
  simp only [CacheStep.entries, CacheQuery.entries, ← List.map_eq_flatMap, List.length_map,
    List.length_range]

end ChannelAccess
