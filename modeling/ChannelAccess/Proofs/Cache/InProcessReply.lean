import ChannelAccess.Proofs.Cache.View

/-!
# Replies of the in-process cache

The in-process cache answers every query from its entries that are alive. Entries that
have ended may still be stored; neither their removal by a read nor a sweep in the
middle of a batch shows. The entries of a batched write may be written in any order.
-/

namespace ChannelAccess

set_option autoImplicit false

namespace InProcessCache

def view (cache : InProcessCache) : CacheView := fun key =>
  (cache.entries[key]?.filter cache.alive).map TimedMask.mask

def writeEach (cache : InProcessCache) (entries : List SharedCache.Entry) : InProcessCache :=
  entries.foldl (fun cache entry => cache.write ⟨entry.user, entry.channel⟩ entry.mask) cache

/-- What the cache replies to a query whose entries, if any, are written in the given order, and the
cache after it. -/
def replyInOrder (cache : InProcessCache) (order : List SharedCache.Entry) :
    (query : CacheQuery) → query.Reply × InProcessCache
  | .set _ _ _ => (.ok (), cache.writeEach order)
  | .setMany _ _ => (.ok (), cache.writeEach order)
  | .setManyUsers _ _ => (.ok (), cache.writeEach order)
  | query => cache.reply query

theorem reply_in_order_entries (cache : InProcessCache) (query : CacheQuery) :
    cache.replyInOrder query.entries query = cache.reply query := by
  cases query with
  | setMany user masks =>
      simp only [replyInOrder, reply, writeEach, writeAll, CacheQuery.entries, List.foldl_map]
  | setManyUsers channel masks =>
      simp only [replyInOrder, reply, writeEach, writeAll, CacheQuery.entries, List.foldl_map]
  | _ => rfl

variable {cache : InProcessCache}

/-! What is found. -/

theorem view_of_alive {key : EntryKey} {entry : TimedMask}
    (stored : cache.entries[key]? = some entry) (living : cache.alive entry = true) :
    cache.view key = some entry.mask := by
  rw [view, stored, Option.filter_some, if_pos living, Option.map_some]

theorem view_of_ended {key : EntryKey} {entry : TimedMask}
    (stored : cache.entries[key]? = some entry) (ended : cache.alive entry = false) :
    cache.view key = none := by
  rw [view, stored, Option.filter_some, if_neg (by simp [ended]), Option.map_none]

theorem view_erase_expired {key : EntryKey} {entry : TimedMask}
    (stored : cache.entries[key]? = some entry) (ended : cache.alive entry = false) :
    ({ cache with entries := cache.entries.erase key } : InProcessCache).view = cache.view := by
  funext other
  by_cases same : key = other
  · subst same
    rw [view_of_ended stored ended]
    simp [view]
  · simp only [view, Std.ExtTreeMap.getElem?_erase, Std.compare_eq_iff_eq, if_neg same]
    rfl

theorem read_eq (cache : InProcessCache) (key : EntryKey) :
    (cache.read key).1 = cache.view key ∧ (cache.read key).2.view = cache.view := by
  unfold read
  cases stored : cache.entries[key]? with
  | none => exact ⟨by rw [view, stored]; rfl, rfl⟩
  | some entry =>
      dsimp only
      by_cases living : cache.alive entry = true
      · rw [if_pos living]
        exact ⟨(view_of_alive stored living).symm, rfl⟩
      · have ended : cache.alive entry = false := by simpa using living
        rw [if_neg living]
        exact ⟨(view_of_ended stored ended).symm, view_erase_expired stored ended⟩

theorem view_sweep (cache : InProcessCache) : cache.sweep.view = cache.view := by
  funext key
  have same : cache.sweep.alive = cache.alive := rfl
  rw [view, view, same, sweep]
  simp only [Std.ExtTreeMap.getElem?_filter', Option.filter_filter, Bool.and_self]

theorem view_write (cache : InProcessCache) (key other : EntryKey) (mask : Mask) :
    (cache.write key mask).view other =
      if other = key then (if 0 < cache.lifetime then some mask else none)
      else cache.view other := by
  have written : ∀ writes overran, view
      { cache with
        entries := cache.entries.insert key ⟨mask, cache.clock + cache.lifetime⟩
        writes := writes
        overran := overran } other =
      if other = key then (if 0 < cache.lifetime then some mask else none)
      else cache.view other := by
    intro writes overran
    simp only [view, Std.ExtTreeMap.getElem?_insert, Std.compare_eq_iff_eq, eq_comm (a := key)]
    by_cases same : other = key
    · have lasts : cache.clock < cache.clock + cache.lifetime ↔ 0 < cache.lifetime := by omega
      by_cases lives : 0 < cache.lifetime <;>
        simp [same, lives, lasts, alive, Option.filter_some]
    · simp only [if_neg same]
      rfl
  unfold write
  dsimp only
  split
  · rw [view_sweep]
    exact written _ _
  · exact written _ _

theorem read_all_eq (key : Uuid → EntryKey) (ids : List Uuid) (cache : InProcessCache) :
    (readAll key ids cache).1 = gather (fun id => cache.view (key id)) ids ∧
      (readAll key ids cache).2.view = cache.view := by
  induction ids generalizing cache with
  | nil => exact ⟨rfl, rfl⟩
  | cons id rest ih =>
      obtain ⟨found, unchanged⟩ := read_eq cache (key id)
      obtain ⟨others, unchangedRest⟩ := ih (cache.read (key id)).2
      rw [unchanged] at others unchangedRest
      rw [gather, List.foldr_cons]
      unfold readAll
      dsimp only
      rw [found]
      cases cache.view (key id) with
      | none => exact ⟨others, unchangedRest⟩
      | some mask => exact ⟨congrArg (fun filed => filed.insert id mask) others, unchangedRest⟩

theorem view_drop (cache : InProcessCache) (scope : Invalidation) (key : EntryKey) :
    (cache.drop scope).view key =
      if scope.covers key.user key.channel then none else cache.view key := by
  have same : (cache.drop scope).alive = cache.alive := rfl
  rw [view, view, same, drop]
  simp only [Std.ExtTreeMap.getElem?_filter', Option.filter_filter]
  cases scope.covers key.user key.channel <;> simp

theorem lifetime_write (cache : InProcessCache) (key : EntryKey) (mask : Mask) :
    (cache.write key mask).lifetime = cache.lifetime := by
  unfold write
  dsimp only
  split <;> rfl

theorem view_write_each (cache : InProcessCache) (lives : 0 < cache.lifetime)
    (entries : List SharedCache.Entry) :
    (cache.writeEach entries).view = entries.foldl CacheView.put cache.view := by
  induction entries generalizing cache with
  | nil => rfl
  | cons entry rest ih =>
      have one : (cache.write ⟨entry.user, entry.channel⟩ entry.mask).view =
          cache.view.put entry := by
        funext key
        rw [view_write, if_pos lives]
        rfl
      rw [List.foldl_cons, ← one]
      exact ih _ (by rwa [lifetime_write])

theorem within_write_each (entries : List SharedCache.Entry) {part whole : CacheView}
    (cache : InProcessCache) (shows : cache.view = part) (within : part.Within whole) :
    (cache.writeEach entries).view.Within (entries.foldl CacheView.put whole) := by
  induction entries generalizing cache part whole with
  | nil => exact shows ▸ within
  | cons entry rest ih =>
      apply ih (cache.write ⟨entry.user, entry.channel⟩ entry.mask) rfl
      intro key mask found
      apply CacheView.within_put within entry key mask
      rw [view_write, shows] at found
      rw [CacheView.put]
      split at found
      case isTrue here =>
        rw [if_pos here]
        exact (Option.ite_none_right_eq_some.mp found).2
      case isFalse elsewhere => rwa [if_neg elsewhere]

theorem reply_in_order_fst (cache : InProcessCache) (order : List SharedCache.Entry)
    (query : CacheQuery) :
    (cache.replyInOrder order query).1 = .ok (query.answerFrom cache.view) := by
  cases query with
  | get user channel => exact congrArg Except.ok (read_eq cache ⟨user, channel⟩).1
  | getMany user channels => exact congrArg Except.ok (read_all_eq _ channels cache).1
  | getManyUsers channel users => exact congrArg Except.ok (read_all_eq _ users cache).1
  | _ => rfl

/-- What is found after a query is what was written and found before, less what was dropped; all of
it, if entries live at all. -/
theorem view_reply_in_order {cache : InProcessCache} {order : List SharedCache.Entry}
    {query : CacheQuery} (arranged : order.Perm query.entries) :
    (cache.replyInOrder order query).2.view.Within (query.effectOn cache.view) ∧
      (0 < cache.lifetime →
        (cache.replyInOrder order query).2.view = query.effectOn cache.view) := by
  -- Reads and drops have their effect exactly; a write may meet a lifetime of zero.
  have equal {after : CacheView} (same : after = query.effectOn cache.view) :
      after.Within (query.effectOn cache.view) ∧
        (0 < cache.lifetime → after = query.effectOn cache.view) :=
    ⟨same ▸ CacheView.within_refl _, fun _ => same⟩
  have write (keeps : query.dropped = none) :
      (cache.writeEach order).view.Within (query.effectOn cache.view) ∧
        (0 < cache.lifetime → (cache.writeEach order).view = query.effectOn cache.view) := by
    rw [CacheQuery.effect_of_write keeps arranged]
    exact ⟨within_write_each order cache rfl (CacheView.within_refl _),
      fun lives => view_write_each cache lives order⟩
  have drop (scope : Invalidation) (drops : query.dropped = some scope)
      (nothing : ∀ key, query.written key = none) :
      (cache.drop scope).view = query.effectOn cache.view := by
    funext key
    rw [view_drop, CacheQuery.effect_of_drop drops nothing]
  cases query with
  | get user channel =>
      exact equal ((read_eq cache _).2.trans (CacheQuery.effect_of_read rfl (fun _ => rfl) _).symm)
  | set user channel mask => exact write rfl
  | getMany user channels =>
      exact equal ((read_all_eq _ channels cache).2.trans
        (CacheQuery.effect_of_read rfl (fun _ => rfl) _).symm)
  | setMany user masks => exact write rfl
  | getManyUsers channel users =>
      exact equal ((read_all_eq _ users cache).2.trans
        (CacheQuery.effect_of_read rfl (fun _ => rfl) _).symm)
  | setManyUsers channel masks => exact write rfl
  | deleteByUser user => exact equal (drop (.ofUser user) rfl fun _ => rfl)
  | deleteByChannel channel => exact equal (drop (.ofChannel channel) rfl fun _ => rfl)
  | deleteExact user channel => exact equal (drop (.ofEntry user channel) rfl fun _ => rfl)
  | deleteAll => exact equal (drop .all rfl fun _ => rfl)

/-! What is stored. -/

/-- What a query does not change: the clock, the lifetime, and the expiry of the entries that stay;
the others were written just now. -/
structure Steady (before after : InProcessCache) : Prop where
  lifetime : after.lifetime = before.lifetime
  clock : after.clock = before.clock
  entry : ∀ (key : EntryKey) (entry : TimedMask), after.entries[key]? = some entry →
    before.entries[key]? = some entry ∨ entry.expiry = before.clock + before.lifetime
  overran : after.overran = true →
    before.overran = true ∨ clockEnd ≤ before.clock + before.lifetime

theorem steady_refl (cache : InProcessCache) : Steady cache cache :=
  ⟨rfl, rfl, fun _ _ stored => .inl stored, fun ran => .inl ran⟩

theorem steady_trans {first second third : InProcessCache} (start : Steady first second)
    (further : Steady second third) : Steady first third where
  lifetime := further.lifetime.trans start.lifetime
  clock := further.clock.trans start.clock
  entry key entry stored := by
    rcases further.entry key entry stored with before | new
    · exact start.entry key entry before
    · exact .inr (by rw [new, start.clock, start.lifetime])
  overran ran := by
    rcases further.overran ran with before | late
    · exact start.overran before
    · exact .inr (by rwa [start.clock, start.lifetime] at late)

theorem steady_of_part {entries : Std.ExtTreeMap EntryKey TimedMask}
    (part : ∀ (key : EntryKey) (entry : TimedMask),
      entries[key]? = some entry → cache.entries[key]? = some entry) :
    Steady cache { cache with entries := entries } :=
  ⟨rfl, rfl, fun key entry stored => .inl (part key entry stored), fun ran => .inl ran⟩

theorem steady_filter (stays : EntryKey → TimedMask → Bool) :
    Steady cache { cache with entries := cache.entries.filter stays } := by
  apply steady_of_part
  intro key entry stored
  rw [Std.ExtTreeMap.getElem?_filter', Option.filter_eq_some_iff] at stored
  exact stored.1

theorem steady_read (key : EntryKey) : Steady cache (cache.read key).2 := by
  unfold read
  split
  · exact steady_refl cache
  · split
    · exact steady_refl cache
    · apply steady_of_part
      intro other entry stored
      rw [Std.ExtTreeMap.getElem?_erase] at stored
      split at stored
      · contradiction
      · exact stored

theorem steady_write (key : EntryKey) (mask : Mask) : Steady cache (cache.write key mask) := by
  let written : InProcessCache :=
    { cache with
      entries := cache.entries.insert key ⟨mask, cache.clock + cache.lifetime⟩
      writes := cache.writes + 1#64
      overran := cache.overran || clockEnd ≤ cache.clock + cache.lifetime }
  have steady : Steady cache written := by
    refine ⟨rfl, rfl, ?_, ?_⟩
    · intro other entry stored
      rw [Std.ExtTreeMap.getElem?_insert] at stored
      split at stored
      · rw [Option.some.injEq] at stored
        exact .inr (stored ▸ rfl)
      · exact .inl stored
    · intro ran
      simpa [written] using ran
  unfold write
  dsimp only
  split
  · exact steady_trans steady (steady_filter _)
  · exact steady

theorem steady_write_each (entries : List SharedCache.Entry) :
    Steady cache (cache.writeEach entries) := by
  induction entries generalizing cache with
  | nil => exact steady_refl cache
  | cons entry rest ih => exact steady_trans (steady_write _ _) ih

theorem steady_read_all (key : Uuid → EntryKey) (ids : List Uuid) :
    Steady cache (readAll key ids cache).2 := by
  induction ids generalizing cache with
  | nil => exact steady_refl cache
  | cons id rest ih =>
      have steady := steady_trans (steady_read (key id)) (@ih (cache.read (key id)).2)
      unfold readAll
      dsimp only
      split <;> exact steady

theorem steady_reply_in_order (order : List SharedCache.Entry) (query : CacheQuery) :
    Steady cache (cache.replyInOrder order query).2 := by
  cases query with
  | get user channel => exact steady_read _
  | set user channel mask => exact steady_write_each order
  | getMany user channels => exact steady_read_all _ channels
  | setMany user masks => exact steady_write_each order
  | getManyUsers channel users => exact steady_read_all _ users
  | setManyUsers channel masks => exact steady_write_each order
  | deleteByUser user => exact steady_filter _
  | deleteByChannel channel => exact steady_filter _
  | deleteExact user channel => exact steady_filter _
  | deleteAll => exact steady_filter _

end InProcessCache

end ChannelAccess
