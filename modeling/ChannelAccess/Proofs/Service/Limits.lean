import ChannelAccess.Proofs.Service.World

/-!
# How far a configuration can be used

A configuration is accepted whatever its numbers are, as long as they fit their words, and two of
them can ask for more than there is: a queue has a largest number of places, and the clock that an
entry's expiry is read on has an end. Below both limits the queue starts with the places asked for,
and no write, and so no inquiry, stops the process for as long as the clock is further from its end
than the lifetime of an entry. Beyond them neither the queue nor the first write works.
-/

namespace ChannelAccess

set_option autoImplicit false

namespace InProcessCache

variable {cache : InProcessCache}

theorem overran_read (cache : InProcessCache) (key : EntryKey) :
    (cache.read key).2.overran = cache.overran := by
  unfold read
  split
  · rfl
  · split <;> rfl

theorem overran_read_all (key : Uuid → EntryKey) (ids : List Uuid) (cache : InProcessCache) :
    (readAll key ids cache).2.overran = cache.overran := by
  induction ids generalizing cache with
  | nil => rfl
  | cons id rest ih =>
      have first := overran_read cache (key id)
      rw [← ih] at first
      unfold readAll
      dsimp only
      split <;> exact first

theorem overran_write (cache : InProcessCache) (key : EntryKey) (mask : Mask) :
    (cache.write key mask).overran = true ↔
      cache.overran = true ∨ clockEnd ≤ cache.clock + cache.lifetime := by
  unfold write
  dsimp only
  split <;> simp [sweep]

theorem overran_write_each (entries : List SharedCache.Entry) (cache : InProcessCache) :
    (cache.writeEach entries).overran = true ↔
      cache.overran = true ∨ entries ≠ [] ∧ clockEnd ≤ cache.clock + cache.lifetime := by
  induction entries generalizing cache with
  | nil => simp [writeEach]
  | cons entry rest ih =>
      have steady := @steady_write cache ⟨entry.user, entry.channel⟩ entry.mask
      have others := ih (cache.write ⟨entry.user, entry.channel⟩ entry.mask)
      rw [steady.clock, steady.lifetime, overran_write] at others
      rw [writeEach, List.foldl_cons]
      rw [writeEach] at others
      rw [others]
      constructor
      · intro ran
        cases ran with
        | inl first => exact first.imp_right fun late => ⟨List.cons_ne_nil entry rest, late⟩
        | inr later => exact .inr ⟨List.cons_ne_nil entry rest, later.2⟩
      · intro ran
        exact .inl (ran.imp_right And.right)

theorem overran_reply (cache : InProcessCache) (query : CacheQuery) :
    (cache.reply query).2.overran = true ↔
      cache.overran = true ∨ query.entries ≠ [] ∧ clockEnd ≤ cache.clock + cache.lifetime := by
  rw [← reply_in_order_entries]
  cases query with
  | set user channel mask => exact overran_write_each _ cache
  | setMany user masks => exact overran_write_each _ cache
  | setManyUsers channel masks => exact overran_write_each _ cache
  | get user channel => simp [replyInOrder, reply, CacheQuery.entries, overran_read]
  | getMany user channels => simp [replyInOrder, reply, CacheQuery.entries, overran_read_all]
  | getManyUsers channel users =>
      simp [replyInOrder, reply, CacheQuery.entries, overran_read_all]
  | _ => simp [replyInOrder, reply, CacheQuery.entries, drop]

/-- A cache that only stops the process when its clock has come within a lifetime of its end. -/
structure InTime (seconds : Nat) (cache : InProcessCache) : Prop where
  lifetime : cache.lifetime = seconds * second
  late : cache.overran = true → clockEnd ≤ cache.clock + cache.lifetime

theorem overran_of_in_time {seconds : Nat} (inTime : cache.InTime seconds)
    (early : cache.clock + cache.lifetime < clockEnd) : cache.overran = false := by
  cases ran : cache.overran with
  | false => rfl
  | true =>
      have late := inTime.late ran
      omega

theorem in_time_of_steady {seconds : Nat} {after : InProcessCache} (inTime : cache.InTime seconds)
    (steady : cache.Steady after) : after.InTime seconds where
  lifetime := steady.lifetime.trans inTime.lifetime
  late ran := by
    rw [steady.clock, steady.lifetime]
    cases steady.overran ran with
    | inl before => exact inTime.late before
    | inr late => exact late

theorem in_time_advance {seconds : Nat} (inTime : cache.InTime seconds) (micros : Nat) :
    (cache.advance micros).InTime seconds where
  lifetime := inTime.lifetime
  late ran := by
    have late := inTime.late ran
    simp only [advance]
    omega

end InProcessCache

/-- Whether a write has stopped the process. Those to a server of keys never do. -/
def CacheState.overran : CacheState → Bool
  | .inProcess cache => cache.overran
  | .shared _ _ => false

namespace World

open InProcessCache

variable {σ : Type} {reply : StoreReply σ} {world start : World σ} {cache : InProcessCache}

/-- The worlds that a service gets to: it carries out plans of any kind, and time passes for its
cache. -/
inductive Used (reply : StoreReply σ) (start : World σ) : World σ → Prop where
  | start : Used reply start start
  | carryOut {α : Type} (world : World σ) (plan : Plan α) (used : Used reply start world) :
      Used reply start (world.carryOut reply plan).2
  | wait (world : World σ) (micros : Nat) (used : Used reply start world) :
      Used reply start { world with cache := world.cache.advance micros }

theorem steady_answer (request : Request) (given : world.cache = .inProcess cache) :
    ∃ after, (answer reply request world).2.cache = .inProcess after ∧ cache.Steady after := by
  cases request with
  | store query => exact ⟨cache, given, steady_refl cache⟩
  | cache query =>
      refine ⟨(cache.reply query).2, ?_, ?_⟩
      · simp only [answer, given, CacheState.reply]
      · rw [← reply_in_order_entries]
        exact steady_reply_in_order _ query
  | enqueue scope =>
      obtain ⟨store, _, queue⟩ := world
      cases queue <;> exact ⟨cache, given, steady_refl cache⟩
  | report event => exact ⟨cache, given, steady_refl cache⟩

theorem steady_carry_out {α : Type} (plan : Plan α) (given : world.cache = .inProcess cache) :
    ∃ after, (world.carryOut reply plan).2.cache = .inProcess after ∧ cache.Steady after := by
  induction plan generalizing world cache with
  | done result => exact ⟨cache, given, steady_refl cache⟩
  | ask request next ih =>
      obtain ⟨between, asked, first⟩ := steady_answer request given
      obtain ⟨after, ended, further⟩ := ih _ asked
      exact ⟨after, ended, steady_trans first further⟩

theorem in_time_of_used {seconds : Nat} (given : start.cache = .inProcess (.fresh seconds))
    (used : Used reply start world) :
    ∃ cache, world.cache = .inProcess cache ∧ cache.InTime seconds := by
  induction used with
  | start => exact ⟨_, given, rfl, fun ran => nomatch ran⟩
  | carryOut world plan _ ih =>
      obtain ⟨cache, before, inTime⟩ := ih
      obtain ⟨after, ended, steady⟩ := steady_carry_out plan before
      exact ⟨after, ended, in_time_of_steady inTime steady⟩
  | wait world micros _ ih =>
      obtain ⟨cache, before, inTime⟩ := ih
      have later : world.cache.advance micros = .inProcess (cache.advance micros) := by
        rw [before, CacheState.advance]
      exact ⟨cache.advance micros, later, in_time_advance inTime micros⟩

end World

namespace Config

variable {environment : Environment} {config : Config}

/-- A capacity of zero is no capacity: the default stands in for it. -/
theorem capacity_positive (accepted : ofEnvironment environment = .ok config) :
    0 < config.queueCapacity := by
  have usable : 0 < ((numberOf environment "INVALIDATION_QUEUE_CAPACITY").filter (0 < ·)).getD
      1024 := by
    cases kept : (numberOf environment "INVALIDATION_QUEUE_CAPACITY").filter (0 < ·) with
    | none => decide
    | some capacity => simpa using (Option.filter_eq_some_iff.mp kept).2
  unfold ofEnvironment at accepted
  cases backend : backendOf environment with
  | error problem => simp [backend, bind, Except.bind] at accepted
  | ok backend =>
      cases database : databaseOf environment with
      | error problem => simp [*, bind, Except.bind] at accepted
      | ok database =>
          simp only [*, bind, Except.bind, pure, Except.pure, Except.ok.injEq] at accepted
          rw [← accepted]
          exact usable

theorem queue_starts_iff (accepted : ofEnvironment environment = .ok config) :
    (∃ queue, Queue.start? config.queueCapacity = some queue ∧
        queue.capacity = config.queueCapacity) ↔
      config.queueCapacity ≤ Queue.mostPlaces := by
  have positive := capacity_positive accepted
  unfold Queue.start?
  constructor
  · rintro ⟨queue, started, _⟩
    by_contra tooMany
    rw [if_neg tooMany] at started
    nomatch started
  · intro placed
    rw [if_pos placed]
    exact ⟨_, rfl, Nat.max_eq_left positive⟩

/-- An accepted configuration works up to two limits that accepting it does not check. The queue
starts, with as many places as were asked for, exactly if a queue can have that many. With the cache
in the process, wherever a service gets to, a query stops the process exactly if it writes while the
clock is no further from its end than an entry lives; before that nothing has stopped it, and every
inquiry comes to its answer. -/
theorem accepted_works_within_limits (accepted : ofEnvironment environment = .ok config) :
    ((∃ queue, Queue.start? config.queueCapacity = some queue ∧
        queue.capacity = config.queueCapacity) ↔
      config.queueCapacity ≤ Queue.mostPlaces) ∧
    (config.cacheBackend = .inProcess → ∀ link server, ∃ state events,
      CacheState.connect link config server = .ok (state, events) ∧
      ∀ (σ : Type) (reply : StoreReply σ) (store : σ) (queue : Option Queue) (world : World σ),
        World.Used reply ⟨store, state, queue⟩ world →
        ∃ cache, world.cache = .inProcess cache ∧
          (∀ query, (cache.reply query).2.overran = true ↔
            cache.overran = true ∨ query.entries ≠ [] ∧ InProcessCache.clockEnd ≤
              cache.clock + config.cacheSeconds * InProcessCache.second) ∧
          (cache.clock + config.cacheSeconds * InProcessCache.second < InProcessCache.clockEnd →
            cache.overran = false ∧
            ∀ inquiry : Inquiry,
              (world.carryOut reply inquiry.attempt.run).2.cache.overran = false)) := by
  constructor
  · exact queue_starts_iff accepted
  · intro inProcess link server
    refine ⟨.inProcess (.fresh config.cacheSeconds), [.localCache], ?connected, ?used⟩
    case connected => simp only [CacheState.connect, inProcess]
    case used =>
      intro σ reply store queue world used
      obtain ⟨cache, now, inTime⟩ := World.in_time_of_used rfl used
      rw [← inTime.lifetime]
      refine ⟨cache, now, InProcessCache.overran_reply cache, ?early⟩
      intro early
      refine ⟨InProcessCache.overran_of_in_time inTime early, ?_⟩
      intro inquiry
      obtain ⟨after, ended, steady⟩ := World.steady_carry_out inquiry.attempt.run now
      have stillEarly : after.clock + after.lifetime < InProcessCache.clockEnd := by
        rwa [steady.clock, steady.lifetime]
      have stillInTime := InProcessCache.in_time_of_steady inTime steady
      rw [ended]
      exact InProcessCache.overran_of_in_time stillInTime stillEarly

/-- Eight places, and entries that live for a minute. An hour after its start the service answers an
inquiry. -/
theorem accepted_works_within_limits_after_an_hour :
    let environment : Environment := fun name =>
      if name = "DATABASE_URL" then some (.text "postgresql://db")
      else if name = "PERMISSION_CACHE_BACKEND" then some (.text "memory")
      else if name = "INVALIDATION_QUEUE_CAPACITY" then some (.text "8")
      else none
    let config : Config :=
      ⟨"postgresql://db", "redis://localhost:6379", .inProcess, 60, "canis:perm", 8⟩
    let directory : Directory :=
      ⟨.ofNat 1, .ofEntries [(.ofNat 1, .ofNat 4)], ∅, .ofEntries [(.ofNat 2, "general")], [],
        none, 0, false⟩
    let world : World Directory := ⟨directory, .inProcess (.fresh 60), none⟩
    let later : World Directory := { world with cache := world.cache.advance 3600000000 }
    ofEnvironment environment = .ok config ∧
      (∃ queue, Queue.start? config.queueCapacity = some queue ∧ queue.capacity = 8) ∧
      (later.carryOut (fun query => Directory.reply query)
        (Resolver.resolve (.ofNat 7) (.ofNat 2)).run).2.cache.overran = false := by
  intro environment config directory world later
  have accepted : ofEnvironment environment = .ok config := rfl
  obtain ⟨starts, works⟩ := accepted_works_within_limits accepted
  obtain ⟨state, events, connected, lives⟩ := works rfl .up ⟨.blank 0, none⟩
  have isFresh : .inProcess (.fresh 60) = state := congrArg Prod.fst (Except.ok.inj connected)
  subst isFresh
  have used : World.Used (fun query => Directory.reply query) world later :=
    .wait world 3600000000 .start
  obtain ⟨cache, now, _, untilLate⟩ := lives Directory _ directory none later used
  have isLater : (InProcessCache.fresh 60).advance 3600000000 = cache :=
    CacheState.inProcess.inj now
  subst isLater
  have early := (untilLate (by decide)).2 (.resolve (.ofNat 7) (.ofNat 2))
  exact ⟨accepted, starts.mpr (by decide), early⟩

/-- The largest numbers that fit their words are accepted, but the queue cannot be started with so
many places, and the first mask that is cached stops the process. -/
theorem accepted_capacity_and_lifetime_too_large :
    let environment : Environment := fun name =>
      if name = "DATABASE_URL" then some (.text "postgresql://db")
      else if name = "PERMISSION_CACHE_BACKEND" then some (.text "memory")
      else if name = "PERMISSION_CACHE_TTL_SECS" ∨ name = "INVALIDATION_QUEUE_CAPACITY" then
        some (.text "18446744073709551615")
      else none
    let directory : Directory :=
      ⟨.ofNat 1, .ofEntries [(.ofNat 1, .ofNat 4)], ∅, .ofEntries [(.ofNat 2, "general")], [],
        none, 0, false⟩
    ∃ config, ofEnvironment environment = .ok config ∧
      Queue.start? config.queueCapacity = none ∧
      ∃ state events, CacheState.connect .up config ⟨.blank 0, none⟩ = .ok (state, events) ∧
        ((⟨directory, state, none⟩ : World Directory).carryOut
          (fun query => Directory.reply query)
          (Resolver.resolve (.ofNat 7) (.ofNat 2)).run).2.cache.overran = true := by
  intro environment directory
  refine ⟨_, rfl, rfl, _, _, rfl, ?_⟩
  decide +kernel

end Config

end ChannelAccess
