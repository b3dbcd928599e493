import ChannelAccess.Proofs.Cache.AnyState
import ChannelAccess.Proofs.Service.Filters

/-!
# A failing cache changes no answer

A store that answers, beside a cache in any state whose calls fail in any pattern. A
call may fail before it reaches the cache or after the cache has done what it was asked.
On top of that a server may refuse, and a text that is no mask fails the read that comes
upon it.

Whatever is not shown by a read is computed anew, so as long as nothing wrong is shown,
every read of permissions comes to what it comes to without any cache. What it computed
is held afterwards, unless the call that writes it fails.
-/

namespace ChannelAccess

set_option autoImplicit false

structure Mishap where
  problem : CacheError
  /-- Whether the cache does what it is asked before its reply is lost. -/
  reached : Bool

/-- Which calls to a cache go wrong, told by how many there were before. -/
abbrev Trouble := Nat → CacheQuery → Option Mishap

def CacheState.replyDespite (mishap : Option Mishap) (query : CacheQuery) (cache : CacheState) :
    query.Reply × CacheState :=
  match mishap with
  | none => cache.reply query
  | some mishap => (.error mishap.problem, if mishap.reached then (cache.reply query).2 else cache)

theorem CacheState.reply_despite_ok {mishap : Option Mishap} {query : CacheQuery}
    {cache : CacheState} {answer : query.Answer}
    (replied : (cache.replyDespite mishap query).1 = .ok answer) :
    (cache.reply query).1 = .ok answer ∧
      (cache.replyDespite mishap query).2 = (cache.reply query).2 := by
  cases mishap with
  | none => exact ⟨replied, rfl⟩
  | some mishap => simp [replyDespite] at replied

structure CacheCall where
  query : CacheQuery
  reply : query.Reply

namespace CacheCall

/-- The mask that a call shows for a key. One that failed shows nothing. -/
def shows (call : CacheCall) : CacheView :=
  match call.reply with
  | .ok answer => call.query.shows answer
  | .error _ => fun _ => none

def Succeeds (call : CacheCall) : Prop :=
  ∃ answer, call.reply = .ok answer

instance (call : CacheCall) : Decidable call.Succeeds :=
  match given : call.reply with
  | .ok answer => isTrue ⟨answer, given⟩
  | .error _ => isFalse fun succeeds => by simp [Succeeds, given] at succeeds

end CacheCall

namespace Inquiry

def keys : Inquiry → List EntryKey
  | .resolve user channel => [⟨user, channel⟩]
  | .hasPermission user channel _ => [⟨user, channel⟩]
  | .requirePermission user channel _ => [⟨user, channel⟩]
  | .filterPermitted user channels _ => channels.map fun channel => ⟨user, channel⟩
  | .filterUsersPermitted users channel _ => users.map fun user => ⟨user, channel⟩

end Inquiry

structure TroubledWorld (σ : Type) where
  store : σ
  cache : CacheState
  /-- The calls to the cache so far, oldest first. -/
  calls : List CacheCall

namespace TroubledWorld

variable {σ : Type}

def ask (trouble : Trouble) (query : CacheQuery) (world : TroubledWorld σ) :
    query.Reply × TroubledWorld σ :=
  let made := world.cache.replyDespite (trouble world.calls.length query) query
  (made.1, { world with cache := made.2, calls := world.calls ++ [⟨query, made.1⟩] })

def answer (reply : StoreReply σ) (trouble : Trouble) : Plan.Answerer (TroubledWorld σ)
  | .store query, world =>
      ((reply query world.store).1, { world with store := (reply query world.store).2 })
  | .cache query, world => world.ask trouble query
  | .enqueue _, world => (.error .stopped, world)
  | .report _, world => ((), world)

/-- What the store says, beside a cache that is let alone. -/
def outlook (facts : σ → Facts) (cache : CacheState) (calls : List CacheCall) :
    Outlook (TroubledWorld σ) where
  facts world := facts world.store
  view _ := fun _ => none
  working world := world.cache = cache ∧ world.calls = calls

/-- Each of some keys for which the store has a mask was shown by a call, or was to be written by
one that failed, or is held. -/
def Replenished (facts : Facts) (keys : List EntryKey) (world : TroubledWorld σ) : Prop :=
  ∀ key ∈ keys, ∀ mask, facts.mask key = some mask →
    (∃ call ∈ world.calls, call.shows key ≠ none) ∨
      (∃ call ∈ world.calls, call.query.written key ≠ none ∧ ¬call.Succeeds) ∨
        world.cache.Holds key mask

variable {reply : StoreReply σ} {facts : σ → Facts} {owns : σ → UserId → Bool}
  {trouble : Trouble} {world : TroubledWorld σ}

theorem store_legible_answer (reads : StoreReads reply facts owns) (cache : CacheState)
    (calls : List CacheCall) :
    StoreLegible (answer reply trouble) (outlook facts cache calls) fun world =>
      owns world.store :=
  reads.store_legible TroubledWorld.store (fun _ _ => rfl) (fun _ _ => rfl) (fun _ => rfl)
    fun _ _ works => ⟨works, rfl⟩

/-! Calls to the cache. -/

structure Made (world : TroubledWorld σ) (call : CacheCall) (after : TroubledWorld σ) : Prop where
  store : after.store = world.store
  calls : after.calls = world.calls ++ [call]
  within : call.shows.Within world.cache.view
  writes : ∀ key mask, call.query.written key = some mask → call.Succeeds →
    after.cache.Holds key mask

/-- What a call shows was in the cache, and what it writes is held unless it fails. -/
theorem made_cache (reply : StoreReply σ) (trouble : Trouble) (world : TroubledWorld σ)
    (query : CacheQuery) :
    ∃ given after, Made world ⟨query, given⟩ after ∧
      (Plan.cache query).run (answer reply trouble) world = (given, after) := by
  refine ⟨(world.ask trouble query).1, (world.ask trouble query).2, ⟨rfl, rfl, ?_, ?_⟩, rfl⟩
  · intro key mask shown
    cases replied : (world.ask trouble query).1 with
    | error problem => simp [CacheCall.shows, replied] at shown
    | ok answered =>
        simp only [CacheCall.shows, replied] at shown
        exact CacheState.shows_within_view (CacheState.reply_despite_ok replied).1 key mask shown
  · rintro key mask written ⟨answered, replied⟩
    obtain ⟨done, same⟩ := CacheState.reply_despite_ok replied
    rw [ask, same]
    exact CacheState.holds_of_written written done

variable {after : TroubledWorld σ} {call : CacheCall}

theorem mem_calls_of_made (made : Made world call after) : call ∈ after.calls := by
  rw [made.calls]
  exact List.mem_append_right _ List.mem_cons_self

theorem replenished_of_made {keys : List EntryKey} {facts : Facts} (made : Made world call after)
    (writes : ∀ key ∈ keys, ∀ mask, facts.mask key = some mask →
      (∃ earlier ∈ world.calls, earlier.shows key ≠ none) ∨ call.query.written key = some mask) :
    Replenished facts keys after := by
  intro key asked mask follows
  rw [made.calls]
  rcases writes key asked mask follows with ⟨earlier, before, shown⟩ | written
  · exact .inl ⟨earlier, List.mem_append_left _ before, shown⟩
  · by_cases succeeds : call.Succeeds
    · exact .inr (.inr (made.writes key mask written succeeds))
    · exact .inr (.inl ⟨call, by simp, by simp [written], succeeds⟩)

theorem made_look_up (reply : StoreReply σ) (trouble : Trouble) (world : TroubledWorld σ)
    (user : UserId) (channel : ChannelId) :
    ∃ call after, Made world call after ∧
      (Resolver.lookUp user channel).run (answer reply trouble) world =
        (call.shows ⟨user, channel⟩, after) := by
  obtain ⟨given, after, made, ran⟩ := made_cache reply trouble world (.get user channel)
  refine ⟨_, after, made, ?_⟩
  unfold Resolver.lookUp
  rw [Plan.run_bind, ran]
  cases given with
  | ok found => simp [CacheCall.shows, CacheQuery.shows]
  | error problem => rfl

theorem made_remember (reply : StoreReply σ) (trouble : Trouble) (world : TroubledWorld σ)
    (user : UserId) (channel : ChannelId) (mask : Mask) :
    ∃ call after, Made world call after ∧ call.query = .set user channel mask ∧
      (Resolver.remember user channel mask).run (answer reply trouble) world = ((), after) := by
  obtain ⟨given, after, made, ran⟩ := made_cache reply trouble world (.set user channel mask)
  refine ⟨_, after, made, rfl, ?_⟩
  unfold Resolver.remember
  rw [Plan.run_bind, ran]
  cases given <;> rfl

theorem run_batch_written (given : Except CacheError Unit) :
    (Resolver.batchWritten given).run (answer reply trouble) world = ((), world) := by
  cases given <;> rfl

theorem made_set_many (reply : StoreReply σ) (trouble : Trouble) (world : TroubledWorld σ)
    (user : UserId) (computed : IdMap Mask) :
    computed.isEmpty = true ∧
        (do
          if computed.isEmpty then return ()
          else Resolver.batchWritten (← Plan.cache (.setMany user computed)) : Plan Unit).run
            (answer reply trouble) world = ((), world) ∨
      ∃ call after, Made world call after ∧ call.query = .setMany user computed ∧
        (do
          if computed.isEmpty then return ()
          else Resolver.batchWritten (← Plan.cache (.setMany user computed)) : Plan Unit).run
            (answer reply trouble) world = ((), after) := by
  by_cases nothing : computed.isEmpty = true
  · rw [if_pos nothing]
    exact .inl ⟨nothing, rfl⟩
  · obtain ⟨given, after, made, ran⟩ := made_cache reply trouble world (.setMany user computed)
    refine .inr ⟨_, after, made, rfl, ?_⟩
    rw [if_neg nothing, Plan.run_bind, ran]
    exact run_batch_written given

theorem made_set_many_users (reply : StoreReply σ) (trouble : Trouble) (world : TroubledWorld σ)
    (channel : ChannelId) (computed : IdMap Mask) :
    ∃ call after, Made world call after ∧ call.query = .setManyUsers channel computed ∧
      (do Resolver.batchWritten (← Plan.cache (.setManyUsers channel computed)) : Plan Unit).run
        (answer reply trouble) world = ((), after) := by
  obtain ⟨given, after, made, ran⟩ :=
    made_cache reply trouble world (.setManyUsers channel computed)
  refine ⟨_, after, made, rfl, ?_⟩
  rw [Plan.run_bind, ran]
  exact run_batch_written given

theorem run_hits {β : Type} {plan : Plan (Except CacheError (IdMap Mask))}
    {given : Except CacheError (IdMap Mask)}
    (ran : plan.run (answer reply trouble) world = (given, after))
    (rest : IdMap Mask → Attempt β) :
    (do rest (← Resolver.hitsOf (← plan)) : Attempt β).run.run (answer reply trouble) world =
      (rest (given.toOption.getD ∅)).run.run (answer reply trouble) after := by
  have hits : (Resolver.hitsOf given).run (answer reply trouble) after =
      (given.toOption.getD ∅, after) := by
    cases given <;> rfl
  exact (run_attempt_ok (run_attempt_lift ran) _).trans (run_attempt_ok (run_attempt_lift hits) _)

theorem shows_get_many (user : UserId) (channels : List ChannelId)
    (given : Except CacheError (IdMap Mask)) (channel : ChannelId) :
    (given.toOption.getD ∅)[channel]? =
      CacheCall.shows ⟨.getMany user channels, given⟩ ⟨user, channel⟩ := by
  cases given <;> simp [CacheCall.shows, CacheQuery.shows, Except.toOption]

theorem shows_get_many_users (channel : ChannelId) (users : List UserId)
    (given : Except CacheError (IdMap Mask)) (user : UserId) :
    (given.toOption.getD ∅)[user]? =
      CacheCall.shows ⟨.getManyUsers channel users, given⟩ ⟨user, channel⟩ := by
  cases given <;> simp [CacheCall.shows, CacheQuery.shows, Except.toOption]

/-! What is computed from the store, which lets the cache alone. -/

section Computing

variable (reads : StoreReads reply facts owns) (trouble : Trouble) (world : TroubledWorld σ)

include reads

theorem computes_mask {user : UserId} (known : ∀ store, owns store user = (facts store).owns user)
    (channel : ChannelId) :
    ∃ after, (Resolver.compute user channel).run.run (answer reply trouble) world =
        (Facts.require ⟨user, channel⟩ ((facts world.store).mask ⟨user, channel⟩), after) ∧
      after.calls = world.calls := by
  obtain ⟨after, ran, left⟩ := Resolver.settles_compute
    (store_legible_answer reads world.cache world.calls) ⟨rfl, rfl⟩
    (fun world => known world.store) channel
  exact ⟨after, ran, left.working.2⟩

theorem computes_channels {user : UserId}
    (known : ∀ store, owns store user = (facts store).owns user) {channels : List ChannelId}
    (distinct : channels.Nodup) :
    ∃ after, (Resolver.computeChannels user channels).run.run (answer reply trouble) world =
        (.ok (gather (fun channel => (facts world.store).mask ⟨user, channel⟩) channels), after) ∧
      after.calls = world.calls := by
  obtain ⟨after, ran, left⟩ := Resolver.settles_compute_channels
    (store_legible_answer reads world.cache world.calls) ⟨rfl, rfl⟩
    (fun world => known world.store) distinct
  exact ⟨after, ran, left.working.2⟩

theorem computes_users (named : World.OwnerNamed reply facts owns) {users : List UserId}
    (distinct : users.Nodup) {channel : ChannelId}
    (exists_channel : (facts world.store).channel channel ≠ none) :
    ∃ after, (Resolver.computeUsers users channel).run.run (answer reply trouble) world =
        (.ok (gather (fun user => (facts world.store).mask ⟨user, channel⟩) users), after) ∧
      after.calls = world.calls := by
  obtain ⟨after, ran, left⟩ := Resolver.settles_compute_users
    (store_legible_answer reads world.cache world.calls) ⟨rfl, rfl⟩
    (fun world => named.owner world.store) distinct exists_channel
  exact ⟨after, ran, left.working.2⟩

theorem fails_to_compute_users (users : List UserId) {channel : ChannelId}
    (absent : (facts world.store).channel channel = none) :
    ∃ after, (Resolver.computeUsers users channel).run.run (answer reply trouble) world =
      (.error (.channelNotFound channel), after) := by
  obtain ⟨after, ran, _⟩ := Resolver.settles_compute_users_error
    (store_legible_answer reads world.cache world.calls) ⟨rfl, rfl⟩ users absent
  exact ⟨after, ran⟩

end Computing

/-! Reads of permissions. -/

/-- A read comes to what it comes to on a cache that works and shows no more than this one, and
leaves its keys replenished. -/
def Weathers (reply : StoreReply σ) (trouble : Trouble) (facts : σ → Facts)
    (world : TroubledWorld σ) (inquiry : Inquiry) : Prop :=
  ∃ shown after, inquiry.attempt.run.run (answer reply trouble) world =
      ((facts world.store).outcome shown inquiry, after) ∧
    shown.Within world.cache.view ∧ Replenished (facts world.store) inquiry.keys after

theorem weathers_judge (facts : Facts) {keyOf : Uuid → EntryKey} {ids : List Uuid}
    (permission : Mask) {hits : IdMap Mask} {call : CacheCall} {writing : IdMap Mask → CacheQuery}
    {computeMissing : List Uuid → Attempt (IdMap Mask)} {rememberAll : IdMap Mask → Plan Unit}
    (writes : ∀ computed id, (writing computed).written (keyOf id) = computed[id]?)
    (made : call ∈ world.calls) (shows : ∀ id ∈ ids, hits[id]? = call.shows (keyOf id))
    (computes : (∃ id ∈ ids, hits[id]? = none) → ∀ missing : List Uuid, missing.Nodup →
      ∃ between, (computeMissing missing).run.run (answer reply trouble) world =
        (.ok (gather (fun id => facts.mask (keyOf id)) missing), between) ∧
          between.calls = world.calls)
    (remembers : ∀ (computed : IdMap Mask) (between : TroubledWorld σ),
      computed.isEmpty = true ∧
          (rememberAll computed).run (answer reply trouble) between = ((), between) ∨
        ∃ write after, Made between write after ∧
          write.query = writing computed ∧
            (rememberAll computed).run (answer reply trouble) between = ((), after)) :
    ∃ after, (Resolver.judge ids permission hits computeMissing rememberAll).run.run
        (answer reply trouble) world =
        (.ok (facts.judged call.shows keyOf ids permission), after) ∧
      Replenished facts (ids.map keyOf) after := by
  rw [Facts.judged_of_hits shows]
  by_cases missing : ∃ id ∈ ids, hits[id]? = none
  · obtain ⟨between, computed, sameCalls⟩ := computes missing _ (nodup_unique_misses hits ids)
    have found : ∀ id ∈ ids, ∀ mask, facts.mask (keyOf id) = some mask →
        (∃ earlier ∈ between.calls, earlier.shows (keyOf id) ≠ none) ∨
          (gather (fun id => facts.mask (keyOf id)) (uniqueMisses hits ids))[id]? = some mask := by
      intro id asked mask follows
      cases hit : hits[id]? with
      | some shown =>
          refine .inl ⟨call, sameCalls ▸ made, ?_⟩
          rw [← shows id asked, hit]
          simp
      | none =>
          right
          rw [get_gather, if_pos ((mem_unique_misses hits ids id).mpr ⟨asked, hit⟩), follows]
    rcases remembers (gather (fun id => facts.mask (keyOf id)) (uniqueMisses hits ids)) between with
      ⟨none_computed, remembered⟩ | ⟨write, after, madeWrite, written, remembered⟩
    · refine ⟨between, Resolver.run_judge_computed missing computed remembered, ?_⟩
      intro key asked mask follows
      obtain ⟨id, member, rfl⟩ := List.mem_map.mp asked
      refine .inl ((found id member mask follows).resolve_right fun present => ?_)
      simp [Std.ExtTreeMap.isEmpty_iff.mp none_computed] at present
    · refine ⟨after, Resolver.run_judge_computed missing computed remembered,
        replenished_of_made madeWrite ?_⟩
      intro key asked mask follows
      obtain ⟨id, member, rfl⟩ := List.mem_map.mp asked
      rw [written, writes]
      exact found id member mask follows
  · refine ⟨world, Resolver.run_judge_known missing _, ?_⟩
    intro key asked mask _
    obtain ⟨id, member, rfl⟩ := List.mem_map.mp asked
    refine .inl ⟨call, made, ?_⟩
    rw [← shows id member]
    exact fun nothing => missing ⟨id, member, nothing⟩

section Weathering

variable (reads : StoreReads reply facts owns) (trouble : Trouble) (world : TroubledWorld σ)

include reads

theorem weathers_resolve {user : UserId}
    (known : ∀ store, owns store user = (facts store).owns user) (channel : ChannelId) :
    Weathers reply trouble facts world (.resolve user channel) := by
  obtain ⟨call, between, made, looked⟩ := made_look_up reply trouble world user channel
  have looked := run_attempt_lift looked
  cases shown : call.shows ⟨user, channel⟩ with
  | some mask =>
      rw [shown] at looked
      refine ⟨call.shows, between, ?_, made.within, ?_⟩
      · rw [Facts.outcome, Facts.shown, shown]
        exact run_attempt_ok looked _
      · intro key asked _ _
        obtain rfl := List.mem_singleton.mp asked
        exact .inl ⟨call, mem_calls_of_made made, by simp [shown]⟩
  | none =>
      rw [shown] at looked
      obtain ⟨after, computed, sameCalls⟩ :=
        computes_mask reads trouble between known channel
      rw [made.store] at computed
      cases follows : (facts world.store).mask ⟨user, channel⟩ with
      | none =>
          rw [follows] at computed
          refine ⟨call.shows, after, ?_, made.within, ?_⟩
          · rw [Facts.outcome, Facts.shown, shown, follows]
            exact (run_attempt_ok looked _).trans (run_attempt_error computed _)
          · intro key asked mask present
            obtain rfl := List.mem_singleton.mp asked
            rw [follows] at present
            contradiction
      | some mask =>
          rw [follows] at computed
          obtain ⟨write, final, madeWrite, written, remembered⟩ :=
            made_remember reply trouble after user channel mask
          refine ⟨call.shows, final, ?_, made.within, replenished_of_made madeWrite ?_⟩
          · rw [Facts.outcome, Facts.shown, shown, follows]
            refine (run_attempt_ok looked _).trans ((run_attempt_ok computed _).trans ?_)
            exact run_attempt_ok (run_attempt_lift remembered) _
          · intro key asked other present
            obtain rfl := List.mem_singleton.mp asked
            rw [follows] at present
            exact .inr (by rw [written, CacheQuery.written, if_pos rfl, present])

theorem weathers_filter_permitted {user : UserId}
    (known : ∀ store, owns store user = (facts store).owns user) (channels : List ChannelId)
    (permission : Mask) :
    Weathers reply trouble facts world (.filterPermitted user channels permission) := by
  by_cases nothing : channels.isEmpty = true
  · obtain rfl := List.isEmpty_iff.mp nothing
    exact ⟨fun _ => none, world, rfl, by simp [CacheView.Within],
      by simp [Replenished, Inquiry.keys]⟩
  · obtain ⟨given, between, made, looked⟩ :=
      made_cache reply trouble world (.getMany user channels)
    have computes (missing : List Uuid) (distinct : missing.Nodup) :=
      computes_channels reads trouble between known distinct
    rw [made.store] at computes
    have writes (computed : IdMap Mask) (channel : ChannelId) :
        (CacheQuery.setMany user computed).written ⟨user, channel⟩ = computed[channel]? :=
      if_pos rfl
    obtain ⟨after, judged, replenished⟩ := weathers_judge (facts world.store) permission writes
      (mem_calls_of_made made) (fun channel _ => shows_get_many user channels given channel)
      (fun _ => computes) fun computed between =>
        made_set_many reply trouble between user computed
    refine ⟨_, after, ?_, made.within, replenished⟩
    simp only [Inquiry.attempt, Resolver.filterPermitted]
    rw [if_neg nothing]
    exact (run_hits looked _).trans judged

theorem weathers_filter_users_permitted (named : World.OwnerNamed reply facts owns)
    (users : List UserId) (channel : ChannelId) (permission : Mask) :
    Weathers reply trouble facts world (.filterUsersPermitted users channel permission) := by
  by_cases nothing : users.isEmpty = true
  · obtain rfl := List.isEmpty_iff.mp nothing
    refine ⟨fun _ => none, world, ?_, by simp [CacheView.Within],
      by simp [Replenished, Inquiry.keys]⟩
    simp only [Facts.outcome, List.not_mem_nil, false_and, exists_false, if_false]
    rfl
  · obtain ⟨given, between, made, looked⟩ :=
      made_cache reply trouble world (.getManyUsers channel users)
    have shows := shows_get_many_users channel users given
    by_cases failing : (∃ user ∈ users, CacheCall.shows ⟨.getManyUsers channel users, given⟩
        ⟨user, channel⟩ = none) ∧ (facts world.store).channel channel = none
    · obtain ⟨missing, absent⟩ := failing
      have absentThere := absent
      rw [← made.store] at absentThere
      obtain ⟨after, fails⟩ := fails_to_compute_users reads trouble between
        (uniqueMisses (given.toOption.getD ∅) users) absentThere
      refine ⟨_, after, ?_, made.within, ?_⟩
      · rw [Facts.outcome, if_pos ⟨missing, absent⟩]
        simp only [Inquiry.attempt, Resolver.filterUsersPermitted]
        rw [if_neg nothing]
        simp only [← shows] at missing
        exact (run_hits looked _).trans (Resolver.run_judge_failed missing fails)
      -- In a channel that does not exist there is no mask to replenish.
      · intro key asked mask follows
        obtain ⟨user, _, rfl⟩ := List.mem_map.mp asked
        rw [(Facts.mask_eq_none_iff ⟨user, channel⟩).mpr absent] at follows
        contradiction
    · have computes (missing : ∃ user ∈ users, (given.toOption.getD ∅)[user]? = none)
          (asked : List Uuid) (distinct : asked.Nodup) : ∃ after,
          (Resolver.computeUsers asked channel).run.run (answer reply trouble) between =
            (.ok (gather (fun user => (facts world.store).mask ⟨user, channel⟩) asked), after) ∧
          after.calls = between.calls := by
        rw [← made.store]
        apply computes_users reads trouble between named distinct
        rw [made.store]
        simp only [shows] at missing
        exact fun absent => failing ⟨missing, absent⟩
      have writes (computed : IdMap Mask) (user : UserId) :
          (CacheQuery.setManyUsers channel computed).written ⟨user, channel⟩ = computed[user]? :=
        if_pos rfl
      obtain ⟨after, judged, replenished⟩ := weathers_judge (facts world.store) permission writes
        (mem_calls_of_made made) (fun user _ => shows user) computes fun computed between =>
          .inr (made_set_many_users reply trouble between channel computed)
      refine ⟨_, after, ?_, made.within, replenished⟩
      rw [Facts.outcome, if_neg failing]
      simp only [Inquiry.attempt, Resolver.filterUsersPermitted]
      rw [if_neg nothing]
      exact (run_hits looked _).trans judged

theorem weathers_inquiry (named : World.OwnerNamed reply facts owns) (inquiry : Inquiry) :
    Weathers reply trouble facts world inquiry := by
  have known (user : UserId) (store : σ) := named.owns store user
  cases inquiry with
  | resolve user channel => exact weathers_resolve reads trouble world (known user) channel
  | hasPermission user channel permission =>
      obtain ⟨shown, after, ran, within, replenished⟩ :=
        weathers_resolve reads trouble world (known user) channel
      exact ⟨shown, after, Resolver.run_has_permission ran permission, within, replenished⟩
  | requirePermission user channel permission =>
      obtain ⟨shown, after, ran, within, replenished⟩ :=
        weathers_resolve reads trouble world (known user) channel
      refine ⟨shown, after, ?_, within, replenished⟩
      rw [Facts.outcome_require_permission]
      exact Resolver.run_require_permission ran permission
  | filterPermitted user channels permission =>
      exact weathers_filter_permitted reads trouble world (known user) channels permission
  | filterUsersPermitted users channel permission =>
      exact weathers_filter_users_permitted reads trouble world named users channel permission

end Weathering

theorem run_bare (reads : StoreReads reply facts owns) (named : World.OwnerNamed reply facts owns)
    (store : σ) (inquiry : Inquiry) :
    (inquiry.attempt.run.run (bareAnswer reply) store).1 =
      (facts store).outcome (fun _ => none) inquiry := by
  obtain ⟨_, ran, _⟩ := settles_legible_inquiry (legible_bare_answer reads)
    (fun user store => named.owns store user) named.owner trivial inquiry
  exact congrArg Prod.fst ran

/-- A failing cache changes no answer. Whatever state the cache is in, as long as nothing it shows
is wrong, and whichever calls to it fail, a read of permissions comes to exactly what it comes to
without any cache, errors included. And a key of a channel that exists, if no call shows its mask
and none that writes it fails, holds the right mask afterwards for as long as an entry lives,
whatever was there before. -/
theorem failing_cache_changes_no_answer (reads : StoreReads reply facts owns)
    (named : World.OwnerNamed reply facts owns) (trouble : Trouble) (store : σ)
    (cache : CacheState) (correct : (facts store).Correct cache.view) (inquiry : Inquiry) :
    ∃ after : TroubledWorld σ,
      inquiry.attempt.run.run (answer reply trouble) ⟨store, cache, []⟩ =
        ((inquiry.attempt.run.run (bareAnswer reply) store).1, after) ∧
      ∀ key ∈ inquiry.keys, ∀ mask, (facts store).mask key = some mask →
        (∀ call ∈ after.calls, call.shows key = none) →
        (∀ call ∈ after.calls, call.query.written key ≠ none → call.Succeeds) →
        after.cache.Holds key mask := by
  obtain ⟨shown, after, ran, within, replenished⟩ :=
    weathers_inquiry reads trouble ⟨store, cache, []⟩ named inquiry
  refine ⟨after, ?_, ?_⟩
  · rw [ran, run_bare reads named,
      Facts.outcome_of_correct (CacheView.within_trans within correct)]
  · intro key asked mask follows unseen succeed
    rcases replenished key asked mask follows with
      ⟨call, made, shows⟩ | ⟨call, made, writes, fails⟩ | holds
    · exact absurd (unseen call made) shows
    · exact absurd (succeed call made writes) fails
    · exact holds

/-- A batched read that comes upon a text that is no mask. The mask that is computed is held in its
place afterwards. -/
theorem failing_cache_changes_no_answer_on_malformed_text :
    let user : UserId := .ofNat 7
    let general : ChannelId := .ofNat 2
    let directory : Directory :=
      ⟨.ofNat 1, .ofEntries [(.ofNat 1, .ofNat 4)], ∅, .ofEntries [(general, "general")], [], none,
        0, false⟩
    let shared := SharedCache.opened "permissions" 300
    let slots : Std.ExtTreeMap String Slot :=
      (∅ : Std.ExtTreeMap String Slot).insert (shared.entryKey user general) ⟨.text "none", none⟩
    let cache := CacheState.shared shared ⟨⟨0, slots⟩, none⟩
    let inquiry := Inquiry.filterPermitted user [general, .ofNat 9] (.ofNat 4)
    StoreReads Directory.fullReply Directory.facts (fun store => store.facts.owns) ∧
      World.OwnerNamed Directory.fullReply Directory.facts (fun store => store.facts.owns) ∧
      directory.facts.Correct cache.view ∧
      ∃ after : TroubledWorld Directory,
        inquiry.attempt.run.run (answer Directory.fullReply fun _ _ => none)
          ⟨directory, cache, []⟩ = (.ok [true, false], after) ∧
        after.cache.Holds ⟨user, general⟩ (.ofNat 4) := by
  intro user general directory shared slots cache inquiry
  have reads := Directory.full_reply_answers.store_reads
  have named : World.OwnerNamed Directory.fullReply Directory.facts fun store => store.facts.owns :=
    ⟨fun _ => rfl, fun _ _ => rfl⟩
  have malformed : SharedCache.maskOf "none" = .error (.malformed "none") := by decide +kernel
  have unreadable (key : EntryKey) : cache.view key = none := by
    simp only [cache, CacheState.view, SharedCache.reply_get_fst, Keyspace.textAt, slots,
      Std.ExtTreeMap.getElem?_insert]
    by_cases here : compare (shared.entryKey user general) (shared.names.entryKey key) = .eq
    · simp only [here, if_true, SharedCache.decodeOne, malformed]
      rfl
    · simp only [here, if_false, Std.ExtTreeMap.getElem?_empty]
      rfl
  have correct : directory.facts.Correct cache.view := by
    intro key mask found
    rw [unreadable key] at found
    contradiction
  obtain ⟨after, ran, holds⟩ :=
    failing_cache_changes_no_answer reads named (fun _ _ => none) directory cache correct inquiry
  have bare : (inquiry.attempt.run.run (bareAnswer Directory.fullReply) directory).1 =
      .ok [true, false] := by
    decide +kernel
  have follows : directory.facts.mask ⟨user, general⟩ = some (.ofNat 4) := by
    decide +kernel
  have calls : ∀ call ∈ (inquiry.attempt.run.run (answer Directory.fullReply fun _ _ => none)
      ⟨directory, cache, []⟩).2.calls, call.shows ⟨user, general⟩ = none ∧
        (call.query.written ⟨user, general⟩ ≠ none → call.Succeeds) := by
    decide +kernel
  rw [bare] at ran
  rw [ran] at calls
  have asked : ⟨user, general⟩ ∈ inquiry.keys := List.mem_cons_self
  refine ⟨reads, named, correct, after, ran, holds _ asked _ follows ?_ ?_⟩
  · exact fun call made => (calls call made).1
  · exact fun call made => (calls call made).2

end TroubledWorld

end ChannelAccess
