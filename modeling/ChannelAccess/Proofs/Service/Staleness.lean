import ChannelAccess.Proofs.Invalidation.Coalescing
import ChannelAccess.Proofs.Resolver.Reading
import ChannelAccess.Proofs.Service.Effects
import ChannelAccess.Proofs.Service.World
import ChannelAccess.Proofs.Store.Directory

/-!
# Nothing stale is forgotten

A service with a queue, whose worker drops what a change made stale some time after the
change. In between reads fill the cache again, and more changes are made while a batch
is half applied. As long as every invalidation finds a place in the queue, an entry
that is not what would be computed is covered by a scope that the worker has before it:
one that waits, or one in the rest of its batch. A worker that runs until nothing waits
leaves nothing stale.
-/

namespace ChannelAccess

set_option autoImplicit false

namespace World

variable {σ : Type} {reply : StoreReply σ} {world after : World σ}

def waiting (world : World σ) : List Invalidation :=
  match world.queue with
  | none => []
  | some queue => queue.pending

/-- What offering some scopes leaves behind when all are taken. -/
structure LeftByQueueing (scopes : List Invalidation) (before after : World σ) : Prop where
  store : after.store = before.store
  cache : after.cache = before.cache
  waiting : after.waiting = before.waiting ++ scopes

theorem left_by_queueing_trans {first second : List Invalidation} {between : World σ}
    (start : LeftByQueueing first world between) (further : LeftByQueueing second between after) :
    LeftByQueueing (first ++ second) world after where
  store := further.store.trans start.store
  cache := further.cache.trans start.cache
  waiting := by rw [further.waiting, start.waiting, List.append_assoc]

theorem pending_of_taken {queue : Queue} {scope : Invalidation}
    (taken : (queue.offer scope).1 = .ok ()) :
    (queue.offer scope).2.pending = queue.pending ++ [scope] := by
  cases running : queue.worker with
  | aborted => simp [Queue.offer, running] at taken
  | running =>
      by_cases place : queue.pending.length < queue.capacity
      · simp [Queue.offer, running, place]
      · simp [Queue.offer, running, place] at taken

theorem publish_taken {scope : Invalidation}
    (ran : world.carryOut reply (Queue.publish scope) = (true, after)) :
    LeftByQueueing [scope] world after := by
  obtain ⟨store, cache, queue⟩ := world
  cases queue with
  | none => exact absurd (congrArg Prod.fst ran) Bool.false_ne_true
  | some queue =>
      cases offered : (queue.offer scope).1 with
      | error reason =>
          simp [carryOut, Queue.publish, Plan.request, Plan.report, answer, offered] at ran
      | ok _ =>
          have taken : after = ⟨store, cache, some (queue.offer scope).2⟩ := by
            simpa [carryOut, Queue.publish, Plan.request, answer, offered, eq_comm] using ran
          rw [taken]
          exact ⟨rfl, rfl, pending_of_taken offered⟩

theorem publish_all_taken {scopes : List Invalidation}
    (ran : world.carryOut reply (Queue.publishAll scopes) = (true, after)) :
    LeftByQueueing scopes world after := by
  induction scopes generalizing world with
  | nil =>
      have same : world = after := congrArg Prod.snd ran
      rw [← same]
      exact ⟨rfl, rfl, (List.append_nil _).symm⟩
  | cons scope rest ih =>
      rw [carryOut, Queue.publishAll, Plan.run_bind, Plan.run_bind] at ran
      obtain ⟨both, reached⟩ := Prod.mk.inj ran
      obtain ⟨first, others⟩ := Bool.and_eq_true_iff.mp both
      have here := publish_taken (Prod.ext first rfl)
      exact left_by_queueing_trans here (ih (Prod.ext others reached))

end World

structure QueuedWorld (σ : Type) where
  world : World σ
  /-- The scopes of the worker's batch that it has not dropped yet. -/
  rest : List Invalidation

namespace QueuedWorld

variable {σ : Type}

def ahead (state : QueuedWorld σ) : List Invalidation :=
  state.rest ++ state.world.waiting

/-- One thing that happens to a service with a queue. A change of the store is followed by the
invalidations it makes necessary, all of which find a place. The worker takes a batch when it is
done with the one before, and drops one scope of it at a time. -/
inductive Turn (reply : StoreReply σ) (facts : σ → Facts) :
    QueuedWorld σ → QueuedWorld σ → Prop where
  | read (world : World σ) (rest : List Invalidation) (inquiry : Inquiry) :
      Turn reply facts ⟨world, rest⟩ ⟨(world.carryOut reply inquiry.attempt.run).2, rest⟩
  | setOverride (world : World σ) (rest : List Invalidation) (channel : ChannelId)
      (principal : Principal) (allow deny : Mask) :
      Turn reply facts ⟨world, rest⟩
        ⟨(world.carryOut reply (Service.setOverride channel principal allow deny).run).2, rest⟩
  | deleteOverride (world : World σ) (rest : List Invalidation) (channel : ChannelId)
      (principal : Principal) :
      Turn reply facts ⟨world, rest⟩
        ⟨(world.carryOut reply (Service.deleteOverride channel principal).run).2, rest⟩
  | createChannel (world : World σ) (rest : List Invalidation) (channel : ChannelId) (store : σ)
      (created : (facts world.store).AlikeButCreated channel (facts store)) :
      Turn reply facts ⟨world, rest⟩ ⟨{ world with store := store }, rest⟩
  | change (world : World σ) (rest : List Invalidation) (change : Change) (store : σ)
      (permitted : change.Permits (facts world.store) (facts store))
      (taken : (({ world with store := store } : World σ).carryOut reply
        (Queue.publishChange change)).1 = true) :
      Turn reply facts ⟨world, rest⟩
        ⟨(({ world with store := store } : World σ).carryOut reply
          (Service.applyChange .queued change)).2, rest⟩
  | receive (world : World σ) (queue : Queue) (number : Nat)
      (attached : world.queue = some queue) (atMost : number ≤ Queue.batchSize) :
      Turn reply facts ⟨world, []⟩
        ⟨{ world with queue := some { queue with pending := queue.pending.drop number } },
          Invalidation.coalesce (queue.pending.take number)⟩
  | drop (world : World σ) (scope : Invalidation) (rest : List Invalidation) :
      Turn reply facts ⟨world, scope :: rest⟩
        ⟨(world.carryOut reply (Publisher.apply scope)).2, rest⟩
  | wait (world : World σ) (rest : List Invalidation) (micros : Nat) :
      Turn reply facts ⟨world, rest⟩ ⟨{ world with cache := world.cache.advance micros }, rest⟩

/-- What a service gets to from a cache that works and is correct and a queue that was just
started. -/
inductive Visited (reply : StoreReply σ) (facts : σ → Facts) : QueuedWorld σ → Prop where
  | start (store : σ) (cache : CacheState) (capacity : Nat) (queue : Queue)
      (works : cache.Working) (correct : (facts store).Correct cache.view)
      (started : Queue.start? capacity = some queue) :
      Visited reply facts ⟨⟨store, cache, some queue⟩, []⟩
  | next {state after : QueuedWorld σ} (visited : Visited reply facts state)
      (turn : Turn reply facts state after) : Visited reply facts after

/-- The cache works, and the worker has before it every entry that does not follow from what the
store says. -/
structure Tracked (facts : σ → Facts) (state : QueuedWorld σ) : Prop where
  works : state.world.cache.Working
  covered : ∀ key mask, state.world.cache.view key = some mask →
    (facts state.world.store).mask key = some mask ∨
      Invalidation.AnyCovers state.ahead key.user key.channel

variable {reply : StoreReply σ} {facts : σ → Facts} {world after : World σ}
  {rest : List Invalidation}

theorem ahead_of_same_queue (same : after.queue = world.queue) :
    (⟨after, rest⟩ : QueuedWorld σ).ahead = (⟨world, rest⟩ : QueuedWorld σ).ahead := by
  rw [ahead, ahead, World.waiting, World.waiting, same]

theorem tracked_of_reading (tracked : Tracked facts ⟨world, rest⟩)
    (left : LeftByReading (World.outlook facts world.queue) world after) :
    Tracked facts ⟨after, rest⟩ where
  works := left.working.1
  covered key mask found := by
    have sameFacts : facts after.store = facts world.store := left.facts
    rw [sameFacts, ahead_of_same_queue left.working.2]
    rcases left.found key mask found with before | follows
    · exact tracked.covered key mask before
    · exact .inl follows

theorem tracked_of_editing {channel : ChannelId} (tracked : Tracked facts ⟨world, rest⟩)
    (left : LeftByEditing (World.outlook facts world.queue) channel world after) :
    Tracked facts ⟨after, rest⟩ where
  works := left.working.1
  covered key mask found := by
    have same : (facts after.store).mask key = (facts world.store).mask key :=
      mask_of_edited left found
    rw [same, ahead_of_same_queue left.working.2]
    exact tracked.covered key mask (left.found key mask found).1

theorem tracked_of_change {change : Change} {store : σ} (tracked : Tracked facts ⟨world, rest⟩)
    (permitted : change.Permits (facts world.store) (facts store))
    (left : World.LeftByQueueing change.invalidations { world with store := store } after) :
    Tracked facts ⟨after, rest⟩ where
  works := by
    rw [left.cache]
    exact tracked.works
  covered key mask found := by
    have sameStore : after.store = store := left.store
    have longer : (⟨after, rest⟩ : QueuedWorld σ).ahead =
        (⟨world, rest⟩ : QueuedWorld σ).ahead ++ change.invalidations := by
      rw [ahead, left.waiting, ← List.append_assoc]
      rfl
    rw [left.cache] at found
    rw [sameStore, longer, Invalidation.any_covers_append]
    by_cases touched : Invalidation.AnyCovers change.invalidations key.user key.channel
    · exact .inr (.inr touched)
    · have outside : ∀ scope ∈ change.invalidations,
          scope.covers key.user key.channel = false := by
        intro scope member
        exact Bool.eq_false_iff.mpr fun covers => touched ⟨scope, member, covers⟩
      rw [Facts.mask_of_uncovered permitted outside]
      exact (tracked.covered key mask found).imp_right .inl

/-- A batch that is taken covers as much coalesced as it did in the queue. -/
theorem tracked_of_receipt {queue : Queue} (number : Nat) (attached : world.queue = some queue)
    (tracked : Tracked facts ⟨world, []⟩) :
    Tracked facts
      ⟨{ world with queue := some { queue with pending := queue.pending.drop number } },
        Invalidation.coalesce (queue.pending.take number)⟩ where
  works := tracked.works
  covered key mask found := by
    rcases tracked.covered key mask found with follows | covered
    · exact .inl follows
    · refine .inr ((Invalidation.any_covers_append _ _ _ _).mpr ?_)
      rw [Invalidation.any_covers_coalesce, ← Invalidation.any_covers_append]
      have all : queue.pending.take number ++ queue.pending.drop number =
          (⟨world, []⟩ : QueuedWorld σ).ahead := by
        rw [List.take_append_drop, ahead, List.nil_append, World.waiting, attached]
      exact all ▸ covered

theorem tracked_of_drop {scope : Invalidation} (tracked : Tracked facts ⟨world, scope :: rest⟩)
    (left : LeftByDropping (World.outlook facts world.queue) [scope] world after) :
    Tracked facts ⟨after, rest⟩ where
  works := left.working.1
  covered key mask found := by
    obtain ⟨before, outside⟩ := left.found key mask found
    have sameFacts : facts after.store = facts world.store := left.facts
    rw [sameFacts, ahead_of_same_queue left.working.2]
    rcases tracked.covered key mask before with follows | ⟨covering, member, covers⟩
    · exact .inl follows
    · rcases List.mem_cons.mp member with same | later
      · rw [same, outside scope List.mem_cons_self] at covers
        contradiction
      · exact .inr ⟨covering, later, covers⟩

theorem tracked_of_turn {state next : QueuedWorld σ} (answers : StoreAnswers reply facts)
    (tracked : state.Tracked facts) (turn : Turn reply facts state next) :
    next.Tracked facts := by
  have lawful := World.lawful_answer answers state.world.queue
  have works : (World.outlook facts state.world.queue).working state.world :=
    ⟨tracked.works, rfl⟩
  cases turn with
  | read world rest inquiry =>
      obtain ⟨after, ran, left⟩ := settles_inquiry lawful works inquiry
      rw [World.carryOut, ran]
      exact tracked_of_reading tracked left
  | setOverride world rest channel principal allow deny =>
      obtain ⟨result, after, ran, left⟩ :=
        run_set_override lawful works channel principal allow deny
      rw [World.carryOut, ran]
      exact tracked_of_editing tracked left
  | deleteOverride world rest channel principal =>
      obtain ⟨result, after, ran, left⟩ := run_delete_override lawful works channel principal
      rw [World.carryOut, ran]
      exact tracked_of_editing tracked left
  | createChannel world rest channel store created =>
      refine ⟨tracked.works, ?_⟩
      intro key mask found
      exact (tracked.covered key mask found).imp_left (Facts.mask_of_created created)
  | change world rest change store permitted taken =>
      have left := World.publish_all_taken (Prod.ext taken rfl)
      rw [Service.applyChange, World.carryOut, Plan.run_bind]
      exact tracked_of_change tracked permitted left
  | receive world queue number attached atMost =>
      exact tracked_of_receipt number attached tracked
  | drop world scope rest =>
      obtain ⟨after, ran, left⟩ := run_apply lawful works scope
      rw [World.carryOut, ran]
      exact tracked_of_drop tracked left
  | wait world rest micros =>
      obtain ⟨stillWorks, within⟩ := CacheState.advance_working tracked.works micros
      exact ⟨stillWorks, fun key mask found => tracked.covered key mask (within key mask found)⟩

theorem tracked_of_visited {state : QueuedWorld σ} (answers : StoreAnswers reply facts)
    (visited : Visited reply facts state) : state.Tracked facts := by
  induction visited with
  | start store cache capacity queue works correct started =>
      exact ⟨works, fun key mask found => .inl (correct key mask found)⟩
  | next visited turn ih => exact tracked_of_turn answers ih turn

/-- Wherever a service with a queue gets to, a cached mask that is not what would be computed on the
store as it is then is covered by a scope that waits or is in the rest of the worker's batch. So
where the worker is idle and nothing waits, every cached mask is what would be computed. -/
theorem stale_entries_are_ahead {state : QueuedWorld σ} (answers : StoreAnswers reply facts)
    (visited : Visited reply facts state) :
    (∀ user channel mask,
      (state.world.cache.reply (.get user channel)).1 = .ok (some mask) →
      (state.world.carryOut reply (Resolver.compute user channel).run).1 ≠ .ok mask →
      ∃ scope ∈ state.rest ++ state.world.waiting, scope.covers user channel = true) ∧
    (state.rest = [] → state.world.waiting = [] →
      ∀ user channel mask,
        (state.world.cache.reply (.get user channel)).1 = .ok (some mask) →
        (state.world.carryOut reply (Resolver.compute user channel).run).1 = .ok mask) := by
  have tracked := tracked_of_visited answers visited
  have either (user : UserId) (channel : ChannelId) (mask : Mask)
      (got : (state.world.cache.reply (.get user channel)).1 = .ok (some mask)) :
      (state.world.carryOut reply (Resolver.compute user channel).run).1 = .ok mask ∨
        Invalidation.AnyCovers state.ahead user channel := by
    have found : state.world.cache.view ⟨user, channel⟩ = some mask := by
      rw [(CacheState.reply_working tracked.works (.get user channel)).1] at got
      exact Except.ok.inj got
    exact (tracked.covered ⟨user, channel⟩ mask found).imp_left
      (computed_of_follows answers tracked.works)
  constructor
  · intro user channel mask got differs
    exact (either user channel mask got).resolve_left differs
  · intro idle empty user channel mask got
    refine (either user channel mask got).resolve_right ?_
    rintro ⟨scope, member, _⟩
    rw [ahead, idle, empty] at member
    exact List.not_mem_nil member

/-- A mask is cached; the role that grants it goes, and nothing has been dropped yet. -/
theorem stale_entries_are_ahead_of_worker :
    let user : UserId := .ofNat 7
    let channel : ChannelId := .ofNat 2
    let directory : Directory :=
      ⟨.ofNat 1, .ofEntries [(.ofNat 1, .ofNat 4)], ∅, .ofEntries [(channel, "general")], [],
        none, 0, false⟩
    let fresh : World Directory := ⟨directory, .inProcess (.fresh 300), some ⟨8, [], .running⟩⟩
    let read := (fresh.carryOut Directory.fullReply (Resolver.resolve user channel).run).2
    let stripped : World Directory := { read with store := { directory with roles := ∅ } }
    let changed :=
      (stripped.carryOut Directory.fullReply (Service.applyChange .queued .roleStructure)).2
    StoreAnswers Directory.fullReply Directory.facts ∧
      Visited Directory.fullReply Directory.facts ⟨changed, []⟩ ∧
      (changed.cache.reply (.get user channel)).1 = .ok (some (.ofNat 4)) ∧
      (changed.carryOut Directory.fullReply (Resolver.compute user channel).run).1 ≠
        .ok (.ofNat 4) ∧
      ∃ scope ∈ changed.waiting, scope.covers user channel = true := by
  intro user channel directory fresh read stripped changed
  obtain ⟨works, empty⟩ :=
    @CacheState.working_of_unused (.inProcess (.fresh 300)) ⟨300, rfl⟩
  have correct : (Directory.facts directory).Correct
      (CacheState.view (.inProcess (.fresh 300))) := by
    intro key mask found
    simp [empty] at found
  have visited : Visited Directory.fullReply Directory.facts ⟨changed, []⟩ :=
    .next (.next (.start directory _ 8 _ works correct rfl)
      (.read fresh [] (.resolve user channel)))
      (.change read [] .roleStructure { directory with roles := ∅ } ⟨rfl, rfl, rfl⟩ rfl)
  have got : (changed.cache.reply (.get user channel)).1 = .ok (some (.ofNat 4)) := by
    subst changed stripped read fresh directory user channel
    rfl
  have differs : (changed.carryOut Directory.fullReply (Resolver.compute user channel).run).1 ≠
      .ok (.ofNat 4) := by
    intro same
    have nothing : (changed.carryOut Directory.fullReply (Resolver.compute user channel).run).1 =
        .ok (.ofNat 0) := by
      subst changed stripped read fresh directory user channel
      rfl
    have equal : Mask.ofNat 0 = .ofNat 4 := Except.ok.inj (nothing.symm.trans same)
    exact absurd equal (by decide)
  have answers := Directory.full_reply_answers
  exact ⟨answers, visited, got, differs,
    (stale_entries_are_ahead answers visited).1 user channel (.ofNat 4) got differs⟩

/-! A worker that is let run. -/

theorem carry_out_apply_all_cons (reply : StoreReply σ) (world : World σ) (scope : Invalidation)
    (rest : List Invalidation) :
    (world.carryOut reply (Publisher.applyAll (scope :: rest))).2 =
      ((world.carryOut reply (Publisher.apply scope)).2.carryOut reply
        (Publisher.applyAll rest)).2 := by
  simp only [World.carry_out_apply_all, World.carry_out_apply]
  rfl

theorem carry_out_apply_all_append (reply : StoreReply σ) (world : World σ)
    (first second : List Invalidation) :
    (world.carryOut reply (Publisher.applyAll (first ++ second))).2 =
      ((world.carryOut reply (Publisher.applyAll first)).2.carryOut reply
        (Publisher.applyAll second)).2 := by
  simp only [World.carry_out_apply_all, CacheState.replyAll, List.map_append, List.foldl_append]

theorem carry_out_apply_all_beside (reply : StoreReply σ) (world : World σ)
    (queue : Option Queue) (scopes : List Invalidation) :
    (({ world with queue := queue } : World σ).carryOut reply (Publisher.applyAll scopes)).2 =
      { (world.carryOut reply (Publisher.applyAll scopes)).2 with queue := queue } := by
  simp only [World.carry_out_apply_all]

theorem visited_of_batch (visited : Visited reply facts ⟨world, rest⟩) :
    Visited reply facts ⟨(world.carryOut reply (Publisher.applyAll rest)).2, []⟩ := by
  induction rest generalizing world with
  | nil => exact visited
  | cons scope rest ih =>
      rw [carry_out_apply_all_cons]
      exact ih (.next visited (.drop world scope rest))

theorem visited_of_work {queue : Queue} (pending : List Invalidation)
    (visited : Visited reply facts
      ⟨{ world with queue := some { queue with pending := pending } }, []⟩) :
    Visited reply facts
      ⟨(({ world with queue := some { queue with pending := [] } } : World σ).carryOut reply
        (Queue.work pending)).2, []⟩ := by
  induction pending using Queue.batches.induct generalizing world with
  | case1 =>
      rw [Queue.work, Queue.batches]
      exact visited
  | case2 scope later ih =>
      -- The first batch leaves the same behind whatever waits after it.
      have beside (waiting : List Invalidation) := carry_out_apply_all_beside reply
        { world with queue := some { queue with pending := [] } }
        (some { queue with pending := waiting })
        (Invalidation.coalesce ((scope :: later).take Queue.batchSize))
      have taken := visited_of_batch
        (visited.next (.receive _ _ Queue.batchSize rfl (Nat.le_refl _)))
      rw [Queue.work, Queue.batches, List.flatMap_cons, carry_out_apply_all_append]
      rw [beside []]
      apply ih
      rw [← beside]
      exact taken

end QueuedWorld

namespace Deployment

variable {facts : StoreState → Facts} {deployment : Deployment}

/-- A deployment without outages whose worker has taken everything that is queued is one that its
service gets to, and nothing waits there. -/
theorem visited_of_drain (up : deployment.outage = .none)
    (visited : QueuedWorld.Visited (fun query => StoreState.reply query) facts
      ⟨deployment.world, []⟩) :
    QueuedWorld.Visited (fun query => StoreState.reply query) facts
      ⟨deployment.drain.world, []⟩ ∧ deployment.drain.world.waiting = [] := by
  obtain ⟨store, cache, queue, outage, record⟩ := deployment
  cases queue with
  | none => exact ⟨visited, rfl⟩
  | some queue =>
      let emptied : Deployment :=
        ⟨store, cache, some { queue with pending := [] }, outage, record⟩
      have emptiedUp : emptied.outage = .none := up
      have drained : (emptied.carryOut (Queue.work queue.pending)).2.world =
          (emptied.world.carryOut (fun query => StoreState.reply query)
            (Queue.work queue.pending)).2 :=
        congrArg Prod.snd (world_carry_out _ emptiedUp)
      have worked : QueuedWorld.Visited (fun query => StoreState.reply query) facts
          ⟨(emptied.world.carryOut (fun query => StoreState.reply query)
            (Queue.work queue.pending)).2, []⟩ :=
        @QueuedWorld.visited_of_work _ _ facts ⟨store, cache, none⟩ queue queue.pending visited
      have untouched : (emptied.world.carryOut (fun query => StoreState.reply query)
          (Queue.work queue.pending)).2.queue = emptied.queue :=
        congrArg World.queue
          (QueuedWorld.carry_out_apply_all_beside _ emptied.world emptied.queue _)
      have same : drain ⟨store, cache, some queue, outage, record⟩ =
          (emptied.carryOut (Queue.work queue.pending)).2 := rfl
      rw [same, drained]
      refine ⟨worked, ?_⟩
      rw [World.waiting, untouched]

end Deployment

end ChannelAccess
