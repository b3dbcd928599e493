import ChannelAccess.Deployment
import ChannelAccess.Proofs.Cache.Working
import ChannelAccess.Proofs.Resolver.Reading

/-!
# Worlds

Any store beside a cache and, where one is attached, a queue. A world answers plans as
a deployment without outages does, less the record; with a store that answers from
facts and a cache that works it is lawful. The same store without any cache is lawful
too, with nothing to be found.
-/

namespace ChannelAccess

set_option autoImplicit false

abbrev StoreReply (σ : Type) := (query : StoreQuery) → σ → query.Reply × σ

structure World (σ : Type) where
  store : σ
  cache : CacheState
  queue : Option Queue

namespace World

variable {σ : Type}

def answer (reply : StoreReply σ) : Plan.Answerer (World σ)
  | .store query, world =>
      ((reply query world.store).1, { world with store := (reply query world.store).2 })
  | .cache query, world =>
      ((world.cache.reply query).1, { world with cache := (world.cache.reply query).2 })
  | .enqueue scope, world =>
      match world.queue with
      | none => (.error .stopped, world)
      | some queue => ((queue.offer scope).1, { world with queue := some (queue.offer scope).2 })
  | .report _, world => ((), world)

def carryOut {α : Type} (reply : StoreReply σ) (world : World σ) (plan : Plan α) : α × World σ :=
  plan.run (answer reply) world

theorem carry_out_apply (reply : StoreReply σ) (world : World σ) (scope : Invalidation) :
    world.carryOut reply (Publisher.apply scope) =
      ((), { world with cache := (world.cache.reply (.drop scope)).2 }) := by
  cases replied : (world.cache.reply (.drop scope)).1 <;>
    simp [carryOut, Publisher.apply, Plan.cache, Plan.request, Plan.report, answer, replied]

theorem carry_out_apply_all (reply : StoreReply σ) (world : World σ)
    (scopes : List Invalidation) :
    world.carryOut reply (Publisher.applyAll scopes) =
      ((), { world with cache := world.cache.replyAll (scopes.map .drop) }) := by
  induction scopes generalizing world with
  | nil => rfl
  | cons scope rest ih =>
      rw [carryOut, Publisher.applyAll, Plan.run_bind]
      have first := carry_out_apply reply world scope
      rw [carryOut] at first
      rw [first]
      exact ih _

/-- What the store says, what the cache shows, and whether the cache works, beside a queue that
nobody touches. -/
def outlook (facts : σ → Facts) (queue : Option Queue) : Outlook (World σ) where
  facts world := facts world.store
  view world := world.cache.view
  working world := world.cache.Working ∧ world.queue = queue

theorem lawful_answer {reply : StoreReply σ} {facts : σ → Facts}
    (answers : StoreAnswers reply facts) (queue : Option Queue) :
    Lawful (answer reply) (outlook facts queue) where
  store :=
    { grants := fun world => answers.grants world.store
      grantsMany := fun world => answers.grantsMany world.store
      channel := fun world => answers.channel world.store
      channelMany := fun world => answers.channelMany world.store
      overrides := fun world => answers.overrides world.store
      overridesMany := fun world => answers.overridesMany world.store
      owner := fun world => answers.owner world.store
      isOwner := fun world => answers.isOwner world.store
      reads := fun query world => answers.reads query world.store
      setOverride := fun world => answers.setOverride world.store
      deleteOverride := fun world => answers.deleteOverride world.store }
  storeApart _ _ works := ⟨works, rfl⟩
  cache query world works := by
    obtain ⟨replies, stillWorks, within⟩ := CacheState.reply_working works.1 query
    exact ⟨replies, ⟨stillWorks, works.2⟩, within⟩
  cacheApart _ _ := rfl
  report _ _ works := ⟨works, rfl, rfl⟩

end World

section Computing

variable {σ : Type} {reply : StoreReply σ} {facts : σ → Facts} {world : World σ}
  (answers : StoreAnswers reply facts) (works : world.cache.Working)

include answers works

theorem compute_eq (user : UserId) (channel : ChannelId) :
    (world.carryOut reply (Resolver.compute user channel).run).1 =
      Facts.require ⟨user, channel⟩ ((facts world.store).mask ⟨user, channel⟩) := by
  have working : (World.outlook facts world.queue).working world := ⟨works, rfl⟩
  obtain ⟨_, ran, _⟩ := Resolver.settles_compute
    (World.lawful_answer answers world.queue).legible.toStoreLegible working
      (owner_known_owns _ user) channel
  rw [World.carryOut, ran]
  rfl

theorem computed_of_follows {user : UserId} {channel : ChannelId} {mask : Mask}
    (follows : (facts world.store).mask ⟨user, channel⟩ = some mask) :
    (world.carryOut reply (Resolver.compute user channel).run).1 = .ok mask := by
  rw [compute_eq answers works, follows]
  rfl

end Computing

namespace Deployment

def world (deployment : Deployment) : World StoreState :=
  ⟨deployment.store, deployment.cache, deployment.queue⟩

theorem world_answer {deployment : Deployment} (request : Request)
    (up : deployment.outage = .none) :
    (answer request deployment).1 =
        (World.answer (fun query => StoreState.reply query) request deployment.world).1 ∧
      (answer request deployment).2.world =
        (World.answer (fun query => StoreState.reply query) request deployment.world).2 ∧
      (answer request deployment).2.outage = .none := by
  obtain ⟨store, cache, queue, outage, record⟩ := deployment
  subst up
  cases request with
  | store query => exact ⟨rfl, rfl, rfl⟩
  | cache query => exact ⟨rfl, rfl, rfl⟩
  | enqueue scope => cases queue <;> exact ⟨rfl, rfl, rfl⟩
  | report event => exact ⟨rfl, rfl, rfl⟩

/-- A deployment without outages carries out every plan as its world does. -/
theorem world_carry_out {α : Type} (plan : Plan α) {deployment : Deployment}
    (up : deployment.outage = .none) :
    ((deployment.carryOut plan).1, (deployment.carryOut plan).2.world) =
      deployment.world.carryOut (fun query => StoreState.reply query) plan := by
  induction plan generalizing deployment with
  | done result => rfl
  | ask request next ih =>
      obtain ⟨sameReply, sameWorld, stillUp⟩ := world_answer request up
      have further := ih (answer request deployment).1 stillUp
      simp only [carryOut, World.carryOut, Plan.run_ask] at further ⊢
      rw [further, sameWorld, sameReply]

end Deployment

/-- Replies of a store without any cache: nothing is found, and nothing is kept. -/
def bareAnswer {σ : Type} (reply : StoreReply σ) : Plan.Answerer σ
  | .store query, store => reply query store
  | .cache query, store => (.ok (query.answerFrom fun _ => none), store)
  | .enqueue _, store => (.error .stopped, store)
  | .report _, store => ((), store)

def bareOutlook {σ : Type} (facts : σ → Facts) : Outlook σ where
  facts := facts
  view _ := fun _ => none
  working _ := True

theorem lawful_bare_answer {σ : Type} {reply : StoreReply σ} {facts : σ → Facts}
    (answers : StoreAnswers reply facts) : Lawful (bareAnswer reply) (bareOutlook facts) where
  store := answers
  storeApart _ _ _ := ⟨trivial, rfl⟩
  cache _ _ _ := ⟨rfl, trivial, fun _ _ found => by simp [bareOutlook] at found⟩
  cacheApart _ _ := rfl
  report _ _ _ := ⟨trivial, rfl, rfl⟩

theorem legible_bare_answer {σ : Type} {reply : StoreReply σ} {facts : σ → Facts}
    {owns : σ → UserId → Bool} (reads : StoreReads reply facts owns) :
    Legible (bareAnswer reply) (bareOutlook facts) owns where
  store := reads
  storeApart _ _ _ _ := ⟨trivial, rfl⟩
  cache _ _ _ _ := ⟨rfl, trivial, fun _ _ found => by simp [bareOutlook] at found⟩
  cacheApart _ _ _ := rfl

end ChannelAccess
