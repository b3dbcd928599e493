import ChannelAccess.Proofs.Resolver.Reading
import ChannelAccess.Proofs.Service.Effects
import ChannelAccess.Proofs.Service.World
import ChannelAccess.Proofs.Store.Directory

/-!
# The cache does not show

A service without a queue, on a cache that starts empty. Whatever reads and edits it
serves, and whatever changes of the store it is told about as soon as they are made,
every read comes to what it would come to without any cache on what the store then
says, errors included. Time may pass at any point, and entries may end.

The store is any store that answers from facts.
-/

namespace ChannelAccess

set_option autoImplicit false

namespace World

variable {σ : Type}

/-- One thing that happens to a service without a queue. A change of the store is followed at once
by the drop of what it makes stale. -/
inductive Turn (reply : StoreReply σ) (facts : σ → Facts) : World σ → World σ → Prop where
  | read (world : World σ) (inquiry : Inquiry) :
      Turn reply facts world (world.carryOut reply inquiry.attempt.run).2
  | setOverride (world : World σ) (channel : ChannelId) (principal : Principal)
      (allow deny : Mask) :
      Turn reply facts world
        (world.carryOut reply (Service.setOverride channel principal allow deny).run).2
  | deleteOverride (world : World σ) (channel : ChannelId) (principal : Principal) :
      Turn reply facts world
        (world.carryOut reply (Service.deleteOverride channel principal).run).2
  | createChannel (world : World σ) (channel : ChannelId) (store : σ)
      (created : (facts world.store).AlikeButCreated channel (facts store)) :
      Turn reply facts world { world with store := store }
  | change (world : World σ) (change : Change) (store : σ)
      (permitted : change.Permits (facts world.store) (facts store)) :
      Turn reply facts world
        (({ world with store := store } : World σ).carryOut reply
          (Service.applyChange .inline change)).2
  | wait (world : World σ) (micros : Nat) :
      Turn reply facts world { world with cache := world.cache.advance micros }

/-- The worlds that a service without a queue gets to from an empty cache. -/
inductive Visited (reply : StoreReply σ) (facts : σ → Facts) : World σ → Prop where
  | start (store : σ) (cache : CacheState) (unused : cache.Unused) :
      Visited reply facts ⟨store, cache, none⟩
  | next {world after : World σ} (visited : Visited reply facts world)
      (turn : Turn reply facts world after) : Visited reply facts after

/-- The cache works, and everything it shows follows from what the store says. -/
structure Faithful (facts : σ → Facts) (world : World σ) : Prop where
  works : world.cache.Working
  correct : (facts world.store).Correct world.cache.view

variable {reply : StoreReply σ} {facts : σ → Facts} {world after : World σ}

theorem faithful_of_reading (faithful : world.Faithful facts)
    (left : LeftByReading (outlook facts world.queue) world after) : after.Faithful facts where
  works := left.working.1
  correct key mask found := by
    have sameFacts : facts after.store = facts world.store := left.facts
    rw [sameFacts]
    rcases left.found key mask found with before | follows
    · exact faithful.correct key mask before
    · exact follows

theorem faithful_of_editing {channel : ChannelId} (faithful : world.Faithful facts)
    (left : LeftByEditing (outlook facts world.queue) channel world after) :
    after.Faithful facts where
  works := left.working.1
  correct key mask found := by
    have same : (facts after.store).mask key = (facts world.store).mask key :=
      mask_of_edited left found
    rw [same]
    exact faithful.correct key mask (left.found key mask found).1

theorem faithful_of_change {change : Change} {store : σ} (faithful : world.Faithful facts)
    (permitted : change.Permits (facts world.store) (facts store))
    (left : LeftByDropping (outlook facts world.queue) change.invalidations
      { world with store := store } after) : after.Faithful facts where
  works := left.working.1
  correct key mask found := by
    obtain ⟨before, outside⟩ := left.found key mask found
    have sameFacts : facts after.store = facts store := left.facts
    rw [sameFacts, Facts.mask_of_uncovered permitted outside]
    exact faithful.correct key mask before

theorem faithful_of_turn (answers : StoreAnswers reply facts) (faithful : world.Faithful facts)
    (turn : Turn reply facts world after) : after.Faithful facts := by
  have lawful := lawful_answer answers world.queue
  have works : (outlook facts world.queue).working world := ⟨faithful.works, rfl⟩
  cases turn with
  | read inquiry =>
      obtain ⟨after, ran, left⟩ := settles_inquiry lawful works inquiry
      rw [carryOut, ran]
      exact faithful_of_reading faithful left
  | setOverride channel principal allow deny =>
      obtain ⟨result, after, ran, left⟩ :=
        run_set_override lawful works channel principal allow deny
      rw [carryOut, ran]
      exact faithful_of_editing faithful left
  | deleteOverride channel principal =>
      obtain ⟨result, after, ran, left⟩ :=
        run_delete_override lawful works channel principal
      rw [carryOut, ran]
      exact faithful_of_editing faithful left
  | createChannel channel store created =>
      exact ⟨faithful.works, fun key mask found =>
        Facts.mask_of_created created (faithful.correct key mask found)⟩
  | change change store permitted =>
      have stillWorks : (outlook facts world.queue).working { world with store := store } :=
        works
      obtain ⟨after, ran, left⟩ := run_apply_all lawful stillWorks change.invalidations
      rw [carryOut, Service.applyChange, Publisher.applyChange, ran]
      exact faithful_of_change faithful permitted left
  | wait micros =>
      obtain ⟨stillWorks, within⟩ := CacheState.advance_working faithful.works micros
      exact ⟨stillWorks, CacheView.within_trans within faithful.correct⟩

theorem faithful_of_visited (answers : StoreAnswers reply facts)
    (visited : Visited reply facts world) : world.Faithful facts := by
  induction visited with
  | start store cache unused =>
      obtain ⟨works, empty⟩ := CacheState.working_of_unused unused
      refine ⟨works, ?_⟩
      intro key mask found
      simp [empty] at found
  | next visited turn ih => exact faithful_of_turn answers ih turn

theorem read_of_faithful (answers : StoreAnswers reply facts) (faithful : world.Faithful facts)
    (inquiry : Inquiry) :
    (world.carryOut reply inquiry.attempt.run).1 =
      (inquiry.attempt.run.run (bareAnswer reply) world.store).1 := by
  have works : (outlook facts world.queue).working world := ⟨faithful.works, rfl⟩
  have bareWorks : (bareOutlook facts).working world.store := trivial
  obtain ⟨_, ran, _⟩ := settles_inquiry (lawful_answer answers world.queue) works inquiry
  obtain ⟨_, ranBare, _⟩ := settles_inquiry (lawful_bare_answer answers) bareWorks inquiry
  rw [carryOut, ran, ranBare]
  exact Facts.outcome_of_correct faithful.correct inquiry

/-- Wherever a service without a queue gets to from an empty cache, every read comes to exactly what
it comes to without any cache on the store as it is then, errors included; so too right after an
edit of an override that succeeded. -/
theorem reads_as_without_cache (answers : StoreAnswers reply facts)
    (visited : Visited reply facts world) :
    (∀ inquiry : Inquiry, (world.carryOut reply inquiry.attempt.run).1 =
      (inquiry.attempt.run.run (bareAnswer reply) world.store).1) ∧
    (∀ channel principal allow deny row edited,
      world.carryOut reply (Service.setOverride channel principal allow deny).run =
        (.ok row, edited) →
      ∀ inquiry : Inquiry, (edited.carryOut reply inquiry.attempt.run).1 =
        (inquiry.attempt.run.run (bareAnswer reply) edited.store).1) ∧
    ∀ channel principal edited,
      world.carryOut reply (Service.deleteOverride channel principal).run = (.ok (), edited) →
      ∀ inquiry : Inquiry, (edited.carryOut reply inquiry.attempt.run).1 =
        (inquiry.attempt.run.run (bareAnswer reply) edited.store).1 := by
  refine ⟨?_, ?_, ?_⟩
  · exact read_of_faithful answers (faithful_of_visited answers visited)
  · intro channel principal allow deny row edited ran
    have turn : Turn reply facts world edited := by
      have edit := @Turn.setOverride σ reply facts world channel principal allow deny
      rwa [ran] at edit
    exact read_of_faithful answers (faithful_of_visited answers (.next visited turn))
  · intro channel principal edited ran
    have turn : Turn reply facts world edited := by
      have edit := @Turn.deleteOverride σ reply facts world channel principal
      rwa [ran] at edit
    exact read_of_faithful answers (faithful_of_visited answers (.next visited turn))

/-- A mask is read, so that it is cached; the permission it has is then denied to the user in that
channel, and read again. -/
theorem reads_as_without_cache_after_denial :
    let user : UserId := .ofNat 7
    let channel : ChannelId := .ofNat 2
    let directory : Directory :=
      ⟨.ofNat 1, .ofEntries [(.ofNat 1, .ofNat 4)], ∅, .ofEntries [(channel, "general")], [],
        none, 0, false⟩
    let fresh : World Directory := ⟨directory, .inProcess (.fresh 300), none⟩
    let read := (fresh.carryOut Directory.fullReply (Resolver.resolve user channel).run).2
    let denied := (read.carryOut Directory.fullReply
      (Service.setOverride channel (.user user) ∅ (.ofNat 4)).run).2
    StoreAnswers Directory.fullReply Directory.facts ∧
      Visited Directory.fullReply Directory.facts denied ∧
      (denied.carryOut Directory.fullReply (Resolver.resolve user channel).run).1 =
        ((Resolver.resolve user channel).run.run (bareAnswer Directory.fullReply)
          denied.store).1 := by
  intro user channel directory fresh read denied
  have visited : Visited Directory.fullReply Directory.facts denied :=
    .next (.next (.start directory (.inProcess (.fresh 300)) ⟨300, rfl⟩)
      (.read fresh (.resolve user channel))) (.setOverride read channel (.user user) ∅ (.ofNat 4))
  have answers := Directory.full_reply_answers
  exact ⟨answers, visited,
    (reads_as_without_cache answers visited).1 (.resolve user channel)⟩

end World

end ChannelAccess
