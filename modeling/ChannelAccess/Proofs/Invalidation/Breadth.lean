import ChannelAccess.Proofs.Service.World
import ChannelAccess.Proofs.Store.Directory

/-!
# Drops are wide enough

What a user may do in a channel is resolved from four reads of the store. Each kind of
change concerns one of them, and there only some users or channels, so a change can alter
the outcome for those alone; these are the entries that are dropped after it. Nothing is
asked of the store but that reading does not change it: its reads may fail, and batched
reads and edits may do anything.
-/

namespace ChannelAccess

set_option autoImplicit false

/-- What a store replies to the reads about one user or one channel, failures included. -/
structure Readings where
  channel : ChannelId → Except AccessError Channel
  owns : UserId → Except AccessError Bool
  grants : UserId → Except AccessError (List RoleGrant)
  overrides : ChannelId → Except AccessError (List Override)

namespace Readings

def mask (readings : Readings) (user : UserId) (channel : ChannelId) : Except AccessError Mask := do
  let _ ← readings.channel channel
  let owns ← readings.owns user
  if owns then
    return .all
  else
    let grants ← readings.grants user
    let overrides ← readings.overrides channel
    return effectivePermissions user false grants overrides

def ownsOf (owner : Option UserId) (user : UserId) : Except AccessError Bool :=
  .ok (owner == some user)

/-- Readings that differ in what the roles of one user grant at most. -/
def DifferInGrants (user : UserId) (before after : Readings) : Prop :=
  after = { before with grants := after.grants } ∧
    ∀ other, other ≠ user → after.grants other = before.grants other

end Readings

/-- What a store says before and after differs in nothing but what a change names. -/
def Change.AccountsFor (before after : Readings) : Change → Prop
  | .roleStructure => after = { before with grants := after.grants }
  | .channelOverrides channel =>
      after = { before with overrides := after.overrides } ∧
        ∀ other, other ≠ channel → after.overrides other = before.overrides other
  | .memberRoles user => before.DifferInGrants user after
  | .memberBanned user => before.DifferInGrants user after
  | .memberTimedOut user => before.DifferInGrants user after
  | .ownershipTransferred former next =>
      after = { before with owns := after.owns } ∧
        (before.owns = Readings.ownsOf (some former) ∨ before.owns = Readings.ownsOf none) ∧
          after.owns = Readings.ownsOf (some next)

namespace StoreReply

variable {σ : Type}

def readings (reply : StoreReply σ) (store : σ) : Readings where
  channel channel := (reply (.channel channel) store).1
  owns user := (reply (.isOwner user) store).1
  grants user := (reply (.grants user) store).1
  overrides channel := (reply (.overrides channel) store).1

/-- Reading changes nothing of what is read about one user or one channel. -/
def Steady (reply : StoreReply σ) : Prop :=
  ∀ query store, query.reads = true → reply.readings (reply query store).2 = reply.readings store

end StoreReply

/-- A read of an entry does not find it, be it that it is not there or that the cache fails. -/
def CacheState.Misses (cache : CacheState) (user : UserId) (channel : ChannelId) : Prop :=
  ∀ mask, (cache.reply (.get user channel)).1 ≠ .ok (some mask)

/-! Readings that differ. -/

namespace Readings

variable {before after : Readings} {user : UserId} {channel : ChannelId}

theorem mask_congr (sameChannel : after.channel channel = before.channel channel)
    (sameOwner : after.owns user = before.owns user)
    (sameGrants : after.grants user = before.grants user)
    (sameOverrides : after.overrides channel = before.overrides channel) :
    after.mask user channel = before.mask user channel := by
  rw [mask, mask, sameChannel, sameOwner, sameGrants, sameOverrides]

theorem mask_of_differ_in_grants {changed : UserId} (differ : before.DifferInGrants changed after)
    (outside : (Invalidation.ofUser changed).covers user channel = false) :
    after.mask user channel = before.mask user channel := by
  obtain ⟨otherwise, elsewhere⟩ := differ
  have apart : user ≠ changed := by
    simpa [Invalidation.covers, eq_comm (a := changed)] using outside
  refine mask_congr ?_ ?_ (elsewhere user apart) ?_ <;> rw [otherwise]

theorem owns_of_transfer {former next : UserId}
    (start : before.owns = ownsOf (some former) ∨ before.owns = ownsOf none)
    (finish : after.owns = ownsOf (some next)) (notFormer : former ≠ user)
    (notNext : next ≠ user) : after.owns user = before.owns user := by
  rcases start with owned | unowned
  · rw [owned, finish, ownsOf, ownsOf]
    simp [notFormer, notNext]
  · rw [unowned, finish, ownsOf, ownsOf]
    simp [notNext]

theorem mask_of_uncovered {change : Change} (accounts : change.AccountsFor before after)
    (outside : ∀ scope ∈ change.invalidations, scope.covers user channel = false) :
    after.mask user channel = before.mask user channel := by
  cases change with
  | roleStructure => simp [Change.invalidations, Invalidation.covers] at outside
  | channelOverrides changed =>
      obtain ⟨otherwise, elsewhere⟩ := accounts
      have apart : channel ≠ changed := by
        simpa [Invalidation.covers, eq_comm (a := changed)] using outside _ List.mem_cons_self
      refine mask_congr ?_ ?_ ?_ (elsewhere channel apart) <;> rw [otherwise]
  | memberRoles changed => exact mask_of_differ_in_grants accounts (outside _ List.mem_cons_self)
  | memberBanned changed => exact mask_of_differ_in_grants accounts (outside _ List.mem_cons_self)
  | memberTimedOut changed =>
      exact mask_of_differ_in_grants accounts (outside _ List.mem_cons_self)
  | ownershipTransferred former next =>
      obtain ⟨otherwise, start, finish⟩ := accounts
      have notFormer : former ≠ user := by
        simpa [Invalidation.covers] using outside (.ofUser former) List.mem_cons_self
      have notNext : next ≠ user := by
        simpa [Invalidation.covers] using
          outside (.ofUser next) (List.mem_cons_of_mem _ List.mem_cons_self)
      refine mask_congr ?_ (owns_of_transfer start finish notFormer notNext) ?_ ?_ <;>
        rw [otherwise]

end Readings

/-! Resolving from the store. -/

namespace World

variable {σ : Type} {reply : StoreReply σ} {world : World σ} {readings : Readings}

/-- An attempt that starts with a read goes on with what is read, on a store with the same readings,
or fails as the read does. -/
theorem run_read_bind {α : Type} (steady : reply.Steady) {query : StoreQuery}
    (reads : query.reads = true) {told : query.Reply} {rest : query.Answer → Attempt α}
    {outcome : query.Answer → Except AccessError α}
    (given : reply.readings world.store = readings) (replied : (reply query world.store).1 = told)
    (further : ∀ found (later : World σ), reply.readings later.store = readings →
      ((rest found).run.run (answer reply) later).1 = outcome found) :
    ((Attempt.store query >>= rest).run.run (answer reply) world).1 = told >>= outcome := by
  have asked : (answer reply (.store query) world).1 = told := replied
  cases told with
  | error problem => rw [run_attempt_error (run_attempt_store asked) rest]; rfl
  | ok found =>
      rw [run_attempt_ok (run_attempt_store asked) rest]
      exact further found _ ((steady query world.store reads).trans given)

theorem run_compute (steady : reply.Steady) (user : UserId) (channel : ChannelId)
    (given : reply.readings world.store = readings) :
    ((Resolver.compute user channel).run.run (answer reply) world).1 =
      readings.mask user channel := by
  refine run_read_bind steady rfl given (congrArg (·.channel channel) given) ?_
  intro _ first givenFirst
  refine run_read_bind steady rfl givenFirst (congrArg (·.owns user) givenFirst) ?_
  intro owns second givenSecond
  cases owns with
  | true => rfl
  | false =>
      refine run_read_bind steady rfl givenSecond (congrArg (·.grants user) givenSecond) ?_
      intro grants third givenThird
      refine run_read_bind steady rfl givenThird (congrArg (·.overrides channel) givenThird) ?_
      intro overrides _ _
      rfl

theorem run_look_up_missed (reply : StoreReply σ) {user : UserId} {channel : ChannelId}
    (misses : world.cache.Misses user channel) :
    ∃ after, (Resolver.lookUp user channel).run (answer reply) world = (none, after) ∧
      after.store = world.store := by
  refine ⟨{ world with cache := (world.cache.reply (.get user channel)).2 }, ?_, rfl⟩
  cases replied : (world.cache.reply (.get user channel)).1 with
  | ok found =>
      cases found with
      | none => simp [Resolver.lookUp, Plan.cache, Plan.request, answer, replied]
      | some mask => exact absurd replied (misses mask)
  | error problem =>
      simp [Resolver.lookUp, Plan.cache, Plan.request, Plan.report, answer, replied]

theorem resolve_uncached (steady : reply.Steady) {user : UserId} {channel : ChannelId}
    (misses : world.cache.Misses user channel) :
    (world.carryOut reply (Resolver.resolve user channel).run).1 =
      (reply.readings world.store).mask user channel := by
  obtain ⟨later, looked, sameStore⟩ := run_look_up_missed reply misses
  have given : reply.readings later.store = reply.readings world.store := by rw [sameStore]
  have computed := run_compute steady user channel given
  rw [carryOut, Resolver.resolve, run_attempt_ok (run_attempt_lift looked)]
  rcases ran : (Resolver.compute user channel).run.run (answer reply) later with ⟨outcome, after⟩
  rw [ran] at computed
  rw [← computed]
  cases outcome with
  | error problem => rw [run_attempt_error ran]
  | ok mask => rw [run_attempt_ok ran, run_attempt_ok (run_attempt_lift rfl)]; rfl

/-- If a change accounts for the difference between two states of a store, and resolving a user in a
channel without a cached entry comes to something else in the one than in the other, be it a failure
or another mask, then one of the scopes that the change makes stale covers the entry. -/
theorem changed_outcomes_are_covered (steady : reply.Steady) {change : Change}
    {before after : World σ}
    (accounts : change.AccountsFor (reply.readings before.store) (reply.readings after.store))
    {user : UserId} {channel : ChannelId} (missedBefore : before.cache.Misses user channel)
    (missedAfter : after.cache.Misses user channel)
    (differ : (before.carryOut reply (Resolver.resolve user channel).run).1 ≠
      (after.carryOut reply (Resolver.resolve user channel).run).1) :
    ∃ scope ∈ change.invalidations, scope.covers user channel = true := by
  by_contra uncovered
  have outside : ∀ scope ∈ change.invalidations, scope.covers user channel = false := by
    intro scope member
    rw [← Bool.not_eq_true]
    exact fun covers => uncovered ⟨scope, member, covers⟩
  apply differ
  rw [resolve_uncached steady missedBefore, resolve_uncached steady missedAfter,
    Readings.mask_of_uncovered accounts outside]

end World

section FromFacts

variable {σ : Type} {reply : StoreReply σ} {facts : σ → Facts}

theorem StoreAnswers.readings_eq (answers : StoreAnswers reply facts) (store : σ) :
    reply.readings store =
      { channel := fun channel =>
          match (facts store).channel channel with
          | some found => .ok found
          | none => .error (.channelNotFound channel)
        owns := Readings.ownsOf (facts store).owner
        grants := fun user => .ok ((facts store).grants user)
        overrides := fun channel => .ok ((facts store).overrides channel) } := by
  rw [StoreReply.readings]
  congr 1
  · funext channel
    exact answers.channel store channel
  · funext user
    exact answers.isOwner store user
  · funext user
    exact answers.grants store user
  · funext channel
    exact answers.overrides store channel

theorem StoreAnswers.steady (answers : StoreAnswers reply facts) : reply.Steady := by
  intro query store reads
  rw [answers.readings_eq, answers.readings_eq, answers.reads query store reads]

theorem StoreAnswers.differ_in_grants (answers : StoreAnswers reply facts) {before after : σ}
    {user : UserId} (alike : (facts before).AlikeButGrants user (facts after)) :
    (reply.readings before).DifferInGrants user (reply.readings after) := by
  refine ⟨?_, fun other apart => ?_⟩
  · simp only [answers.readings_eq, alike.channels, alike.owner, alike.overrides]
  · simp only [answers.readings_eq, alike.grants other apart]

theorem StoreAnswers.accounts_for (answers : StoreAnswers reply facts) {change : Change}
    {before after : σ} (permits : change.Permits (facts before) (facts after)) :
    change.AccountsFor (reply.readings before) (reply.readings after) := by
  cases change with
  | roleStructure =>
      obtain ⟨channels, overrides, owner⟩ := permits
      simp only [Change.AccountsFor, answers.readings_eq, channels, overrides, owner]
  | channelOverrides channel =>
      refine ⟨?_, fun other apart => ?_⟩
      · simp only [answers.readings_eq, permits.channels, permits.owner, permits.grants]
      · simp only [answers.readings_eq, permits.overrides other apart]
  | memberRoles user => exact answers.differ_in_grants permits
  | memberBanned user => exact answers.differ_in_grants permits
  | memberTimedOut user => exact answers.differ_in_grants permits
  | ownershipTransferred former next =>
      obtain ⟨start, finish, grants, channels, overrides⟩ := permits
      refine ⟨?_, ?_, ?_⟩
      · simp only [answers.readings_eq, channels, grants, overrides]
      · rw [answers.readings_eq]
        exact start.imp (congrArg Readings.ownsOf) (congrArg Readings.ownsOf)
      · rw [answers.readings_eq]
        exact congrArg Readings.ownsOf finish

end FromFacts

/-- The owner hands over, and then has in a channel what the role of everyone grants. -/
theorem World.changed_outcomes_are_covered_on_transfer :
    let former : UserId := .ofNat 7
    let next : UserId := .ofNat 8
    let channel : ChannelId := .ofNat 2
    let change : Change := .ownershipTransferred former next
    let directory : Directory :=
      ⟨.ofNat 1, .ofEntries [(.ofNat 1, .ofNat 4)], ∅, .ofEntries [(channel, "general")], [],
        some former, 0, false⟩
    let before : World Directory := ⟨directory, .inProcess (.fresh 300), none⟩
    let after : World Directory := { before with store := { directory with owner := some next } }
    change.AccountsFor (StoreReply.readings Directory.fullReply before.store)
        (StoreReply.readings Directory.fullReply after.store) ∧
      (before.carryOut Directory.fullReply (Resolver.resolve former channel).run).1 = .ok .all ∧
      (after.carryOut Directory.fullReply (Resolver.resolve former channel).run).1 =
        .ok (.ofNat 4) ∧
      ∃ scope ∈ change.invalidations, scope.covers former channel = true := by
  intro former next channel change directory before after
  have answers := Directory.full_reply_answers
  have permits : change.Permits before.store.facts after.store.facts :=
    ⟨.inl rfl, rfl, rfl, rfl, rfl⟩
  have accounts := answers.accounts_for permits
  have empty : before.cache.Misses former channel := by
    intro mask found
    exact absurd (Except.ok.inj found) (by simp)
  have owned : (before.carryOut Directory.fullReply (Resolver.resolve former channel).run).1 =
      .ok .all := by
    subst before directory former channel
    rfl
  have granted : (after.carryOut Directory.fullReply (Resolver.resolve former channel).run).1 =
      .ok (.ofNat 4) := by
    subst after before directory former next channel
    rfl
  have differ : (before.carryOut Directory.fullReply (Resolver.resolve former channel).run).1 ≠
      (after.carryOut Directory.fullReply (Resolver.resolve former channel).run).1 := by
    rw [owned, granted]
    exact fun same => absurd (Except.ok.inj same) (by decide)
  exact ⟨accounts, owned, granted,
    changed_outcomes_are_covered answers.steady accounts empty empty differ⟩

end ChannelAccess
