import ChannelAccess.Service
import ChannelAccess.Proofs.Resolver.Misses
import ChannelAccess.Proofs.Store.Answers

/-!
# What reads of permissions come to

On a legible answerer every read of permissions comes to a result that depends on the
facts of the store and the view of the cache only: a mask that is found is taken as it
is, right or wrong, and any other is computed from the facts. Reads leave behind what
reading may leave behind. Where the view is correct, the result is the one without any
cache.
-/

namespace ChannelAccess

set_option autoImplicit false

inductive Inquiry where
  | resolve (user : UserId) (channel : ChannelId)
  | hasPermission (user : UserId) (channel : ChannelId) (permission : Mask)
  /-- The mask of a user in a channel, required to share a permission with the given one. -/
  | requirePermission (user : UserId) (channel : ChannelId) (permission : Mask)
  | filterPermitted (user : UserId) (channels : List ChannelId) (permission : Mask)
  | filterUsersPermitted (users : List UserId) (channel : ChannelId) (permission : Mask)

namespace Inquiry

abbrev Answer : Inquiry → Type
  | .resolve _ _ => Mask
  | .hasPermission _ _ _ => Bool
  | .requirePermission _ _ _ => Mask
  | .filterPermitted _ _ _ => List Bool
  | .filterUsersPermitted _ _ _ => List Bool

def attempt : (inquiry : Inquiry) → Attempt inquiry.Answer
  | .resolve user channel => Resolver.resolve user channel
  | .hasPermission user channel permission => Resolver.hasPermission user channel permission
  | .requirePermission user channel permission =>
      Service.requirePermission user channel permission
  | .filterPermitted user channels permission =>
      Resolver.filterPermitted user channels permission
  | .filterUsersPermitted users channel permission =>
      Resolver.filterUsersPermitted users channel permission

end Inquiry

namespace Facts

/-- The mask that is found, or else the one that follows from the facts. -/
def shown (facts : Facts) (view : CacheView) (key : EntryKey) : Option Mask :=
  (view key).or (facts.mask key)

def require (key : EntryKey) : Option Mask → Except AccessError Mask
  | some mask => .ok mask
  | none => .error (.channelNotFound key.channel)

def judged (facts : Facts) (view : CacheView) (key : Uuid → EntryKey) (ids : List Uuid)
    (permission : Mask) : List Bool :=
  ids.map fun id => (facts.shown view (key id)).any fun mask => mask.grants permission

def outcome (facts : Facts) (view : CacheView) :
    (inquiry : Inquiry) → Except AccessError inquiry.Answer
  | .resolve user channel => require ⟨user, channel⟩ (facts.shown view ⟨user, channel⟩)
  | .hasPermission user channel permission =>
      (require ⟨user, channel⟩ (facts.shown view ⟨user, channel⟩)).map fun mask =>
        mask.grants permission
  | .requirePermission user channel permission =>
      match require ⟨user, channel⟩ (facts.shown view ⟨user, channel⟩) with
      | .error problem => .error problem
      | .ok mask =>
          if mask.grants permission then .ok mask else .error (.missingPermission permission)
  | .filterPermitted user channels permission =>
      .ok (facts.judged view (fun channel => ⟨user, channel⟩) channels permission)
  | .filterUsersPermitted users channel permission =>
      if (∃ user ∈ users, view ⟨user, channel⟩ = none) ∧ facts.channel channel = none then
        .error (.channelNotFound channel)
      else .ok (facts.judged view (fun user => ⟨user, channel⟩) users permission)

variable {facts : Facts} {view : CacheView}

theorem judged_of_hits {key : Uuid → EntryKey} {ids : List Uuid} {hits : IdMap Mask}
    (shows : ∀ id ∈ ids, hits[id]? = view (key id)) (permission : Mask) :
    facts.judged view key ids permission =
      ids.map fun id => (hits[id]?.or (facts.mask (key id))).any fun mask =>
        mask.grants permission := by
  apply List.map_congr_left
  intro id asked
  rw [shows id asked, shown]

theorem mask_eq_none_iff (key : EntryKey) :
    facts.mask key = none ↔ facts.channel key.channel = none := by
  rw [mask, Option.map_eq_none_iff]

theorem outcome_require_permission (user : UserId) (channel : ChannelId) (permission : Mask) :
    facts.outcome view (.requirePermission user channel permission) =
      (facts.outcome view (.resolve user channel)).bind fun mask =>
        if mask.grants permission then .ok mask else .error (.missingPermission permission) := by
  rw [outcome, outcome]
  cases require ⟨user, channel⟩ (facts.shown view ⟨user, channel⟩) <;> rfl

theorem shown_of_correct (correct : facts.Correct view) (key : EntryKey) :
    facts.shown view key = facts.mask key := by
  rw [shown]
  cases found : view key with
  | none => rfl
  | some mask => rw [correct key mask found, Option.some_or]

theorem outcome_of_correct (correct : facts.Correct view) (inquiry : Inquiry) :
    facts.outcome view inquiry = facts.outcome (fun _ => none) inquiry := by
  have shown_same : facts.shown view = facts.shown fun _ => none := by
    funext key
    rw [shown_of_correct correct]
    rfl
  have judged_same (key : Uuid → EntryKey) (ids : List Uuid) (permission : Mask) :
      facts.judged view key ids permission = facts.judged (fun _ => none) key ids permission := by
    rw [judged, judged, shown_same]
  cases inquiry with
  | resolve user channel => rw [outcome, outcome, shown_same]
  | hasPermission user channel permission => rw [outcome, outcome, shown_same]
  | requirePermission user channel permission => rw [outcome, outcome, shown_same]
  | filterPermitted user channels permission => rw [outcome, outcome, judged_same]
  | filterUsersPermitted users channel permission =>
      have missing : ((∃ user ∈ users, view ⟨user, channel⟩ = none) ∧
            facts.channel channel = none) ↔
          ((∃ user ∈ users, (fun _ => none : CacheView) ⟨user, channel⟩ = none) ∧
            facts.channel channel = none) := by
        constructor
        · rintro ⟨⟨user, member, _⟩, absent⟩
          exact ⟨⟨user, member, rfl⟩, absent⟩
        · rintro ⟨⟨user, member, _⟩, absent⟩
          refine ⟨⟨user, member, ?_⟩, absent⟩
          cases found : view ⟨user, channel⟩ with
          | none => rfl
          | some mask =>
              have follows := correct _ mask found
              rw [(mask_eq_none_iff ⟨user, channel⟩).mpr absent] at follows
              contradiction
      simp only [outcome, judged_same, missing]

end Facts

/-! What batches gather. -/

namespace Resolver

theorem gather_existing (facts : Facts) (user : UserId) (channels : List ChannelId) :
    gather (fun channel => some (facts.effective user channel))
        (channels.filter fun channel => (facts.channel channel).isSome) =
      gather (fun channel => facts.mask ⟨user, channel⟩) channels := by
  apply eq_gather
  intro channel
  rw [get_gather]
  simp only [List.mem_filter, Facts.mask]
  cases facts.channel channel <;> simp

theorem gather_of_owner {facts : Facts} {user : UserId}
    (owns : (facts.owner == some user) = true) (channels : List ChannelId) :
    gather (fun channel => some (facts.effective user channel)) channels =
      IdMap.ofEntries (channels.map fun channel => (channel, Mask.all)) := by
  rw [of_entries_map fun _ => Mask.all]
  apply gather_congr
  intro channel _
  rw [Facts.effective, owns]
  rfl

theorem gather_of_rows {facts : Facts} {user : UserId} (owns : (facts.owner == some user) = false)
    {channels : List ChannelId} (distinct : channels.Nodup) {rows : IdMap (List Override)}
    (rowsOf : ∀ channel ∈ channels, rows[channel]?.getD [] = facts.overrides channel) :
    gather (fun channel => some (facts.effective user channel)) channels =
      IdMap.ofEntries (drawEach
        (fun _ rows => effectivePermissions user false (facts.grants user) rows)
        channels rows) := by
  rw [draw_each_eq _ distinct, of_entries_map fun channel =>
    effectivePermissions user false (facts.grants user) (rows[channel]?.getD [])]
  apply gather_congr
  intro channel asked
  rw [rowsOf channel asked, Facts.effective, owns]

theorem gather_of_grants {facts : Facts} {channel : ChannelId} {found : Channel}
    (present : facts.channel channel = some found) {users : List UserId}
    (distinct : users.Nodup) {rows : IdMap (List RoleGrant)}
    (rowsOf : ∀ user ∈ users, rows[user]?.getD [] = facts.grants user) :
    gather (fun user => facts.mask ⟨user, channel⟩) users =
      IdMap.ofEntries (drawEach
        (fun user rows => effectivePermissions user (facts.owner == some user) rows
          (facts.overrides channel)) users rows) := by
  rw [draw_each_eq _ distinct, of_entries_map fun user =>
    effectivePermissions user (facts.owner == some user) (rows[user]?.getD [])
      (facts.overrides channel)]
  apply gather_congr
  intro user asked
  rw [rowsOf user asked, Facts.mask, present, Option.map_some, Facts.effective]

/-- What is gathered from the facts under some keys of a batch is correct under all of them. -/
theorem follows_of_gathered {facts : Facts} {key : Uuid → EntryKey} {ids : List Uuid} {id : Uuid}
    {mask : Mask} (written : (gather (fun id => facts.mask (key id)) ids)[id]? = some mask) :
    facts.mask (key id) = some mask := by
  rw [get_gather] at written
  exact (Option.ite_none_right_eq_some.mp written).2

end Resolver

variable {σ : Type} {answer : Plan.Answerer σ} {outlook : Outlook σ} {state : σ}

/-- A user is told to be the owner exactly if the facts say so. -/
def OwnerKnown (outlook : Outlook σ) (owns : σ → UserId → Bool) (user : UserId) : Prop :=
  ∀ state, owns state user = (outlook.facts state).owns user

def NamesOwner (answer : Plan.Answerer σ) (outlook : Outlook σ) : Prop :=
  ∀ state, (answer (.store .owner) state).1 = .ok (outlook.facts state).owner

theorem owner_known_owns (outlook : Outlook σ) (user : UserId) :
    OwnerKnown outlook (fun state => (outlook.facts state).owns) user :=
  fun _ => rfl

namespace Resolver

variable {owns : σ → UserId → Bool}

/-! Judging. -/

section Judging

variable {ids : List Uuid} {permission : Mask} {hits : IdMap Mask} {computed : Uuid → Option Mask}
  {computeMissing : List Uuid → Attempt (IdMap Mask)} {rememberAll : IdMap Mask → Plan Unit}

theorem run_judge_known (known : ¬∃ id ∈ ids, hits[id]? = none)
    (computed : Uuid → Option Mask) :
    (judge ids permission hits computeMissing rememberAll).run.run answer state =
      (.ok (ids.map fun id => (hits[id]?.or (computed id)).any fun mask =>
        mask.grants permission), state) := by
  unfold judge
  rw [if_pos ((no_misses_iff hits ids).mpr known),
    ← judged_of_resolved fun _ asked => get_hits computed known asked]
  rfl

theorem run_judge_computed {between after : σ} (missing : ∃ id ∈ ids, hits[id]? = none)
    (computes : (computeMissing (uniqueMisses hits ids)).run.run answer state =
      (.ok (gather computed (uniqueMisses hits ids)), between))
    (remembers : (rememberAll (gather computed (uniqueMisses hits ids))).run answer between =
      ((), after)) :
    (judge ids permission hits computeMissing rememberAll).run.run answer state =
      (.ok (ids.map fun id => (hits[id]?.or (computed id)).any fun mask =>
        mask.grants permission), after) := by
  have misses : ¬(uniqueMisses hits ids).isEmpty = true := fun nothing =>
    (no_misses_iff hits ids).mp nothing missing
  unfold judge
  rw [if_neg misses, ← judged_of_resolved fun _ asked => get_resolved hits computed asked,
    run_attempt_ok computes, run_attempt_ok (run_attempt_lift remembers)]
  rfl

theorem run_judge_failed {after : σ} {problem : AccessError}
    (missing : ∃ id ∈ ids, hits[id]? = none)
    (fails : (computeMissing (uniqueMisses hits ids)).run.run answer state =
      (.error problem, after)) :
    (judge ids permission hits computeMissing rememberAll).run.run answer state =
      (.error problem, after) := by
  have misses : ¬(uniqueMisses hits ids).isEmpty = true := fun nothing =>
    (no_misses_iff hits ids).mp nothing missing
  unfold judge
  rw [if_neg misses]
  exact run_attempt_error fails _

theorem settles_judge (works : outlook.working state)
    (computes : (∃ id ∈ ids, hits[id]? = none) → ∀ missing : List Uuid, missing.Nodup →
      Settles answer outlook (computeMissing missing).run state (.ok (gather computed missing)))
    (remembers : ∀ missing between, LeftByReading outlook state between →
      Settles answer outlook (rememberAll (gather computed missing)) between ()) :
    Settles answer outlook (judge ids permission hits computeMissing rememberAll).run state
      (.ok (ids.map fun id => (hits[id]?.or (computed id)).any fun mask =>
        mask.grants permission)) := by
  by_cases missing : ∃ id ∈ ids, hits[id]? = none
  · obtain ⟨between, ran, left⟩ := computes missing _ (nodup_unique_misses hits ids)
    obtain ⟨after, remembered, leftAfter⟩ := remembers _ between left
    exact ⟨after, run_judge_computed missing ran remembered, left_by_reading_trans left leftAfter⟩
  · exact ⟨state, run_judge_known missing computed, left_by_reading_refl works⟩

end Judging

/-! Checks of one mask. -/

section Checking

variable {user : UserId} {channel : ChannelId} {found : Except AccessError Mask} {after : σ}

theorem run_has_permission (ran : (resolve user channel).run.run answer state = (found, after))
    (permission : Mask) :
    (hasPermission user channel permission).run.run answer state =
      (found.map fun mask => mask.grants permission, after) := by
  cases found with
  | error problem => exact run_attempt_error ran _
  | ok mask => exact run_attempt_ok ran _

theorem run_require_permission
    (ran : (resolve user channel).run.run answer state = (found, after)) (permission : Mask) :
    (Service.requirePermission user channel permission).run.run answer state =
      (found.bind fun mask =>
        if mask.grants permission then .ok mask else .error (.missingPermission permission),
        after) := by
  cases found with
  | error problem => exact run_attempt_error ran _
  | ok mask =>
      unfold Service.requirePermission
      rw [run_attempt_ok ran]
      dsimp only [Except.bind]
      split <;> rfl

end Checking

/-! What the store is asked for. -/

section FromStore

variable (legible : StoreLegible answer outlook owns) (works : outlook.working state)

include legible works

theorem settles_compute {user : UserId} (known : OwnerKnown outlook owns user)
    (channel : ChannelId) :
    Settles answer outlook (compute user channel).run state
      (Facts.require ⟨user, channel⟩ ((outlook.facts state).mask ⟨user, channel⟩)) := by
  have channelReply := legible.store.channel state channel
  cases present : (outlook.facts state).channel channel with
  | none =>
      rw [present] at channelReply
      rw [(Facts.mask_eq_none_iff ⟨user, channel⟩).mpr present]
      exact settles_attempt_error (settles_store legible works rfl channelReply)
  | some found =>
      rw [present] at channelReply
      have follows : (outlook.facts state).mask ⟨user, channel⟩ =
          some ((outlook.facts state).effective user channel) := by
        rw [Facts.mask, present, Option.map_some]
      rw [follows]
      apply settles_attempt_bind (settles_store legible works rfl channelReply)
      intro first leftFirst
      apply settles_attempt_bind
        (settles_store legible leftFirst.working rfl (legible.store.isOwner first user))
      intro second leftSecond
      rw [known first, Facts.owns, Facts.effective, leftFirst.facts]
      cases (outlook.facts state).owner == some user with
      | true => exact settles_attempt_pure leftSecond.working _
      | false =>
          apply settles_attempt_bind
            (settles_store legible leftSecond.working rfl (legible.store.grants second user))
          intro third leftThird
          apply settles_attempt_bind
            (settles_store legible leftThird.working rfl (legible.store.overrides third channel))
          intro fourth leftFourth
          rw [leftThird.facts, leftSecond.facts, leftFirst.facts]
          exact settles_attempt_pure leftFourth.working _

theorem settles_compute_channels {user : UserId} (ownerKnown : OwnerKnown outlook owns user)
    {channels : List ChannelId} (distinct : channels.Nodup) :
    Settles answer outlook (computeChannels user channels).run state
      (.ok (gather (fun channel => (outlook.facts state).mask ⟨user, channel⟩) channels)) := by
  obtain ⟨known, knownReply, knows⟩ := legible.store.channelMany state channels
  have existing : (channels.filter fun channel => known.contains channel) =
      channels.filter fun channel => ((outlook.facts state).channel channel).isSome :=
    List.filter_congr fun channel asked => knows channel asked
  rw [← gather_existing]
  apply settles_attempt_bind (settles_store legible works rfl knownReply)
  intro first leftFirst
  apply settles_attempt_bind
    (settles_store legible leftFirst.working rfl (legible.store.isOwner first user))
  intro second leftSecond
  rw [existing, ownerKnown first, Facts.owns, leftFirst.facts]
  have distinctExisting :
      (channels.filter fun channel => ((outlook.facts state).channel channel).isSome).Nodup :=
    distinct.filter _
  generalize channels.filter (fun channel => ((outlook.facts state).channel channel).isSome) =
    rest at distinctExisting ⊢
  by_cases nothing : rest.isEmpty = true
  · rw [if_pos nothing, List.isEmpty_iff.mp nothing]
    exact settles_attempt_pure leftSecond.working _
  · rw [if_neg nothing]
    cases owns : (outlook.facts state).owner == some user with
    | true =>
        rw [gather_of_owner owns]
        exact settles_attempt_pure leftSecond.working _
    | false =>
        apply settles_attempt_bind
          (settles_store legible leftSecond.working rfl (legible.store.grants second user))
        intro third leftThird
        obtain ⟨rows, rowsReply, rowsOf⟩ := legible.store.overridesMany third rest
        apply settles_attempt_bind (settles_store legible leftThird.working rfl rowsReply)
        intro fourth leftFourth
        rw [leftThird.facts, leftSecond.facts, leftFirst.facts] at rowsOf
        rw [gather_of_rows owns distinctExisting rowsOf, leftSecond.facts, leftFirst.facts]
        exact settles_attempt_pure leftFourth.working _

theorem settles_compute_users_error (users : List UserId) {channel : ChannelId}
    (absent : (outlook.facts state).channel channel = none) :
    Settles answer outlook (computeUsers users channel).run state
      (.error (.channelNotFound channel)) := by
  have channelReply := legible.store.channel state channel
  rw [absent] at channelReply
  exact settles_attempt_error (settles_store legible works rfl channelReply)

theorem settles_compute_users
    (ownerReply : NamesOwner answer outlook)
    {users : List UserId} (distinct : users.Nodup) {channel : ChannelId}
    (exists_channel : (outlook.facts state).channel channel ≠ none) :
    Settles answer outlook (computeUsers users channel).run state
      (.ok (gather (fun user => (outlook.facts state).mask ⟨user, channel⟩) users)) := by
  obtain ⟨found, present⟩ := Option.ne_none_iff_exists'.mp exists_channel
  have channelReply := legible.store.channel state channel
  rw [present] at channelReply
  apply settles_attempt_bind (settles_store legible works rfl channelReply)
  intro first leftFirst
  apply settles_attempt_bind
    (settles_store legible leftFirst.working rfl (legible.store.overrides first channel))
  intro second leftSecond
  apply settles_attempt_bind
    (settles_store legible leftSecond.working rfl (ownerReply second))
  intro third leftThird
  obtain ⟨rows, rowsReply, rowsOf⟩ := legible.store.grantsMany third users
  apply settles_attempt_bind (settles_store legible leftThird.working rfl rowsReply)
  intro fourth leftFourth
  rw [leftThird.facts, leftSecond.facts, leftFirst.facts] at rowsOf
  rw [gather_of_grants present distinct rowsOf, leftSecond.facts, leftFirst.facts]
  exact settles_attempt_pure leftFourth.working _

end FromStore

/-! What the cache is asked for first. -/

section WithCache

variable (legible : Legible answer outlook owns) (works : outlook.working state)

include legible works

theorem settles_look_up (user : UserId) (channel : ChannelId) :
    Settles answer outlook (lookUp user channel) state (outlook.view state ⟨user, channel⟩) := by
  apply settles_bind (settles_cache legible works rfl (by simp [CacheQuery.written]))
  intro between left
  exact settles_pure left.working _

theorem settles_remember {user : UserId} {channel : ChannelId} {mask : Mask}
    (follows : (outlook.facts state).mask ⟨user, channel⟩ = some mask) :
    Settles answer outlook (remember user channel mask) state () := by
  have correct : ∀ key given, (CacheQuery.set user channel mask).written key = some given →
      (outlook.facts state).mask key = some given := by
    intro key given written
    obtain ⟨here, same⟩ := Option.ite_none_right_eq_some.mp written
    rw [here, follows, same]
  apply settles_bind (settles_cache legible works rfl correct)
  intro between left
  exact settles_pure left.working _

theorem settles_resolve {user : UserId} (known : OwnerKnown outlook owns user)
    (channel : ChannelId) :
    Settles answer outlook (resolve user channel).run state
      (Facts.require ⟨user, channel⟩
        ((outlook.facts state).shown (outlook.view state) ⟨user, channel⟩)) := by
  rw [Facts.shown]
  apply settles_attempt_bind (settles_attempt_lift (settles_look_up legible works user channel))
  intro first leftFirst
  cases outlook.view state ⟨user, channel⟩ with
  | some mask => exact settles_attempt_pure leftFirst.working mask
  | none =>
      have computes := settles_compute legible.toStoreLegible leftFirst.working known channel
      rw [leftFirst.facts] at computes
      rw [Option.none_or]
      cases follows : (outlook.facts state).mask ⟨user, channel⟩ with
      | none =>
          rw [follows] at computes
          exact settles_attempt_error computes
      | some mask =>
          rw [follows] at computes
          apply settles_attempt_bind computes
          intro second leftSecond
          have still : (outlook.facts second).mask ⟨user, channel⟩ = some mask := by
            rw [leftSecond.facts, leftFirst.facts, follows]
          apply settles_attempt_bind
            (settles_attempt_lift (settles_remember legible leftSecond.working still))
          intro third leftThird
          exact settles_attempt_pure leftThird.working mask

theorem settles_has_permission {user : UserId} (known : OwnerKnown outlook owns user)
    (channel : ChannelId) (permission : Mask) :
    Settles answer outlook (hasPermission user channel permission).run state
      ((Facts.require ⟨user, channel⟩
        ((outlook.facts state).shown (outlook.view state) ⟨user, channel⟩)).map fun mask =>
          mask.grants permission) := by
  obtain ⟨after, ran, left⟩ := settles_resolve legible works known channel
  exact ⟨after, run_has_permission ran permission, left⟩

theorem settles_filter_permitted {user : UserId} (known : OwnerKnown outlook owns user)
    (channels : List ChannelId) (permission : Mask) :
    Settles answer outlook (filterPermitted user channels permission).run state
      (.ok ((outlook.facts state).judged (outlook.view state) (fun channel => ⟨user, channel⟩)
        channels permission)) := by
  unfold filterPermitted
  by_cases nothing : channels.isEmpty = true
  · rw [if_pos nothing, List.isEmpty_iff.mp nothing]
    exact settles_attempt_pure works _
  · rw [if_neg nothing]
    have hits := @settles_cache σ answer outlook state owns legible works
      (.getMany user channels) rfl (by simp [CacheQuery.written])
    apply settles_attempt_bind (settles_attempt_lift hits)
    intro first leftFirst
    apply settles_attempt_bind (settles_attempt_lift (settles_pure leftFirst.working _))
    intro second leftSecond
    have shows : ∀ channel ∈ channels,
        (gather (fun channel => outlook.view state ⟨user, channel⟩) channels)[channel]? =
          outlook.view state ⟨user, channel⟩ := fun channel asked => by
      rw [get_gather, if_pos asked]
    rw [Facts.judged_of_hits shows]
    apply settles_judge leftSecond.working
    · intro _ missing distinct
      have computes := settles_compute_channels legible.toStoreLegible leftSecond.working known
        distinct
      rw [leftSecond.facts, leftFirst.facts] at computes
      exact computes
    · intro missing between left
      by_cases empty : (gather (fun channel => (outlook.facts state).mask ⟨user, channel⟩)
          missing).isEmpty = true
      · rw [if_pos empty]
        exact settles_pure left.working ()
      · rw [if_neg empty]
        apply settles_bind (settles_cache legible left.working rfl ?_)
        · intro last leftLast
          exact settles_pure leftLast.working ()
        · intro key mask written
          rw [left.facts, leftSecond.facts, leftFirst.facts]
          obtain ⟨rfl, found⟩ := Option.ite_none_right_eq_some.mp written
          exact follows_of_gathered found

theorem settles_filter_users_permitted
    (ownerReply : NamesOwner answer outlook)
    (users : List UserId) (channel : ChannelId) (permission : Mask) :
    Settles answer outlook (filterUsersPermitted users channel permission).run state
      ((outlook.facts state).outcome (outlook.view state)
        (.filterUsersPermitted users channel permission)) := by
  unfold filterUsersPermitted
  by_cases nothing : users.isEmpty = true
  · rw [if_pos nothing, List.isEmpty_iff.mp nothing]
    simp only [Facts.outcome, List.not_mem_nil, false_and, exists_false, if_false]
    exact settles_attempt_pure works _
  · rw [if_neg nothing]
    have hits := @settles_cache σ answer outlook state owns legible works
      (.getManyUsers channel users) rfl (by simp [CacheQuery.written])
    apply settles_attempt_bind (settles_attempt_lift hits)
    intro first leftFirst
    apply settles_attempt_bind (settles_attempt_lift (settles_pure leftFirst.working _))
    intro second leftSecond
    have sameFacts : outlook.facts second = outlook.facts state :=
      leftSecond.facts.trans leftFirst.facts
    have shows : ∀ user ∈ users,
        (gather (fun user => outlook.view state ⟨user, channel⟩) users)[user]? =
          outlook.view state ⟨user, channel⟩ := fun user asked => by
      rw [get_gather, if_pos asked]
    have missed : (∃ user ∈ users, outlook.view state ⟨user, channel⟩ = none) ↔
        ∃ user ∈ users,
          (gather (fun user => outlook.view state ⟨user, channel⟩) users)[user]? = none :=
      exists_congr fun user => and_congr_right fun asked => by rw [shows user asked]
    rw [Facts.outcome, Facts.judged_of_hits shows]
    split
    case isTrue missing =>
      obtain ⟨some_missing, absent⟩ := missing
      obtain ⟨after, fails, left⟩ := settles_compute_users_error legible.toStoreLegible
        leftSecond.working (uniqueMisses _ users) (sameFacts ▸ absent)
      exact ⟨after, run_judge_failed (missed.mp some_missing) fails, left⟩
    -- Either all is found, and nothing is computed, or the channel exists.
    case isFalse known =>
      apply settles_judge leftSecond.working
      · intro some_missing missing distinct
        have exists_channel : (outlook.facts second).channel channel ≠ none := by
          rw [sameFacts]
          exact fun absent => known ⟨missed.mpr some_missing, absent⟩
        have computes := settles_compute_users legible.toStoreLegible leftSecond.working ownerReply
          distinct exists_channel
        rw [sameFacts] at computes
        exact computes
      · intro missing between left
        apply settles_bind (settles_cache legible left.working rfl ?_)
        · intro last leftLast
          exact settles_pure leftLast.working ()
        · intro key mask written
          rw [left.facts, sameFacts]
          obtain ⟨rfl, found⟩ := Option.ite_none_right_eq_some.mp written
          exact follows_of_gathered found

end WithCache

end Resolver

/-- Every read comes to its result, and leaves behind what reading may leave behind. -/
theorem settles_legible_inquiry {owns : σ → UserId → Bool} (legible : Legible answer outlook owns)
    (known : ∀ user, OwnerKnown outlook owns user) (ownerReply : NamesOwner answer outlook)
    (works : outlook.working state) (inquiry : Inquiry) :
    Settles answer outlook inquiry.attempt.run state
      ((outlook.facts state).outcome (outlook.view state) inquiry) := by
  cases inquiry with
  | resolve user channel => exact Resolver.settles_resolve legible works (known user) channel
  | hasPermission user channel permission =>
      exact Resolver.settles_has_permission legible works (known user) channel permission
  | requirePermission user channel permission =>
      obtain ⟨after, ran, left⟩ := Resolver.settles_resolve legible works (known user) channel
      rw [Facts.outcome_require_permission]
      exact ⟨after, Resolver.run_require_permission ran permission, left⟩
  | filterPermitted user channels permission =>
      exact Resolver.settles_filter_permitted legible works (known user) channels permission
  | filterUsersPermitted users channel permission =>
      exact Resolver.settles_filter_users_permitted legible works ownerReply users channel
        permission

theorem settles_inquiry (lawful : Lawful answer outlook) (works : outlook.working state)
    (inquiry : Inquiry) :
    Settles answer outlook inquiry.attempt.run state
      ((outlook.facts state).outcome (outlook.view state) inquiry) :=
  settles_legible_inquiry lawful.legible (owner_known_owns outlook) lawful.store.owner works inquiry

end ChannelAccess
