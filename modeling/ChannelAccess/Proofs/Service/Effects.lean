import ChannelAccess.Service
import ChannelAccess.Proofs.Store.Answers

/-!
# What drops and edits leave behind

On a lawful answerer a drop takes the entries of its scope away and adds none, and an
edit of an override changes the facts of its channel at most, whose entries are then
dropped. A refused edit changes nothing.
-/

namespace ChannelAccess

set_option autoImplicit false

/-- What dropping some scopes may leave behind: the same facts, and only entries of before that are
in none of the scopes. -/
structure LeftByDropping {σ : Type} (outlook : Outlook σ) (scopes : List Invalidation)
    (before after : σ) : Prop where
  facts : outlook.facts after = outlook.facts before
  working : outlook.working after
  found : ∀ key mask, outlook.view after key = some mask →
    outlook.view before key = some mask ∧
      ∀ scope ∈ scopes, scope.covers key.user key.channel = false

/-- What editing the overrides of a channel may leave behind: facts that differ in these overrides
at most, and only entries of before; none of the channel, unless nothing was changed. -/
structure LeftByEditing {σ : Type} (outlook : Outlook σ) (channel : ChannelId)
    (before after : σ) : Prop where
  facts : (outlook.facts before).AlikeButOverrides channel (outlook.facts after)
  working : outlook.working after
  found : ∀ key mask, outlook.view after key = some mask →
    outlook.view before key = some mask ∧
      (outlook.facts after = outlook.facts before ∨
        (Invalidation.ofChannel channel).covers key.user key.channel = false)

variable {σ : Type} {answer : Plan.Answerer σ} {outlook : Outlook σ} {state : σ}

theorem Facts.alike_but_overrides_refl (facts : Facts) (channel : ChannelId) :
    facts.AlikeButOverrides channel facts :=
  ⟨rfl, rfl, fun _ _ => rfl, rfl⟩

theorem mask_of_edited {channel : ChannelId} {after : σ} {key : EntryKey} {mask : Mask}
    (left : LeftByEditing outlook channel state after)
    (found : outlook.view after key = some mask) :
    (outlook.facts after).mask key = (outlook.facts state).mask key := by
  rcases (left.found key mask found).2 with same | outside
  · rw [same]
  · exact Facts.mask_of_same_grounds
      (Facts.grounds_of_alike_but_overrides left.facts outside)

theorem left_by_dropping_nothing (works : outlook.working state) :
    LeftByDropping outlook [] state state :=
  ⟨rfl, works, fun _ _ found => ⟨found, fun _ none => absurd none List.not_mem_nil⟩⟩

theorem left_by_dropping_trans {first second : List Invalidation} {between after : σ}
    (start : LeftByDropping outlook first state between)
    (further : LeftByDropping outlook second between after) :
    LeftByDropping outlook (first ++ second) state after where
  facts := further.facts.trans start.facts
  working := further.working
  found key mask present := by
    obtain ⟨before, outsideSecond⟩ := further.found key mask present
    obtain ⟨original, outsideFirst⟩ := start.found key mask before
    refine ⟨original, ?_⟩
    intro scope member
    rcases List.mem_append.mp member with early | late
    · exact outsideFirst scope early
    · exact outsideSecond scope late

variable (lawful : Lawful answer outlook) (works : outlook.working state)

include lawful works

theorem run_report (event : Event) :
    ∃ after, (Plan.report event).run answer state = ((), after) ∧
      LeftByDropping outlook [] state after := by
  obtain ⟨stillWorks, sameView, sameFacts⟩ := lawful.report event state works
  refine ⟨_, rfl, sameFacts, stillWorks, ?_⟩
  intro key mask found
  rw [sameView] at found
  exact ⟨found, fun _ none => absurd none List.not_mem_nil⟩

theorem run_apply (scope : Invalidation) :
    ∃ after, (Publisher.apply scope).run answer state = ((), after) ∧
      LeftByDropping outlook [scope] state after := by
  obtain ⟨replies, stillWorks, within⟩ := lawful.cache (.drop scope) state works
  refine ⟨(answer (.cache (.drop scope)) state).2, ?_, lawful.cacheApart _ state, stillWorks, ?_⟩
  · rw [Publisher.apply, Plan.run_bind]
    have asked : (Plan.cache (.drop scope)).run answer state =
        (.ok ((CacheQuery.drop scope).answerFrom (outlook.view state)),
          (answer (.cache (.drop scope)) state).2) :=
      Prod.ext replies rfl
    rw [asked]
    rfl
  · intro key mask found
    have effect := within key mask found
    rw [CacheQuery.effectOn, CacheQuery.written_drop, Option.none_or, CacheQuery.drops_drop]
      at effect
    obtain ⟨outside, before⟩ := Option.ite_none_left_eq_some.mp effect
    refine ⟨before, ?_⟩
    intro given member
    rw [List.mem_singleton.mp member]
    simpa using outside

theorem run_apply_all (scopes : List Invalidation) :
    ∃ after, (Publisher.applyAll scopes).run answer state = ((), after) ∧
      LeftByDropping outlook scopes state after := by
  induction scopes generalizing state with
  | nil => exact ⟨state, rfl, left_by_dropping_nothing works⟩
  | cons scope rest ih =>
      obtain ⟨between, ranFirst, leftFirst⟩ := run_apply lawful works scope
      obtain ⟨after, ranRest, leftRest⟩ := ih leftFirst.working
      refine ⟨after, ?_, left_by_dropping_trans leftFirst leftRest⟩
      rw [Publisher.applyAll, Plan.run_bind, ranFirst]
      exact ranRest

theorem left_by_refused_edit {query : StoreQuery} {channel : ChannelId}
    (unchanged : outlook.facts (answer (.store query) state).2 = outlook.facts state) :
    LeftByEditing outlook channel state (answer (.store query) state).2 := by
  obtain ⟨stillWorks, sameView⟩ := lawful.storeApart query state works
  constructor
  · rw [unchanged]
    exact Facts.alike_but_overrides_refl _ channel
  · exact stillWorks
  · intro key mask found
    rw [sameView] at found
    exact ⟨found, .inl unchanged⟩

theorem left_by_edit {query : StoreQuery} {channel : ChannelId} {after : σ}
    (edited : (outlook.facts state).AlikeButOverrides channel
      (outlook.facts (answer (.store query) state).2))
    (dropped : LeftByDropping outlook [.ofChannel channel] (answer (.store query) state).2 after) :
    LeftByEditing outlook channel state after := by
  obtain ⟨_, sameView⟩ := lawful.storeApart query state works
  constructor
  · rw [dropped.facts]
    exact edited
  · exact dropped.working
  · intro key mask found
    obtain ⟨before, outside⟩ := dropped.found key mask found
    rw [sameView] at before
    exact ⟨before, .inr (outside _ List.mem_cons_self)⟩

theorem run_delete_override (channel : ChannelId) (principal : Principal) :
    ∃ result after, (Service.deleteOverride channel principal).run.run answer state =
        (result, after) ∧ LeftByEditing outlook channel state after := by
  obtain ⟨edited, refused⟩ := lawful.store.deleteOverride state channel principal
  obtain ⟨stillWorks, _⟩ := lawful.storeApart (.deleteOverride channel principal) state works
  cases replied : (answer (.store (.deleteOverride channel principal)) state).1 with
  | error problem =>
      exact ⟨.error problem, _, run_attempt_error (run_attempt_store replied) _,
        left_by_refused_edit lawful works (refused problem replied)⟩
  | ok _ =>
      -- The store has changed, and the drop follows whatever the cache does with it.
      obtain ⟨after, ran, dropped⟩ := run_apply lawful stillWorks (.ofChannel channel)
      refine ⟨.ok (), after, ?_, left_by_edit lawful works edited dropped⟩
      rw [Service.deleteOverride, run_attempt_ok (run_attempt_store replied)]
      exact run_attempt_lift ran

theorem run_report_overlap (row : Override) :
    ∃ after, (Service.reportOverlap row).run answer state = ((), after) ∧
      LeftByDropping outlook [] state after := by
  unfold Service.reportOverlap
  split
  · exact ⟨state, rfl, left_by_dropping_nothing works⟩
  · exact run_report lawful works _

theorem run_set_override (channel : ChannelId) (principal : Principal) (allow deny : Mask) :
    ∃ result after, (Service.setOverride channel principal allow deny).run.run answer state =
        (result, after) ∧ LeftByEditing outlook channel state after := by
  have unchanged : LeftByEditing outlook channel state state :=
    ⟨Facts.alike_but_overrides_refl _ channel, works, fun _ _ found => ⟨found, .inl rfl⟩⟩
  unfold Service.setOverride
  cases allowed : allow.validated with
  | error problem => exact ⟨.error problem, state, rfl, unchanged⟩
  | ok allow =>
      cases denied : deny.validated with
      | error problem => exact ⟨.error problem, state, rfl, unchanged⟩
      | ok deny =>
          obtain ⟨edited, refused⟩ :=
            lawful.store.setOverride state channel principal allow deny
          obtain ⟨stillWorks, _⟩ :=
            lawful.storeApart (.setOverride channel principal allow deny) state works
          cases replied : (answer (.store (.setOverride channel principal allow deny)) state).1 with
          | error problem =>
              exact ⟨.error problem, _, run_attempt_error (run_attempt_store replied) _,
                left_by_refused_edit lawful works (refused problem replied)⟩
          | ok row =>
              obtain ⟨between, ranReport, reported⟩ := run_report_overlap lawful stillWorks row
              obtain ⟨after, ranDrop, dropped⟩ :=
                run_apply lawful reported.working (.ofChannel channel)
              refine ⟨.ok row, after, ?_, left_by_edit lawful works edited
                (left_by_dropping_trans reported dropped)⟩
              have ran := run_attempt_ok (run_attempt_store replied) fun row => do
                Service.reportOverlap row
                Publisher.apply (.ofChannel channel)
                return row
              refine ran.trans ?_
              rw [run_attempt_ok (run_attempt_lift ranReport),
                run_attempt_ok (run_attempt_lift ranDrop)]
              rfl

end ChannelAccess
