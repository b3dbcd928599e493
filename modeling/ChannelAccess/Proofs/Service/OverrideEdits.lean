import ChannelAccess.Proofs.Plan.Transcript
import ChannelAccess.Proofs.RoleVerdict
import ChannelAccess.Proofs.Service.World

/-!
# Edits of overrides

An edit of an override is refused before anything is asked, or refused by the store, or made. Only
an edit that was made is followed by the drop of its channel, which is asked of the cache at once
and not left to the queue. What becomes of the drop does not matter to the one who made the edit.
-/

namespace ChannelAccess

set_option autoImplicit false

/-! Reserved bits. -/

namespace Mask

theorem validated_of_reserved {mask : Mask} (reserved : mask.reserved ≠ ∅) :
    mask.validated = .error (.validation (.reservedBits mask.reserved)) := by
  rw [validated, if_neg fun blank => reserved (mask.reserved.is_empty_eq_true_iff.mp blank)]

theorem validated_of_named {mask : Mask} (named : mask.reserved = ∅) :
    mask.validated = .ok mask := by
  rw [validated, if_pos (mask.reserved.is_empty_eq_true_iff.mpr named)]

end Mask

/-! What is logged. -/

/-- The warning about a stored override: one if a permission is both allowed and denied, with all
such permissions. -/
inductive OverlapWarned (row : Override) : List Event → Prop where
  | apart (apart : ∀ position,
      ¬(row.allow.testBit position = true ∧ row.deny.testBit position = true)) :
      OverlapWarned row []
  | shared (bits : Mask) (some_shared : ∃ position, bits.testBit position = true)
      (exactly : ∀ position, bits.testBit position = true ↔
        row.allow.testBit position = true ∧ row.deny.testBit position = true) :
      OverlapWarned row [.overlapping row.id bits]

/-! Edits. -/

/-- What an edit asks that consists of a query to the store and concerns a channel, and what it
comes to. -/
inductive EditCourse (channel : ChannelId) (query : StoreQuery)
    (warned : query.Answer → List Event → Prop) : List Asked → query.Reply → Prop where
  | refused (problem : AccessError) :
      EditCourse channel query warned [⟨.store query, .error problem⟩] (.error problem)
  | made (row : query.Answer) (warnings : List Event) (warns : warned row warnings)
      (dropped : Except CacheError Unit) :
      EditCourse channel query warned
        (⟨.store query, .ok row⟩ :: reports warnings ++
          ⟨.cache (.deleteByChannel channel), dropped⟩ ::
            reports (failures (.dropFailed (.ofChannel channel)) dropped))
        (.ok row)

namespace Service

variable {asked : List Asked} {channel : ChannelId} {principal : Principal}

theorem overlap_warned {row : Override} {result : Unit}
    (course : (reportOverlap row).Course asked result) :
    ∃ warnings, OverlapWarned row warnings ∧ asked = reports warnings := by
  have exactly (position : Nat) : row.overlap.testBit position = true ↔
      row.allow.testBit position = true ∧ row.deny.testBit position = true := by
    rw [Override.overlap, Mask.test_bit_inter, Bool.and_eq_true]
  unfold reportOverlap at course
  split at course
  case isTrue blank =>
    rw [Mask.is_empty_iff] at blank
    refine ⟨[], .apart fun position both => ?_, course.1⟩
    rw [← exactly, blank] at both
    contradiction
  case isFalse overlapping =>
    rw [Mask.is_empty_iff, not_forall] at overlapping
    obtain ⟨position, shared⟩ := overlapping
    rw [Bool.not_eq_false] at shared
    exact ⟨_, .shared row.overlap ⟨position, shared⟩ exactly, Plan.course_report_iff.mp course⟩

theorem apply_course {scope : Invalidation} {result : Unit}
    (course : (Publisher.apply scope).Course asked result) :
    ∃ dropped, asked =
      ⟨.cache (.drop scope), dropped⟩ :: reports (failures (.dropFailed scope) dropped) := by
  unfold Publisher.apply at course
  obtain ⟨_, dropped, more, rfl, start, further⟩ := Plan.course_bind_iff.mp course
  rw [Plan.course_cache_iff.mp start]
  cases dropped with
  | ok _ =>
      obtain ⟨rfl, _⟩ := further
      exact ⟨_, rfl⟩
  | error problem =>
      rw [Plan.course_report_iff.mp further]
      exact ⟨_, rfl⟩

theorem set_override_course {allow deny : Mask} (allowNamed : allow.reserved = ∅)
    (denyNamed : deny.reserved = ∅) {result : Except AccessError Override}
    (course : (setOverride channel principal allow deny).run.Course asked result) :
    EditCourse channel (.setOverride channel principal allow deny) OverlapWarned asked result := by
  unfold setOverride at course
  rw [Mask.validated_of_named allowNamed, Mask.validated_of_named denyNamed] at course
  rcases Attempt.course_store_bind_iff.mp course with
    ⟨problem, rfl, rfl⟩ | ⟨row, _, rfl, further⟩
  · exact .refused problem
  · obtain ⟨_, _, _, rfl, warning, afterwards⟩ := Attempt.course_lift_bind_iff.mp further
    obtain ⟨warnings, warns, rfl⟩ := overlap_warned warning
    obtain ⟨_, _, _, rfl, dropping, ends⟩ := Attempt.course_lift_bind_iff.mp afterwards
    obtain ⟨dropped, rfl⟩ := apply_course dropping
    obtain ⟨rfl, rfl⟩ := Attempt.course_pure_iff.mp ends
    rw [List.append_nil]
    exact .made row warnings warns dropped

theorem delete_override_course {result : Except AccessError Unit}
    (course : (deleteOverride channel principal).run.Course asked result) :
    EditCourse channel (.deleteOverride channel principal) (fun _ warnings => warnings = []) asked
      result := by
  unfold deleteOverride at course
  rcases Attempt.course_store_bind_iff.mp course with
    ⟨problem, rfl, rfl⟩ | ⟨_, _, rfl, further⟩
  · exact .refused problem
  · rw [← bind_pure (liftM (Publisher.apply (.ofChannel channel)) : Attempt Unit)] at further
    obtain ⟨_, _, _, rfl, dropping, ends⟩ := Attempt.course_lift_bind_iff.mp further
    obtain ⟨dropped, rfl⟩ := apply_course dropping
    obtain ⟨rfl, rfl⟩ := Attempt.course_pure_iff.mp ends
    rw [List.append_nil]
    exact @EditCourse.made channel (.deleteOverride channel principal) _ () [] rfl dropped

/-- An edit whose last word is a refusal by the store asked nothing else, so it leaves what the
store leaves. -/
theorem state_after_refusal {σ : Type} {answer : Plan.Answerer σ} {state : σ} {query : StoreQuery}
    {warned : query.Answer → List Event → Prop} {attempt : Attempt query.Answer}
    {problem : AccessError}
    (atomic : ∀ problem, (answer (.store query) state).1 = .error problem →
      (answer (.store query) state).2 = state)
    (course : EditCourse channel query warned (attempt.run.transcript answer state)
      (attempt.run.run answer state).1)
    (failed : (attempt.run.run answer state).1 = .error problem) :
    (attempt.run.run answer state).2 = state := by
  obtain ⟨_, answered, after⟩ := Plan.course_transcript answer attempt.run state
  rw [failed] at course
  generalize attempt.run.transcript answer state = asked at course answered after
  cases course with
  | refused =>
      rw [after]
      exact atomic problem answered.1.symm

/-- Edits of overrides are all or nothing. A new mask with a reserved bit fails the edit before
anything is asked, with all reserved bits of that mask; the allowed permissions are looked at first.
Any other edit is one query to the store. If the store refuses it, that is all: the refusal is what
the edit comes to, and the state stays as it is. If it is made, the drop of the channel is asked of
the cache after that and nothing of the queue, and the stored row is what the edit comes to, whether
or not the drop succeeds. A warning is logged exactly if the row allows and denies a permission,
with all permissions that it allows and denies. -/
theorem override_edits_are_all_or_nothing {σ : Type} {answer : Plan.Answerer σ}
    (atomic : ∀ (query : StoreQuery) (state : σ) (problem : AccessError), query.reads = false →
      (answer (.store query) state).1 = .error problem → (answer (.store query) state).2 = state)
    (state : σ) (channel : ChannelId) (principal : Principal) (allow deny : Mask) :
    (∀ mask bits : Mask, mask = allow ∨ mask = deny ∧ allow.ReservedIn ∅ →
      mask.ReservedIn bits → bits ≠ ∅ →
      (setOverride channel principal allow deny).run.run answer state =
          (.error (.validation (.reservedBits bits)), state) ∧
        (setOverride channel principal allow deny).run.transcript answer state = []) ∧
    (allow.ReservedIn ∅ → deny.ReservedIn ∅ →
      EditCourse channel (.setOverride channel principal allow deny) OverlapWarned
          ((setOverride channel principal allow deny).run.transcript answer state)
          ((setOverride channel principal allow deny).run.run answer state).1 ∧
        ∀ problem,
          ((setOverride channel principal allow deny).run.run answer state).1 = .error problem →
          ((setOverride channel principal allow deny).run.run answer state).2 = state) ∧
    EditCourse channel (.deleteOverride channel principal) (fun _ warnings => warnings = [])
        ((deleteOverride channel principal).run.transcript answer state)
        ((deleteOverride channel principal).run.run answer state).1 ∧
      ∀ problem, ((deleteOverride channel principal).run.run answer state).1 = .error problem →
        ((deleteOverride channel principal).run.run answer state).2 = state := by
  refine ⟨?reserved, ?set, ?delete⟩
  case reserved =>
    rintro mask bits first named some_reserved
    obtain rfl := (mask.reserved_in_iff bits).mp named
    have fails := Mask.validated_of_reserved some_reserved
    unfold setOverride
    rcases first with rfl | ⟨rfl, allowNamed⟩
    · rw [fails]
      exact ⟨rfl, rfl⟩
    · rw [Mask.validated_of_named ((allow.reserved_in_iff ∅).mp allowNamed).symm, fails]
      exact ⟨rfl, rfl⟩
  case set =>
    intro allowNamed denyNamed
    have course := set_override_course ((allow.reserved_in_iff ∅).mp allowNamed).symm
      ((deny.reserved_in_iff ∅).mp denyNamed).symm
      (Plan.course_transcript answer (setOverride channel principal allow deny).run state).1
    exact ⟨course, fun problem => state_after_refusal (fun problem => atomic _ state problem rfl)
      course⟩
  case delete =>
    have course := delete_override_course
      (Plan.course_transcript answer (deleteOverride channel principal).run state).1
    exact ⟨course, fun problem => state_after_refusal (fun problem => atomic _ state problem rfl)
      course⟩

theorem unchanged_by_refused_edit {query : StoreQuery} {world : World Directory}
    {problem : AccessError} (edits : query.reads = false)
    (failed : (World.answer (fun query => Directory.reply query) (.store query) world).1 =
      .error problem) :
    (World.answer (fun query => Directory.reply query) (.store query) world).2 = world := by
  have unchanged : (Directory.reply query world.store).2 = world.store := by
    change (Directory.reply query world.store).1 = .error problem at failed
    cases query with
    | deleteOverride channel principal =>
        simp only [Directory.reply] at failed ⊢
        split at failed
        case h_1 => contradiction
        case h_2 => rfl
    | setOverride channel principal allow deny => simp [Directory.reply] at failed
    | _ => simp [StoreQuery.reads] at edits
  simp only [World.answer, unchanged]

/-- An override is set beside a cache server that refuses commands, and one that is not there is
removed. Nothing is asked when both masks have reserved bits, and those of the allowed ones are
reported. -/
theorem override_edits_are_all_or_nothing_beside_refusing_server :
    let channel : ChannelId := .ofNat 2
    let principal : Principal := .user (.ofNat 7)
    let world : World Directory :=
      ⟨⟨.ofNat 1, ∅, ∅, .ofEntries [(channel, "general")], [], none, 0, false⟩,
        .shared (.opened "permissions" 300) ⟨.blank 0, some "LOADING"⟩, some ⟨1, [], .running⟩⟩
    let answer : Plan.Answerer (World Directory) :=
      World.answer fun query => Directory.reply query
    let row : Override := ⟨Directory.overrideId 1, channel, principal, .ofNat 6, .ofNat 3,
      .ofSeconds 1, .ofSeconds 1⟩
    (∀ (query : StoreQuery) (state : World Directory) (problem : AccessError),
        query.reads = false → (answer (.store query) state).1 = .error problem →
          (answer (.store query) state).2 = state) ∧
      (setOverride channel principal (.ofNat 0x1000001) (.ofNat 0x800000)).run.run answer world =
        (.error (.validation (.reservedBits (.ofNat 0x1000000))), world) ∧
      ((setOverride channel principal (.ofNat 6) (.ofNat 3)).run.run answer world).1 = .ok row ∧
      EditCourse channel (.setOverride channel principal (.ofNat 6) (.ofNat 3)) OverlapWarned
        ((setOverride channel principal (.ofNat 6) (.ofNat 3)).run.transcript answer world)
        (.ok row) ∧
      (deleteOverride channel principal).run.run answer world =
        (.error .overrideNotFound, world) := by
  intro channel principal world answer row
  have atomic : ∀ (query : StoreQuery) (state : World Directory) (problem : AccessError),
      query.reads = false → (answer (.store query) state).1 = .error problem →
        (answer (.store query) state).2 = state :=
    fun query state problem => unchanged_by_refused_edit
  have reserved := (override_edits_are_all_or_nothing atomic world channel principal
    (.ofNat 0x1000001) (.ofNat 0x800000)).1 _ (.ofNat 0x1000000) (.inl rfl)
    ((Mask.reserved_in_iff _ _).mpr (by decide)) (by decide)
  obtain ⟨_, set, _, unchanged⟩ :=
    override_edits_are_all_or_nothing atomic world channel principal (.ofNat 6) (.ofNat 3)
  have stored : ((setOverride channel principal (.ofNat 6) (.ofNat 3)).run.run answer world).1 =
      .ok row := by
    decide +kernel
  have refused : ((deleteOverride channel principal).run.run answer world).1 =
      .error .overrideNotFound := rfl
  obtain ⟨course, _⟩ := set ((Mask.reserved_in_iff _ _).mpr (by decide))
    ((Mask.reserved_in_iff _ _).mpr (by decide))
  rw [stored] at course
  exact ⟨atomic, reserved.1, stored, course, Prod.ext refused (unchanged _ refused)⟩

end Service

end ChannelAccess
