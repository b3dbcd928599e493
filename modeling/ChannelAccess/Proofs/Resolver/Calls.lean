import Mathlib.Data.List.Forall2
import ChannelAccess.Proofs.Plan.Transcript
import ChannelAccess.Proofs.Resolver.Misses

/-!
# What reads of permissions ask

Every read of permissions asks the cache first. What it does not find there is computed
from answers of the store, which is asked in a fixed order and no more once a query
fails. Only what was computed is written to the cache. All this holds for any replies,
so nothing is said here of a store or a cache.
-/

namespace ChannelAccess

set_option autoImplicit false

variable {α : Type}

/-- Some queries are put to the store in turn until one fails or no more answers are needed. -/
inductive InTurn : List StoreQuery → List Asked → Except AccessError α → Prop where
  | ended (order : List StoreQuery) (result : α) : InTurn order [] (.ok result)
  | failed (query : StoreQuery) (order : List StoreQuery) (problem : AccessError) :
      InTurn (query :: order) [⟨.store query, .error problem⟩] (.error problem)
  | answered (query : StoreQuery) (answer : query.Answer) (order : List StoreQuery)
      (asked : List Asked) (result : Except AccessError α) (further : InTurn order asked result) :
      InTurn (query :: order) (⟨.store query, .ok answer⟩ :: asked) result

def AllAnswered (queries : List StoreQuery) (asked : List Asked) : Prop :=
  List.Forall₂ (fun query call => ∃ answer, call = ⟨.store query, .ok answer⟩) queries asked

theorem AllAnswered.of_mem {queries : List StoreQuery} {asked : List Asked}
    (answered : AllAnswered queries asked) {call : Asked} (member : call ∈ asked) :
    ∃ (query : StoreQuery) (answer : query.Answer), call = ⟨.store query, .ok answer⟩ := by
  induction answered with
  | nil => simp at member
  | cons here _ ih =>
      rcases List.mem_cons.mp member with rfl | later
      · exact ⟨_, here⟩
      · exact ih later

theorem InTurn.answers {order : List StoreQuery} {asked : List Asked} {given : α}
    (turn : InTurn order asked (.ok given)) {call : Asked} (member : call ∈ asked) :
    ∃ query ∈ order, ∃ answer, call = ⟨.store query, .ok answer⟩ := by
  induction order generalizing asked with
  | nil =>
      cases turn
      simp at member
  | cons first order ih =>
      cases turn with
      | ended => simp at member
      | answered _ answer _ _ _ further =>
          rcases List.mem_cons.mp member with rfl | later
          · exact ⟨first, List.mem_cons_self, answer, rfl⟩
          · obtain ⟨query, asks, found⟩ := ih further later
            exact ⟨query, List.mem_cons_of_mem first asks, found⟩

/-- The first of some queries that failed was the last that was put to the store. -/
def FailsInTurn (order : List StoreQuery) (problem : AccessError) (asked : List Asked) : Prop :=
  ∃ before query after calls, order = before ++ query :: after ∧ AllAnswered before calls ∧
    asked = calls ++ [⟨.store query, .error problem⟩]

theorem InTurn.fails {order : List StoreQuery} {asked : List Asked} {problem : AccessError}
    (turn : InTurn order asked (.error problem : Except AccessError α)) :
    FailsInTurn order problem asked := by
  induction order generalizing asked with
  | nil => cases turn
  | cons first order ih =>
      cases turn with
      | failed => exact ⟨[], first, order, [], rfl, .nil, rfl⟩
      | answered _ answer _ more _ further =>
          obtain ⟨before, query, after, calls, rfl, answered, rfl⟩ := ih further
          exact ⟨first :: before, query, after, _ :: calls, rfl, .cons ⟨answer, rfl⟩ answered, rfl⟩

variable {asked : List Asked}

theorem in_turn_store_bind {query : StoreQuery} {rest : query.Answer → Attempt α}
    {order : List StoreQuery}
    (further : ∀ answer more result, (rest answer).run.Course more result →
      InTurn order more result)
    {result : Except AccessError α}
    (course : (Attempt.store query >>= rest).run.Course asked result) :
    InTurn (query :: order) asked result := by
  rcases Attempt.course_store_bind_iff.mp course with
    ⟨problem, rfl, rfl⟩ | ⟨answer, more, rfl, afterwards⟩
  · exact .failed query order problem
  · exact .answered query answer order more result (further answer more result afterwards)

theorem in_turn_pure {given : α} {order : List StoreQuery} {result : Except AccessError α}
    (course : (pure given : Attempt α).run.Course asked result) : InTurn order asked result := by
  obtain ⟨rfl, rfl⟩ := Attempt.course_pure_iff.mp course
  exact .ended order given

namespace Resolver

/-! What the store is asked. -/

theorem compute_in_turn {user : UserId} {channel : ChannelId} {result : Except AccessError Mask}
    (course : (compute user channel).run.Course asked result) :
    InTurn [.channel channel, .isOwner user, .grants user, .overrides channel] asked result := by
  apply in_turn_store_bind _ course
  intro _ _ _ course
  apply in_turn_store_bind _ course
  intro owns _ _ course
  split at course
  case isTrue => exact in_turn_pure course
  case isFalse =>
    apply in_turn_store_bind _ course
    intro _ _ _ course
    apply in_turn_store_bind _ course
    intro _ _ _ course
    exact in_turn_pure course

theorem compute_channels_in_turn {user : UserId} {channels : List ChannelId}
    {result : Except AccessError (IdMap Mask)}
    (course : (computeChannels user channels).run.Course asked result) :
    (∃ problem, result = .error problem ∧
        asked = [⟨.store (.channelMany channels), .error problem⟩]) ∨
      ∃ (known : IdMap Channel) (more : List Asked),
        asked = ⟨.store (.channelMany channels), .ok known⟩ :: more ∧
          InTurn [.isOwner user, .grants user,
              .overridesMany (channels.filter fun channel => known.contains channel)]
            more result := by
  refine (Attempt.course_store_bind_iff.mp course).imp id ?_
  rintro ⟨known, more, rfl, further⟩
  refine ⟨known, more, rfl, in_turn_store_bind ?_ further⟩
  intro owns _ _ course
  dsimp only at course
  split at course
  case isTrue => exact in_turn_pure course
  case isFalse =>
    split at course
    case isTrue => exact in_turn_pure course
    case isFalse =>
      apply in_turn_store_bind _ course
      intro _ _ _ course
      apply in_turn_store_bind _ course
      intro _ _ _ course
      exact in_turn_pure course

theorem compute_users_in_turn {users : List UserId} {channel : ChannelId}
    {result : Except AccessError (IdMap Mask)}
    (course : (computeUsers users channel).run.Course asked result) :
    InTurn [.channel channel, .overrides channel, .owner, .grantsMany users] asked result := by
  apply in_turn_store_bind _ course
  intro _ _ _ course
  apply in_turn_store_bind _ course
  intro _ _ _ course
  apply in_turn_store_bind _ course
  intro _ _ _ course
  apply in_turn_store_bind _ course
  intro _ _ _ course
  exact in_turn_pure course

/-! What the cache is asked. -/

theorem look_up_course {user : UserId} {channel : ChannelId} {found : Option Mask}
    (course : (lookUp user channel).Course asked found) :
    ∃ reply : Except CacheError (Option Mask), found = reply.toOption.getD none ∧
      asked = ⟨.cache (.get user channel), reply⟩ :: reports (failures .readFailed reply) := by
  obtain ⟨_, reply, _, rfl, start, further⟩ := Plan.course_bind_iff.mp course
  rw [Plan.course_cache_iff.mp start]
  cases reply with
  | ok _ =>
      obtain ⟨rfl, rfl⟩ := further
      exact ⟨_, rfl, rfl⟩
  | error problem =>
      obtain ⟨_, _, _, rfl, reporting, rfl, rfl⟩ := Plan.course_bind_iff.mp further
      rw [Plan.course_report_iff.mp reporting]
      exact ⟨_, rfl, rfl⟩

theorem remember_course {user : UserId} {channel : ChannelId} {mask : Mask} {result : Unit}
    (course : (remember user channel mask).Course asked result) :
    ∃ reply : Except CacheError Unit, asked =
      ⟨.cache (.set user channel mask), reply⟩ :: reports (failures .writeFailed reply) := by
  obtain ⟨_, reply, _, rfl, start, further⟩ := Plan.course_bind_iff.mp course
  rw [Plan.course_cache_iff.mp start]
  cases reply with
  | ok _ =>
      obtain ⟨rfl, _⟩ := further
      exact ⟨_, rfl⟩
  | error problem =>
      rw [Plan.course_report_iff.mp further]
      exact ⟨_, rfl⟩

theorem hits_course {query : Plan (Except CacheError (IdMap Mask))}
    {rest : IdMap Mask → Attempt α} {result : Except AccessError α}
    (course : (do rest (← hitsOf (← query)) : Attempt α).run.Course asked result) :
    ∃ start reply more, query.Course start reply ∧
      asked = start ++ reports (failures .batchReadFailed reply) ++ more ∧
        (rest (reply.toOption.getD ∅)).run.Course more result := by
  obtain ⟨start, reply, _, rfl, queried, further⟩ := Attempt.course_lift_bind_iff.mp course
  obtain ⟨_, hits, more, rfl, counting, afterwards⟩ := Attempt.course_lift_bind_iff.mp further
  refine ⟨start, reply, more, queried, ?_⟩
  rw [List.append_assoc]
  cases reply with
  | ok found =>
      obtain ⟨rfl, rfl⟩ := counting
      exact ⟨rfl, afterwards⟩
  | error problem =>
      obtain ⟨_, _, _, rfl, reporting, rfl, rfl⟩ := Plan.course_bind_iff.mp counting
      rw [Plan.course_report_iff.mp reporting]
      exact ⟨rfl, afterwards⟩

theorem batch_written_course {query : Plan (Except CacheError Unit)} {result : Unit}
    (course : (do batchWritten (← query) : Plan Unit).Course asked result) :
    ∃ start reply, query.Course start reply ∧
      asked = start ++ reports (failures .batchWriteFailed reply) := by
  obtain ⟨start, reply, _, rfl, queried, further⟩ := Plan.course_bind_iff.mp course
  refine ⟨start, reply, queried, ?_⟩
  cases reply with
  | ok _ =>
      obtain ⟨rfl, _⟩ := further
      rfl
  | error problem =>
      rw [Plan.course_report_iff.mp further]
      rfl

/-! Reads as a whole. -/

/-- A resolve ends with a hit, or fails with the computation, or writes what was computed. -/
inductive ResolveCourse (user : UserId) (channel : ChannelId) :
    List Asked → Except AccessError Mask → Prop where
  | hit (mask : Mask) :
      ResolveCourse user channel [⟨.cache (.get user channel), .ok (some mask)⟩] (.ok mask)
  | failed (reply : Except CacheError (Option Mask)) (missed : ∀ mask, reply ≠ .ok (some mask))
      (asked : List Asked) (problem : AccessError)
      (computes : (compute user channel).run.Course asked (.error problem)) :
      ResolveCourse user channel
        (⟨.cache (.get user channel), reply⟩ :: reports (failures .readFailed reply) ++ asked)
        (.error problem)
  | computed (reply : Except CacheError (Option Mask)) (missed : ∀ mask, reply ≠ .ok (some mask))
      (asked : List Asked) (mask : Mask) (written : Except CacheError Unit)
      (computes : (compute user channel).run.Course asked (.ok mask)) :
      ResolveCourse user channel
        (⟨.cache (.get user channel), reply⟩ :: reports (failures .readFailed reply) ++
          (asked ++ ⟨.cache (.set user channel mask), written⟩ ::
            reports (failures .writeFailed written)))
        (.ok mask)

theorem resolve_course {user : UserId} {channel : ChannelId} {result : Except AccessError Mask}
    (course : (resolve user channel).run.Course asked result) :
    ResolveCourse user channel asked result := by
  obtain ⟨_, found, more, rfl, looking, further⟩ := Attempt.course_lift_bind_iff.mp course
  obtain ⟨reply, rfl, rfl⟩ := look_up_course looking
  cases shown : reply.toOption.getD none with
  | some mask =>
      rw [shown] at further
      obtain ⟨rfl, rfl⟩ := Attempt.course_pure_iff.mp further
      cases reply with
      | ok found =>
          obtain rfl : found = some mask := shown
          exact .hit mask
      | error problem => nomatch shown
  | none =>
      rw [shown] at further
      have missed : ∀ mask, reply ≠ .ok (some mask) := by
        rintro mask rfl
        nomatch shown
      rcases Attempt.course_bind_iff.mp further with
        ⟨problem, rfl, computing⟩ | ⟨before, mask, _, rfl, computing, afterwards⟩
      · exact .failed reply missed more problem computing
      · obtain ⟨_, _, _, rfl, remembering, ends⟩ := Attempt.course_lift_bind_iff.mp afterwards
        obtain ⟨written, rfl⟩ := remember_course remembering
        obtain ⟨rfl, rfl⟩ := Attempt.course_pure_iff.mp ends
        rw [List.append_nil]
        exact .computed reply missed before mask written computing

theorem has_permission_course {user : UserId} {channel : ChannelId} {permission : Mask}
    {result : Except AccessError Bool}
    (course : (hasPermission user channel permission).run.Course asked result) :
    ∃ found, ResolveCourse user channel asked found ∧
      result = found.map fun mask => mask.grants permission := by
  rcases Attempt.course_bind_iff.mp course with
    ⟨problem, rfl, failing⟩ | ⟨_, mask, _, rfl, resolving, ends⟩
  · exact ⟨_, resolve_course failing, rfl⟩
  · obtain ⟨rfl, rfl⟩ := Attempt.course_pure_iff.mp ends
    exact ⟨_, by simpa using resolve_course resolving, rfl⟩

def judgedBy (ids : List Uuid) (permission : Mask) (masks : IdMap Mask) : List Bool :=
  ids.map fun id => masks[id]?.any fun mask => mask.grants permission

/-- Judging asks nothing where all is known, fails with the computation, or writes what was
computed. -/
inductive JudgeCourse (ids : List Uuid) (permission : Mask) (hits : IdMap Mask)
    (computeMissing : List Uuid → Attempt (IdMap Mask)) (writes : IdMap Mask → List Asked → Prop) :
    List Asked → Except AccessError (List Bool) → Prop where
  | known (none_missing : uniqueMisses hits ids = []) :
      JudgeCourse ids permission hits computeMissing writes [] (.ok (judgedBy ids permission hits))
  | failed (some_missing : uniqueMisses hits ids ≠ []) (asked : List Asked) (problem : AccessError)
      (computes : (computeMissing (uniqueMisses hits ids)).run.Course asked (.error problem)) :
      JudgeCourse ids permission hits computeMissing writes asked (.error problem)
  | computed (some_missing : uniqueMisses hits ids ≠ []) (before after : List Asked)
      (computed : IdMap Mask)
      (computes : (computeMissing (uniqueMisses hits ids)).run.Course before (.ok computed))
      (written : writes computed after) :
      JudgeCourse ids permission hits computeMissing writes (before ++ after)
        (.ok (judgedBy ids permission (hits.overlay computed)))

theorem judge_course {ids : List Uuid} {permission : Mask} {hits : IdMap Mask}
    {computeMissing : List Uuid → Attempt (IdMap Mask)} {rememberAll : IdMap Mask → Plan Unit}
    {writes : IdMap Mask → List Asked → Prop}
    (remembers : ∀ computed after, (rememberAll computed).Course after () → writes computed after)
    {result : Except AccessError (List Bool)}
    (course : (judge ids permission hits computeMissing rememberAll).run.Course asked result) :
    JudgeCourse ids permission hits computeMissing writes asked result := by
  unfold judge at course
  dsimp only at course
  split at course
  case isTrue none_missing =>
    obtain ⟨rfl, rfl⟩ := Attempt.course_pure_iff.mp course
    have known := @JudgeCourse.known ids permission hits computeMissing writes
      (List.isEmpty_iff.mp none_missing)
    rw [judgedBy, ← judged_of_resolved fun _ _ => rfl] at known
    exact known
  case isFalse missing =>
    have some_missing : uniqueMisses hits ids ≠ [] := fun nothing =>
      missing (List.isEmpty_iff.mpr nothing)
    rcases Attempt.course_bind_iff.mp course with
      ⟨problem, rfl, computing⟩ | ⟨before, computed, _, rfl, computing, afterwards⟩
    · exact .failed some_missing asked problem computing
    · obtain ⟨_, _, _, rfl, remembering, ends⟩ := Attempt.course_lift_bind_iff.mp afterwards
      obtain ⟨rfl, rfl⟩ := Attempt.course_pure_iff.mp ends
      have judged := @JudgeCourse.computed ids permission hits computeMissing writes some_missing
        before _ computed computing (remembers computed _ remembering)
      rw [judgedBy, ← judged_of_resolved fun _ _ => rfl] at judged
      rw [List.append_nil]
      exact judged

inductive WritesChannels (user : UserId) (computed : IdMap Mask) : List Asked → Prop where
  | nothing (none_computed : computed.isEmpty = true) : WritesChannels user computed []
  | written (some_computed : computed.isEmpty = false) (reply : Except CacheError Unit) :
      WritesChannels user computed
        (⟨.cache (.setMany user computed), reply⟩ :: reports (failures .batchWriteFailed reply))

inductive WritesUsers (channel : ChannelId) (computed : IdMap Mask) : List Asked → Prop where
  | written (reply : Except CacheError Unit) :
      WritesUsers channel computed
        (⟨.cache (.setManyUsers channel computed), reply⟩ ::
          reports (failures .batchWriteFailed reply))

/-- A filter with nothing to judge asks nothing. Any other looks at all entries in one go, and goes
on with what it did not find. -/
theorem filter_permitted_course {user : UserId} {channels : List ChannelId} {permission : Mask}
    {result : Except AccessError (List Bool)}
    (course : (filterPermitted user channels permission).run.Course asked result) :
    (channels = [] ∧ asked = [] ∧ result = .ok []) ∨
      channels ≠ [] ∧ ∃ (reply : Except CacheError (IdMap Mask)) (more : List Asked),
        asked = ⟨.cache (.getMany user channels), reply⟩ ::
            reports (failures .batchReadFailed reply) ++ more ∧
          JudgeCourse channels permission (reply.toOption.getD ∅) (computeChannels user)
            (WritesChannels user) more result := by
  unfold filterPermitted at course
  split at course
  case isTrue nothing =>
    obtain ⟨rfl, rfl⟩ := Attempt.course_pure_iff.mp course
    exact .inl ⟨List.isEmpty_iff.mp nothing, rfl, rfl⟩
  case isFalse given =>
    obtain ⟨start, reply, more, queried, rfl, judging⟩ := hits_course course
    rw [Plan.course_cache_iff.mp queried]
    refine .inr ⟨fun nothing => given (List.isEmpty_iff.mpr nothing), reply, more, rfl, ?_⟩
    refine judge_course ?_ judging
    intro computed after remembering
    split at remembering
    case isTrue none_computed =>
      rw [remembering.1]
      exact .nothing none_computed
    case isFalse some_computed =>
      obtain ⟨_, reply, writing, rfl⟩ := batch_written_course remembering
      rw [Plan.course_cache_iff.mp writing]
      exact .written (Bool.eq_false_iff.mpr some_computed) reply

theorem filter_users_permitted_course {users : List UserId} {channel : ChannelId}
    {permission : Mask} {result : Except AccessError (List Bool)}
    (course : (filterUsersPermitted users channel permission).run.Course asked result) :
    (users = [] ∧ asked = [] ∧ result = .ok []) ∨
      users ≠ [] ∧ ∃ (reply : Except CacheError (IdMap Mask)) (more : List Asked),
        asked = ⟨.cache (.getManyUsers channel users), reply⟩ ::
            reports (failures .batchReadFailed reply) ++ more ∧
          JudgeCourse users permission (reply.toOption.getD ∅)
            (fun missing => computeUsers missing channel) (WritesUsers channel) more result := by
  unfold filterUsersPermitted at course
  split at course
  case isTrue nothing =>
    obtain ⟨rfl, rfl⟩ := Attempt.course_pure_iff.mp course
    exact .inl ⟨List.isEmpty_iff.mp nothing, rfl, rfl⟩
  case isFalse given =>
    obtain ⟨start, reply, more, queried, rfl, judging⟩ := hits_course course
    rw [Plan.course_cache_iff.mp queried]
    refine .inr ⟨fun nothing => given (List.isEmpty_iff.mpr nothing), reply, more, rfl, ?_⟩
    refine judge_course ?_ judging
    intro computed after remembering
    obtain ⟨_, reply, writing, rfl⟩ := batch_written_course remembering
    rw [Plan.course_cache_iff.mp writing]
    exact .written reply

end Resolver

end ChannelAccess
