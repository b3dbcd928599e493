import ChannelAccess.Proofs.Plan.Terms

/-!
# Transcripts of plans

What a plan asks, and what it comes to, depends on the replies alone. A course of a plan
is a list of requests with replies that take it to a result. Courses of a sequence are
put together from courses of its parts, so what a plan asks can be read off its text,
for any replies at all. Running a plan on a state takes it through the one course whose
replies the state gives.
-/

namespace ChannelAccess

set_option autoImplicit false

structure Asked where
  request : Request
  reply : request.Reply

def reports (events : List Event) : List Asked :=
  events.map fun event => ⟨.report event, ()⟩

/-- What is reported of a reply of the cache: its failure, if it is one. -/
def failures {α : Type} (event : CacheError → Event) : Except CacheError α → List Event
  | .ok _ => []
  | .error problem => [event problem]

variable {σ α β : Type}

namespace Plan

/-- Whether some requests with their replies, oldest first, take a plan to a result. -/
def Course : Plan α → List Asked → α → Prop
  | .done result, asked, final => asked = [] ∧ final = result
  | .ask request next, asked, final =>
      ∃ reply more, asked = ⟨request, reply⟩ :: more ∧ (next reply).Course more final

/-- The requests that a plan makes when it is run, with their replies, oldest first. -/
def transcript (answer : Answerer σ) : Plan α → σ → List Asked
  | .done _, _ => []
  | .ask request next, state =>
      ⟨request, (answer request state).1⟩ ::
        (next (answer request state).1).transcript answer (answer request state).2

end Plan

def stateAfter (answer : Plan.Answerer σ) (state : σ) (asked : List Asked) : σ :=
  asked.foldl (fun state asked => (answer asked.request state).2) state

/-- The replies to some requests are those that a state gives, one after the other. -/
def Answered (answer : Plan.Answerer σ) : σ → List Asked → Prop
  | _, [] => True
  | state, asked :: rest =>
      asked.reply = (answer asked.request state).1 ∧
        Answered answer (answer asked.request state).2 rest

theorem state_after_append (answer : Plan.Answerer σ) (state : σ) (before after : List Asked) :
    stateAfter answer state (before ++ after) =
      stateAfter answer (stateAfter answer state before) after :=
  List.foldl_append

theorem answered_append_iff {answer : Plan.Answerer σ} {state : σ} {before after : List Asked} :
    Answered answer state (before ++ after) ↔
      Answered answer state before ∧ Answered answer (stateAfter answer state before) after := by
  induction before generalizing state with
  | nil => exact ⟨fun answered => ⟨trivial, answered⟩, fun both => both.2⟩
  | cons call rest ih => exact (and_congr_right fun _ => ih).trans (and_assoc).symm

namespace Plan

variable {answer : Answerer σ} {state : σ} {plan : Plan α}

/-- A run takes a plan through a course with the replies of its state. -/
theorem course_transcript (answer : Answerer σ) (plan : Plan α) (state : σ) :
    plan.Course (plan.transcript answer state) (plan.run answer state).1 ∧
      Answered answer state (plan.transcript answer state) ∧
        (plan.run answer state).2 = stateAfter answer state (plan.transcript answer state) := by
  induction plan generalizing state with
  | done result => exact ⟨⟨rfl, rfl⟩, trivial, rfl⟩
  | ask request next ih =>
      obtain ⟨course, answered, after⟩ := ih (answer request state).1 (answer request state).2
      exact ⟨⟨_, _, rfl, course⟩, ⟨rfl, answered⟩, after⟩

theorem course_bind_iff {first : Plan α} {rest : α → Plan β} {asked : List Asked} {result : β} :
    (first >>= rest).Course asked result ↔
      ∃ before middle more, asked = before ++ more ∧ first.Course before middle ∧
        (rest middle).Course more result := by
  induction first generalizing asked with
  | done middle =>
      constructor
      · exact fun course => ⟨[], middle, asked, rfl, ⟨rfl, rfl⟩, course⟩
      · rintro ⟨_, _, more, rfl, ⟨rfl, rfl⟩, course⟩
        exact course
  | ask request next ih =>
      constructor
      · rintro ⟨reply, _, rfl, course⟩
        obtain ⟨before, middle, more, rfl, start, further⟩ := (ih reply).mp course
        exact ⟨_, middle, more, rfl, ⟨reply, before, rfl, start⟩, further⟩
      · rintro ⟨_, middle, more, rfl, ⟨reply, before, rfl, start⟩, further⟩
        exact ⟨reply, _, rfl, (ih reply).mpr ⟨before, middle, more, rfl, start, further⟩⟩

@[simp]
theorem course_cache_iff {query : CacheQuery} {asked : List Asked} {reply : query.Reply} :
    (Plan.cache query).Course asked reply ↔ asked = [⟨.cache query, reply⟩] := by
  constructor
  · rintro ⟨given, _, rfl, rfl, rfl⟩
    rfl
  · rintro rfl
    exact ⟨reply, [], rfl, rfl, rfl⟩

@[simp]
theorem course_report_iff {event : Event} {asked : List Asked} {result : Unit} :
    (Plan.report event).Course asked result ↔ asked = [⟨.report event, ()⟩] := by
  constructor
  · rintro ⟨given, _, rfl, rfl, rfl⟩
    rfl
  · rintro rfl
    exact ⟨(), [], rfl, rfl, rfl⟩

end Plan

namespace Attempt

open Plan

variable {asked : List Asked}

theorem course_bind_iff {first : Attempt α} {rest : α → Attempt β}
    {result : Except AccessError β} :
    (first >>= rest).run.Course asked result ↔
      (∃ problem, result = .error problem ∧ first.run.Course asked (.error problem)) ∨
        ∃ before middle more, asked = before ++ more ∧ first.run.Course before (.ok middle) ∧
          (rest middle).run.Course more result := by
  change (first.run >>= ExceptT.bindCont rest).Course asked result ↔ _
  rw [Plan.course_bind_iff]
  constructor
  · rintro ⟨before, middle, more, rfl, start, further⟩
    cases middle with
    | ok middle => exact .inr ⟨before, middle, more, rfl, start, further⟩
    | error problem =>
        obtain ⟨rfl, rfl⟩ := further
        exact .inl ⟨problem, rfl, by rwa [List.append_nil]⟩
  · rintro (⟨problem, rfl, start⟩ | ⟨before, middle, more, rfl, start, further⟩)
    · exact ⟨asked, .error problem, [], (List.append_nil asked).symm, start, rfl, rfl⟩
    · exact ⟨before, .ok middle, more, rfl, start, further⟩

@[simp]
theorem course_pure_iff {given : α} {result : Except AccessError α} :
    (pure given : Attempt α).run.Course asked result ↔ asked = [] ∧ result = .ok given :=
  Iff.rfl

@[simp]
theorem course_store_iff {query : StoreQuery} {reply : query.Reply} :
    (Attempt.store query).run.Course asked reply ↔ asked = [⟨.store query, reply⟩] := by
  constructor
  · rintro ⟨given, _, rfl, rfl, rfl⟩
    rfl
  · rintro rfl
    exact ⟨reply, [], rfl, rfl, rfl⟩

theorem course_lift_bind_iff {plan : Plan α} {rest : α → Attempt β}
    {result : Except AccessError β} :
    (liftM plan >>= rest : Attempt β).run.Course asked result ↔
      ∃ before middle more, asked = before ++ more ∧ plan.Course before middle ∧
        (rest middle).run.Course more result := by
  rw [run_lift_bind]
  exact Plan.course_bind_iff

theorem course_store_bind_iff {query : StoreQuery} {rest : query.Answer → Attempt β}
    {result : Except AccessError β} :
    (Attempt.store query >>= rest).run.Course asked result ↔
      (∃ problem, result = .error problem ∧ asked = [⟨.store query, .error problem⟩]) ∨
        ∃ answer more, asked = ⟨.store query, .ok answer⟩ :: more ∧
          (rest answer).run.Course more result := by
  simp only [course_bind_iff, course_store_iff]
  constructor
  · rintro (failed | ⟨_, answer, more, rfl, rfl, further⟩)
    · exact .inl failed
    · exact .inr ⟨answer, more, rfl, further⟩
  · rintro (failed | ⟨answer, more, rfl, further⟩)
    · exact .inl failed
    · exact .inr ⟨_, answer, more, rfl, rfl, further⟩

theorem course_store_bind_ok_iff {query : StoreQuery} {rest : query.Answer → Attempt β}
    {given : β} :
    (Attempt.store query >>= rest).run.Course asked (.ok given) ↔
      ∃ answer more, asked = ⟨.store query, .ok answer⟩ :: more ∧
        (rest answer).run.Course more (.ok given) := by
  rw [course_store_bind_iff]
  simp only [reduceCtorEq, false_and, exists_false, false_or]

end Attempt

end ChannelAccess
