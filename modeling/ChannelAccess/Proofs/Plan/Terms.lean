import ChannelAccess.Plan

/-!
# Plans that keep terms

A plan that is taken one request at a time, with others in between, is not run on any
one state, so what is known of it is what it asks and what the replies let it conclude.
Terms say which requests a plan may make and which replies it can count on. A plan keeps
terms if it makes no other requests and, as long as the replies are among those
expected, comes to a result that is wanted.
-/

namespace ChannelAccess

set_option autoImplicit false

structure Terms where
  may : Request → Prop
  expects : (request : Request) → request.Reply → Prop

namespace Plan

variable {α β : Type} {terms : Terms}

def Keeps (terms : Terms) (wanted : α → Prop) : Plan α → Prop
  | .done result => wanted result
  | .ask request next =>
      terms.may request ∧
        ∀ reply, terms.expects request reply → (next reply).Keeps terms wanted

/-- Whatever the replies are, the plan makes a request before it ends. -/
def Owes (wanted : Request) : Plan α → Prop
  | .done _ => False
  | .ask request next => request = wanted ∨ ∀ reply, (next reply).Owes wanted

theorem keeps_bind {first : Plan α} {rest : α → Plan β} {wanted : β → Prop}
    (start : first.Keeps terms fun middle => (rest middle).Keeps terms wanted) :
    (first >>= rest).Keeps terms wanted := by
  induction first with
  | done middle => exact start
  | ask request next ih =>
      obtain ⟨allowed, further⟩ := start
      exact ⟨allowed, fun reply expected => ih reply (further reply expected)⟩

theorem keeps_weaken {plan : Plan α} {wanted weaker : α → Prop}
    (keeps : plan.Keeps terms wanted) (implies : ∀ result, wanted result → weaker result) :
    plan.Keeps terms weaker := by
  induction plan with
  | done result => exact implies result keeps
  | ask request next ih =>
      exact ⟨keeps.1, fun reply expected => ih reply (keeps.2 reply expected)⟩

theorem owes_bind {wanted : Request} {first : Plan α} {rest : α → Plan β}
    (owes : first.Owes wanted ∨ ∀ middle, (rest middle).Owes wanted) :
    (first >>= rest).Owes wanted := by
  induction first with
  | done middle =>
      rcases owes with never | later
      · exact never.elim
      · exact later middle
  | ask request next ih =>
      rcases owes with (here | later) | afterwards
      · exact .inl here
      · exact .inr fun reply => ih reply (.inl (later reply))
      · exact .inr fun reply => ih reply (.inr afterwards)

end Plan

namespace Attempt

open Plan

variable {α β : Type} {terms : Terms}

/-- An attempt that fails keeps terms if its error is wanted of the whole. -/
theorem keeps_bind {first : Attempt α} {rest : α → Attempt β}
    {middle : Except AccessError α → Prop} {wanted : Except AccessError β → Prop}
    (start : first.run.Keeps terms middle)
    (further : ∀ given, middle (.ok given) → (rest given).run.Keeps terms wanted)
    (failed : ∀ problem, middle (.error problem) → wanted (.error problem)) :
    (first >>= rest).run.Keeps terms wanted := by
  change (first.run >>= ExceptT.bindCont rest).Keeps terms wanted
  apply Plan.keeps_bind
  apply keeps_weaken start
  intro result held
  cases result with
  | ok given => exact further given held
  | error problem => exact failed problem held

theorem keeps_store {query : StoreQuery} {wanted : query.Reply → Prop}
    (allowed : terms.may (.store query))
    (replies : ∀ reply, terms.expects (.store query) reply → wanted reply) :
    (Attempt.store query).run.Keeps terms wanted :=
  ⟨allowed, replies⟩

theorem run_lift_bind (plan : Plan α) (rest : α → Attempt β) :
    (liftM plan >>= rest : Attempt β).run = plan >>= fun given => (rest given).run := by
  change (plan >>= fun given => pure (Except.ok given)) >>= ExceptT.bindCont rest = _
  rw [bind_assoc]
  rfl

theorem keeps_lift {plan : Plan α} {rest : α → Attempt β} {wanted : Except AccessError β → Prop}
    (keeps : plan.Keeps terms fun given => (rest given).run.Keeps terms wanted) :
    (liftM plan >>= rest : Attempt β).run.Keeps terms wanted := by
  rw [run_lift_bind]
  exact Plan.keeps_bind keeps

end Attempt

end ChannelAccess
