import ChannelAccess.Event
import ChannelAccess.Store

/-!
# Plans

The service acts by making requests: to the store, to the cache, to the queue of invalidations and
to the log. A plan is a computation that stops at each request and goes on with its reply. What the
service does is written as plans once; running a plan against replies computed from a state gives
its effect in one go, and taking it one request at a time gives every interleaving with others.
-/

namespace ChannelAccess

set_option autoImplicit false

inductive Request where
  | store (query : StoreQuery)
  | cache (query : CacheQuery)
  | enqueue (scope : Invalidation)
  | report (event : Event)

abbrev Request.Reply : Request → Type
  | .store query => query.Reply
  | .cache query => query.Reply
  | .enqueue _ => Except QueueRefusal Unit
  | .report _ => Unit

inductive Plan (α : Type) where
  | done (result : α)
  | ask (request : Request) (next : request.Reply → Plan α)

namespace Plan

variable {α β : Type}

def andThen : Plan α → (α → Plan β) → Plan β
  | .done result, rest => rest result
  | .ask request next, rest => .ask request fun reply => (next reply).andThen rest

instance : Monad Plan where
  pure := .done
  bind := andThen

def request (wanted : Request) : Plan wanted.Reply :=
  .ask wanted .done

def store (query : StoreQuery) : Plan query.Reply :=
  request (.store query)

def cache (query : CacheQuery) : Plan query.Reply :=
  request (.cache query)

def report (event : Event) : Plan Unit :=
  request (.report event)

/-- Replies to requests from a state, which they may change. -/
abbrev Answerer (σ : Type) := (request : Request) → σ → request.Reply × σ

def run {σ : Type} (answer : Answerer σ) : Plan α → σ → α × σ
  | .done result, state => (result, state)
  | .ask request next, state =>
      let (reply, after) := answer request state
      (next reply).run answer after

@[simp]
theorem pure_eq (result : α) : (pure result : Plan α) = .done result := rfl

@[simp]
theorem bind_done (result : α) (rest : α → Plan β) :
    (Plan.done result >>= rest) = rest result := rfl

@[simp]
theorem bind_ask (wanted : Request) (next : wanted.Reply → Plan α) (rest : α → Plan β) :
    (Plan.ask wanted next >>= rest) = .ask wanted fun reply => next reply >>= rest := rfl

@[simp]
theorem run_done {σ : Type} (answer : Answerer σ) (result : α) (state : σ) :
    (Plan.done result).run answer state = (result, state) := rfl

@[simp]
theorem run_ask {σ : Type} (answer : Answerer σ) (wanted : Request)
    (next : wanted.Reply → Plan α) (state : σ) :
    (Plan.ask wanted next).run answer state =
      (next (answer wanted state).1).run answer (answer wanted state).2 := rfl

theorem run_bind {σ : Type} (answer : Answerer σ) (first : Plan α) (rest : α → Plan β)
    (state : σ) :
    (first >>= rest).run answer state =
      (rest (first.run answer state).1).run answer (first.run answer state).2 := by
  induction first generalizing state with
  | done result => rfl
  | ask wanted next ih =>
      simp only [bind_ask, run_ask]
      exact ih _ _

private theorem id_map_plan (plan : Plan α) : id <$> plan = plan := by
  induction plan with
  | done result => rfl
  | ask wanted next ih => exact congrArg (Plan.ask wanted) (funext ih)

private theorem bind_assoc_plan {γ : Type} (plan : Plan α) (first : α → Plan β)
    (second : β → Plan γ) :
    plan >>= first >>= second = plan >>= fun result => first result >>= second := by
  induction plan with
  | done result => rfl
  | ask wanted next ih => exact congrArg (Plan.ask wanted) (funext ih)

instance : LawfulMonad Plan :=
  LawfulMonad.mk' Plan id_map_plan (fun _ _ => rfl) bind_assoc_plan

end Plan

abbrev Attempt (α : Type) := ExceptT AccessError Plan α

def Attempt.store (query : StoreQuery) : Attempt query.Answer :=
  ExceptT.mk (Plan.store query)

end ChannelAccess
