import ChannelAccess.Proofs.Invalidation.Coalescing
import ChannelAccess.Proofs.Resolver.Course
import ChannelAccess.Proofs.Service.World

/-!
# Tasks side by side

Any number of resolves and mutations that go on at the same time, on one store and one
cache. A task is a plan that has been taken up and what is left of it. Each request is
made and answered as a whole; between two requests of a task, others may make theirs. A
mutation persists its change in one step, and drops what it makes stale in later ones.
What the tasks have done is noted in the order in which it happened.
-/

namespace ChannelAccess

set_option autoImplicit false

inductive Mutation where
  | setOverride (channel : ChannelId) (principal : Principal) (allow deny : Mask)
  | deleteOverride (channel : ChannelId) (principal : Principal)
  /-- What is left to do about a change that others have made to the store. -/
  | applyChange (change : Change)

/-- What a mutation does. What it comes to is not looked at. -/
def Mutation.plan : Mutation → Plan Unit
  | .setOverride channel principal allow deny => do
      let _ ← (Service.setOverride channel principal allow deny).run
      return ()
  | .deleteOverride channel principal => do
      let _ ← (Service.deleteOverride channel principal).run
      return ()
  | .applyChange change => Service.applyChange .inline change

inductive Errand where
  | resolve (order : ReadOrder) (user : UserId) (channel : ChannelId)
  | mutate (mutation : Mutation)

namespace Errand

abbrev Result : Errand → Type
  | .resolve _ _ _ => Except AccessError Mask
  | .mutate _ => Unit

def plan : (errand : Errand) → Plan errand.Result
  | .resolve order user channel => (Resolver.resolveInOrder order user channel).run
  | .mutate mutation => mutation.plan

end Errand

structure Task where
  errand : Errand
  rest : Plan errand.Result

inductive Act where
  | asked (request : Request)
  | persisted (change : Change)

/-- What a request counts as. An edit that the store has made is the change that it persists. -/
def Act.of : (request : Request) → request.Reply → Act
  | .store (.setOverride channel _ _ _), .ok _ => .persisted (.channelOverrides channel)
  | .store (.deleteOverride channel _), .ok _ => .persisted (.channelOverrides channel)
  | request, _ => .asked request

structure Deed where
  /-- The number of the task that did it. -/
  task : Nat
  act : Act

structure BusyWorld (σ : Type) where
  world : World σ
  /-- All tasks so far, those that are done included. -/
  tasks : List Task
  /-- What they have done, oldest first. -/
  deeds : List Deed

namespace BusyWorld

variable {σ : Type}

def accept (errand : Errand) (state : BusyWorld σ) : BusyWorld σ :=
  { state with tasks := state.tasks ++ [⟨errand, errand.plan⟩] }

/-- The store as others have changed it, and the task to drop what the change makes stale. -/
def persist (change : Change) (store : σ) (state : BusyWorld σ) : BusyWorld σ where
  world := { state.world with store := store }
  tasks := state.tasks ++ [⟨.mutate (.applyChange change), (Mutation.applyChange change).plan⟩]
  deeds := state.deeds ++ [⟨state.tasks.length, .persisted change⟩]

def grant (reply : StoreReply σ) (number : Nat) (errand : Errand) (request : Request)
    (next : request.Reply → Plan errand.Result) (state : BusyWorld σ) : BusyWorld σ where
  world := (World.answer reply request state.world).2
  tasks := state.tasks.set number ⟨errand, next (World.answer reply request state.world).1⟩
  deeds := state.deeds ++ [⟨number, .of request (World.answer reply request state.world).1⟩]

def proceed (reply : StoreReply σ) (number : Nat) (state : BusyWorld σ) : BusyWorld σ :=
  match state.tasks[number]? with
  | some ⟨errand, .ask request next⟩ => state.grant reply number errand request next
  | _ => state

def proceedAll (reply : StoreReply σ) (numbers : List Nat) (state : BusyWorld σ) : BusyWorld σ :=
  numbers.foldl (fun state number => state.proceed reply number) state

def wait (micros : Nat) (state : BusyWorld σ) : BusyWorld σ :=
  { state with world := { state.world with cache := state.world.cache.advance micros } }

inductive Turn (reply : StoreReply σ) (facts : σ → Facts) (state : BusyWorld σ) :
    BusyWorld σ → Prop where
  | accept (errand : Errand) : Turn reply facts state (state.accept errand)
  | persist (change : Change) (store : σ)
      (permitted : change.Permits (facts state.world.store) (facts store)) :
      Turn reply facts state (state.persist change store)
  | proceed (number : Nat) : Turn reply facts state (state.proceed reply number)
  | wait (micros : Nat) : Turn reply facts state (state.wait micros)

inductive Visited (reply : StoreReply σ) (facts : σ → Facts) : BusyWorld σ → Prop where
  | start (store : σ) (cache : CacheState) (unused : cache.Unused) :
      Visited reply facts ⟨⟨store, cache, none⟩, [], []⟩
  | next {state after : BusyWorld σ} (visited : Visited reply facts state)
      (turn : Turn reply facts state after) : Visited reply facts after

variable {reply : StoreReply σ} {facts : σ → Facts} {state : BusyWorld σ}

theorem proceed_cases (reply : StoreReply σ) (number : Nat) (state : BusyWorld σ) :
    state.proceed reply number = state ∨
      ∃ errand request next, state.tasks[number]? = some ⟨errand, .ask request next⟩ ∧
        state.proceed reply number = state.grant reply number errand request next := by
  unfold proceed
  split
  case h_1 errand request next found => exact .inr ⟨errand, request, next, found, rfl⟩
  case h_2 => exact .inl rfl

theorem visited_proceed_all (numbers : List Nat) (visited : Visited reply facts state) :
    Visited reply facts (state.proceedAll reply numbers) := by
  induction numbers generalizing state with
  | nil => exact visited
  | cons number rest ih => exact ih (visited.next (.proceed number))

/-- A task that proceeds to its end with no other in between does what its plan does when it is run
at once. -/
theorem proceed_all_alone {number : Nat} {errand : Errand} {rest : Plan errand.Result}
    (found : state.tasks[number]? = some ⟨errand, rest⟩) :
    ∃ count more, state.proceedAll reply (List.replicate count number) =
      ⟨(state.world.carryOut reply rest).2,
        state.tasks.set number ⟨errand, .done (state.world.carryOut reply rest).1⟩,
        state.deeds ++ more⟩ := by
  induction rest generalizing state with
  | done result =>
      refine ⟨0, [], ?_⟩
      obtain ⟨bound, here⟩ := List.getElem?_eq_some_iff.mp found
      rw [List.append_nil, World.carryOut, Plan.run_done, ← here, List.set_getElem_self]
      rfl
  | ask request next ih =>
      obtain ⟨bound, _⟩ := List.getElem?_eq_some_iff.mp found
      have first : state.proceed reply number = state.grant reply number errand request next := by
        rw [proceed, found]
      have remains : (state.grant reply number errand request next).tasks[number]? =
          some ⟨errand, next (World.answer reply request state.world).1⟩ :=
        List.getElem?_set_self bound
      obtain ⟨count, more, reached⟩ := ih _ remains
      refine ⟨count + 1,
        ⟨number, .of request (World.answer reply request state.world).1⟩ :: more, ?_⟩
      rw [List.replicate_succ, proceedAll, List.foldl_cons, ← proceedAll, first, reached]
      simp [grant, World.carryOut]

end BusyWorld

end ChannelAccess
