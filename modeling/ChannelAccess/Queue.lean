import ChannelAccess.Plan

/-!
# Dropping cached permissions

Invalidations are applied at once by the publisher, or wait in a bounded queue for a worker. The
queue never blocks: an invalidation that finds no place is reported and lost. The worker takes up to
64 invalidations at a time, merges them and applies what is left.
-/

namespace ChannelAccess

set_option autoImplicit false

namespace Publisher

/-- Drops a scope from the cache. A failure is reported and has no other effect. -/
def apply (scope : Invalidation) : Plan Unit := do
  match (← Plan.cache (.drop scope) : Except CacheError _) with
  | .ok _ => return ()
  | .error problem => Plan.report (.dropFailed scope problem)

def applyAll : List Invalidation → Plan Unit
  | [] => return ()
  | scope :: rest => do
      apply scope
      applyAll rest

def applyChange (change : Change) : Plan Unit :=
  applyAll change.invalidations

end Publisher

inductive Worker where
  | running
  | aborted
deriving DecidableEq

structure Queue where
  capacity : Nat
  /-- The invalidations that wait, oldest first. -/
  pending : List Invalidation
  worker : Worker
deriving DecidableEq

namespace Queue

def mostPlaces : Nat := (Nat.pow 2 64 - 1) / 8

def batchSize : Nat := 64

/-- An empty queue with a running worker. It has at least one place; more places than a queue can
have are refused, which no configuration rules out. -/
def start? (capacity : Nat) : Option Queue :=
  if capacity ≤ mostPlaces then some ⟨max capacity 1, [], .running⟩ else none

def offer (queue : Queue) (scope : Invalidation) : Except QueueRefusal Unit × Queue :=
  match queue.worker with
  | .aborted => (.error .stopped, queue)
  | .running =>
      if queue.pending.length < queue.capacity then
        (.ok (), { queue with pending := queue.pending ++ [scope] })
      else (.error .full, queue)

def take (queue : Queue) : List Invalidation × Queue :=
  (queue.pending.take batchSize, { queue with pending := queue.pending.drop batchSize })

/-- The queue after its worker was killed. What waited is lost. -/
def abort (queue : Queue) : Queue :=
  { queue with pending := [], worker := .aborted }

def batches (pending : List Invalidation) : List (List Invalidation) :=
  match pending with
  | [] => []
  | scope :: rest => (scope :: rest).take batchSize :: batches ((scope :: rest).drop batchSize)
termination_by pending.length
decreasing_by
  rw [List.length_drop, List.length_cons]
  exact Nat.sub_lt (Nat.succ_pos _) (by decide)

def work (pending : List Invalidation) : Plan Unit :=
  Publisher.applyAll ((batches pending).flatMap Invalidation.coalesce)

def publish (scope : Invalidation) : Plan Bool := do
  match ← Plan.request (.enqueue scope) with
  | .ok () => return true
  | .error reason =>
      Plan.report (.notQueued reason scope)
      return false

/-- Offers several invalidations, each whether or not the ones before it were taken. -/
def publishAll : List Invalidation → Plan Bool
  | [] => return true
  | scope :: rest => do
      let taken ← publish scope
      let others ← publishAll rest
      return taken && others

def publishChange (change : Change) : Plan Bool :=
  publishAll change.invalidations

end Queue

end ChannelAccess
