import ChannelAccess.Queue

/-!
# The traffic of a queue

A queue with any number of senders and its worker, all of which go on at the same time. A call of a
sender is a plan that is taken one request at a time; between two requests others may make theirs.
The worker takes up to 64 invalidations when it has nothing left to do, and drops what is left of
them after coalescing. The cache may answer its drops in any way. Once every sender is gone and
nothing waits the worker ends; it may be killed at any time.
-/

namespace ChannelAccess

set_option autoImplicit false

inductive Posting where
  | single (scope : Invalidation)
  /-- Everything that a change makes stale. -/
  | implied (change : Change)

namespace Posting

def scopes : Posting → List Invalidation
  | .single scope => [scope]
  | .implied change => change.invalidations

def plan : Posting → Plan Bool
  | .single scope => Queue.publish scope
  | .implied change => Queue.publishChange change

end Posting

structure Call where
  posting : Posting
  rest : Plan Bool

def Call.IsDone (call : Call) : Prop :=
  ∃ result, call.rest = .done result

inductive Traffic where
  /-- A call offered a scope to the queue, which took it or not. -/
  | offered (call : Nat) (scope : Invalidation) (taken : Bool)
  /-- The worker took a block of what waited. -/
  | received (block : List Invalidation)
  /-- The worker made a query to the cache. -/
  | asked (query : CacheQuery)

namespace Traffic

def accepted (history : List Traffic) : List Invalidation :=
  history.filterMap fun
    | .offered _ scope true => some scope
    | _ => none

def blocks (history : List Traffic) : List (List Invalidation) :=
  history.filterMap fun
    | .received block => some block
    | _ => none

def queries (history : List Traffic) : List CacheQuery :=
  history.filterMap fun
    | .asked query => some query
    | _ => none

/-- What a call has offered, with whether it was taken. -/
def offers (call : Nat) (history : List Traffic) : List (Invalidation × Bool) :=
  history.filterMap fun
    | .offered caller scope taken => if caller = call then some (scope, taken) else none
    | _ => none

end Traffic

structure BusyQueue where
  queue : Queue
  /-- All calls so far, those that are done included. -/
  calls : List Call
  /-- What the worker has left to do with the last block it took. -/
  rest : Plan Unit
  /-- Whether every sender is gone. -/
  closed : Bool
  /-- Whether the worker has ended by itself. -/
  finished : Bool
  /-- What has happened, oldest first. -/
  history : List Traffic

namespace BusyQueue

def Unbroken (state : BusyQueue) : Prop :=
  state.queue.worker = .running ∨ state.finished = true

def fresh (queue : Queue) : BusyQueue :=
  ⟨queue, [], .done (), false, false, []⟩

def offer (state : BusyQueue) (number : Nat) (posting : Posting) (scope : Invalidation)
    (next : Except QueueRefusal Unit → Plan Bool) : BusyQueue :=
  let reply := state.queue.offer scope
  { state with
    queue := reply.2
    calls := state.calls.set number ⟨posting, next reply.1⟩
    history := state.history ++ [.offered number scope reply.1.isOk] }

def receive (state : BusyQueue) (count : Nat) : BusyQueue :=
  let block := state.queue.pending.take count
  { state with
    queue := { state.queue with pending := state.queue.pending.drop count }
    rest := Publisher.applyAll (Invalidation.coalesce block)
    history := state.history ++ [.received block] }

inductive Step (state : BusyQueue) : BusyQueue → Prop where
  | call (posting : Posting) (isOpen : state.closed = false) :
      Step state { state with calls := state.calls ++ [⟨posting, posting.plan⟩] }
  | offer {number : Nat} {posting : Posting} {scope : Invalidation}
      {next : Except QueueRefusal Unit → Plan Bool}
      (asking : state.calls[number]? = some ⟨posting, .ask (.enqueue scope) next⟩) :
      Step state (state.offer number posting scope next)
  | report {number : Nat} {posting : Posting} {event : Event} {next : Unit → Plan Bool}
      (asking : state.calls[number]? = some ⟨posting, .ask (.report event) next⟩) :
      Step state { state with calls := state.calls.set number ⟨posting, next ()⟩ }
  | receive (count : Nat) (positive : 0 < count) (fits : count ≤ Queue.batchSize)
      (waiting : count ≤ state.queue.pending.length) (idle : state.rest = .done ())
      (running : state.queue.worker = .running) : Step state (state.receive count)
  /-- The cache replies to the worker, which goes on whatever the reply. -/
  | drop {query : CacheQuery} {next : query.Reply → Plan Unit}
      (asking : state.rest = .ask (.cache query) next) (reply : query.Reply) :
      Step state
        { state with rest := next reply, history := state.history ++ [.asked query] }
  | log {event : Event} {next : Unit → Plan Unit}
      (asking : state.rest = .ask (.report event) next) :
      Step state { state with rest := next () }
  | close (done : ∀ call ∈ state.calls, Call.IsDone call) : Step state { state with closed := true }
  /-- Nobody is left who could send, and nothing waits. -/
  | finish (closed : state.closed = true) (empty : state.queue.pending = [])
      (idle : state.rest = .done ()) (running : state.queue.worker = .running) :
      Step state { state with queue := state.queue.abort, finished := true }
  | abort : Step state { state with queue := state.queue.abort, rest := .done () }

inductive Reached (capacity : Nat) : BusyQueue → Prop where
  | start {queue : Queue} (started : Queue.start? capacity = some queue) :
      Reached capacity (fresh queue)
  | next {state after : BusyQueue} (reached : Reached capacity state) (step : Step state after) :
      Reached capacity after

end BusyQueue

/-- A plan that offers these scopes in turn, whatever becomes of each, and then returns whether all
were taken. It is given whether all were until now. -/
inductive Publishes : Plan Bool → List Invalidation → Bool → Prop where
  | done (all : Bool) : Publishes (.done all) [] all
  | offer {scope : Invalidation} {others : List Invalidation} {all : Bool}
      {next : Except QueueRefusal Unit → Plan Bool}
      (further : ∀ reply, Publishes (next reply) others (all && reply.isOk)) :
      Publishes (.ask (.enqueue scope) next) (scope :: others) all
  | report {event : Event} {scopes : List Invalidation} {all : Bool} {next : Unit → Plan Bool}
      (further : Publishes (next ()) scopes all) : Publishes (.ask (.report event) next) scopes all

/-- A plan that drops these scopes in turn, whatever the replies. -/
inductive Drops : Plan Unit → List Invalidation → Prop where
  | done : Drops (.done ()) []
  | drop {scope : Invalidation} {others : List Invalidation}
      {next : (CacheQuery.drop scope).Reply → Plan Unit}
      (further : ∀ reply, Drops (next reply) others) :
      Drops (.ask (.cache (.drop scope)) next) (scope :: others)
  | log {event : Event} {scopes : List Invalidation} {next : Unit → Plan Unit}
      (further : Drops (next ()) scopes) : Drops (.ask (.report event) next) scopes

namespace Queue

theorem publishes_publish_bind {scope : Invalidation} {others : List Invalidation} {all : Bool}
    {rest : Bool → Plan Bool} (further : ∀ taken, Publishes (rest taken) others (all && taken)) :
    Publishes (publish scope >>= rest) (scope :: others) all := by
  apply Publishes.offer
  intro reply
  cases reply with
  | ok _ => exact further true
  | error reason => exact .report (further false)

theorem publishes_publish_all_bind {scopes : List Invalidation} {all : Bool}
    {rest : Bool → Plan Bool} (further : ∀ taken, Publishes (rest taken) [] (all && taken)) :
    Publishes (publishAll scopes >>= rest) scopes all := by
  induction scopes generalizing all rest with
  | nil =>
      have all_taken := further true
      rwa [Bool.and_true] at all_taken
  | cons scope others ih =>
      have opened : publishAll (scope :: others) >>= rest =
          publish scope >>= fun taken =>
            publishAll others >>= fun later => rest (taken && later) := by
        simp only [publishAll, bind_assoc, pure_bind]
      rw [opened]
      apply publishes_publish_bind
      intro taken
      apply ih
      intro later
      rw [Bool.and_assoc]
      exact further (taken && later)

theorem publishes_plan (posting : Posting) : Publishes posting.plan posting.scopes true := by
  have returns (taken : Bool) : Publishes (pure taken) [] (true && taken) := by
    rw [Bool.true_and]
    exact .done taken
  cases posting with
  | single scope =>
      change Publishes (publish scope) [scope] true
      rw [← bind_pure (publish scope)]
      exact publishes_publish_bind returns
  | implied change =>
      change Publishes (publishAll change.invalidations) change.invalidations true
      rw [← bind_pure (publishAll change.invalidations)]
      exact publishes_publish_all_bind returns

end Queue

namespace Publisher

theorem drops_apply_bind {scope : Invalidation} {others : List Invalidation}
    {rest : Unit → Plan Unit} (further : Drops (rest ()) others) :
    Drops (apply scope >>= rest) (scope :: others) := by
  apply Drops.drop
  intro reply
  cases reply with
  | ok _ => exact further
  | error problem => exact .log further

theorem drops_apply_all (scopes : List Invalidation) : Drops (applyAll scopes) scopes := by
  induction scopes with
  | nil => exact .done
  | cons scope others ih => exact drops_apply_bind ih

end Publisher

end ChannelAccess
