import ChannelAccess.Connection
import ChannelAccess.Directory
import ChannelAccess.Service
import ChannelAccess.Tables.Reading

/-!
# Deployments

A store, a cache and possibly a queue that together reply to the requests of the service, with a
record of all requests made. An outage makes chosen requests fail without reaching their side.
-/

namespace ChannelAccess

set_option autoImplicit false

inductive StoreState where
  | inMemory (directory : Directory)
  | database (tables : Tables)

def StoreState.reply (query : StoreQuery) : StoreState → query.Reply × StoreState
  | .inMemory directory =>
      let (answer, directory) := directory.reply query
      (answer, .inMemory directory)
  | .database tables =>
      let (answer, tables) := tables.reply query
      (answer, .database tables)

structure Outage where
  store : StoreQuery → Bool
  cache : CacheQuery → Bool

namespace Outage

def none : Outage :=
  ⟨fun _ => false, fun _ => false⟩

def storeProblem : AccessError :=
  .storage (.stated "connection refused")

def cacheProblem : CacheError :=
  .malformed "cache unavailable"

end Outage

structure Deployment where
  store : StoreState
  cache : CacheState
  queue : Option Queue
  outage : Outage
  /-- All requests made so far, oldest first. -/
  record : List Request

namespace Deployment

/-- How invalidations reach the cache: through the queue if there is one. -/
def delivery (deployment : Deployment) : Delivery :=
  if deployment.queue.isSome then .queued else .inline

def replyStore (query : StoreQuery) (deployment : Deployment) : query.Reply × Deployment :=
  if deployment.outage.store query then (.error Outage.storeProblem, deployment)
  else
    let (answer, store) := deployment.store.reply query
    (answer, { deployment with store := store })

def replyCache (query : CacheQuery) (deployment : Deployment) : query.Reply × Deployment :=
  if deployment.outage.cache query then (.error Outage.cacheProblem, deployment)
  else
    let (answer, cache) := deployment.cache.reply query
    (answer, { deployment with cache := cache })

def replyQueue (scope : Invalidation) (deployment : Deployment) :
    Except QueueRefusal Unit × Deployment :=
  match deployment.queue with
  | none => (.error .stopped, deployment)
  | some queue =>
      let (answer, queue) := queue.offer scope
      (answer, { deployment with queue := some queue })

def answer : Plan.Answerer Deployment
  | request, deployment =>
      let noted := { deployment with record := deployment.record ++ [request] }
      match request with
      | .store query => noted.replyStore query
      | .cache query => noted.replyCache query
      | .enqueue scope => noted.replyQueue scope
      | .report _ => ((), noted)

def carryOut {α : Type} (deployment : Deployment) (plan : Plan α) : α × Deployment :=
  plan.run answer deployment

/-- The deployment after its worker has taken everything that is queued. -/
def drain (deployment : Deployment) : Deployment :=
  match deployment.queue with
  | none => deployment
  | some queue =>
      let emptied := { deployment with queue := some { queue with pending := [] } }
      (emptied.carryOut (Queue.work queue.pending)).2

def abort (deployment : Deployment) : Deployment :=
  { deployment with queue := deployment.queue.map Queue.abort }

def forget (deployment : Deployment) : Deployment :=
  { deployment with record := [] }

def events (deployment : Deployment) : List Event :=
  deployment.record.filterMap fun
    | .report event => some event
    | _ => none

end Deployment

end ChannelAccess
