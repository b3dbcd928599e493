import ChannelAccess.Cache.Basic
import ChannelAccess.Error

/-!
# Log events

The warnings and errors that operators see. A cache that fails is reported and never fails a
request.
-/

namespace ChannelAccess

set_option autoImplicit false

inductive Severity where
  | warning
  | error
deriving DecidableEq

def Severity.label : Severity → String
  | .warning => "WARN"
  | .error => "ERROR"

inductive QueueRefusal where
  | full
  | stopped
deriving DecidableEq

inductive Event where
  | readFailed (problem : CacheError)
  | writeFailed (problem : CacheError)
  | batchReadFailed (problem : CacheError)
  | batchWriteFailed (problem : CacheError)
  /-- Cached permissions could not be dropped. -/
  | dropFailed (scope : Invalidation) (problem : CacheError)
  /-- The queue did not take an invalidation. -/
  | notQueued (reason : QueueRefusal) (dropped : Invalidation)
  | overlapping (override : Uuid) (overlap : Mask)
  | localCache
  | storageFailed (failure : StorageFailure)
deriving DecidableEq

namespace Event

/-- How serious an event is: only a storage failure is an error. -/
def severity : Event → Severity
  | .storageFailed _ => .error
  | _ => .warning

def message : Event → String
  | .readFailed _ => "Permission cache read failed"
  | .writeFailed _ => "Permission cache write failed"
  | .batchReadFailed _ => "Permission cache batch read failed"
  | .batchWriteFailed _ => "Permission cache batch write failed"
  | .dropFailed .all _ => "Failed to invalidate all cached permissions"
  | .dropFailed (.ofChannel _) _ => "Failed to invalidate channel permissions"
  | .dropFailed (.ofUser _) _ => "Failed to invalidate user permissions"
  | .dropFailed (.ofEntry _ _) _ => "Failed to invalidate cached permission entry"
  | .notQueued .full _ => "Invalidation queue full, dropping"
  | .notQueued .stopped _ => "Invalidation worker stopped, dropping"
  | .overlapping _ _ => "Override both allows and denies the same bits; allow takes effect"
  | .localCache => "Using in-process permission cache; invalidations stay local"
  | .storageFailed _ => "Permission storage failure"

def details : Event → List (String × String)
  | .readFailed problem => [("error", problem.message)]
  | .writeFailed problem => [("error", problem.message)]
  | .batchReadFailed problem => [("error", problem.message)]
  | .batchWriteFailed problem => [("error", problem.message)]
  | .dropFailed _ problem => [("error", problem.message)]
  | .notQueued _ dropped => [("dropped", dropped.description)]
  | .overlapping override overlap =>
      [("override_id", override.text), ("overlap", toString overlap.toNat)]
  | .localCache => []
  | .storageFailed failure => [("error", failure.message)]

def toJson (event : Event) : Json :=
  .object (("level", .text event.severity.label) :: ("message", .text event.message) ::
    event.details.map fun (name, value) => (name, .text value))

end Event

end ChannelAccess
