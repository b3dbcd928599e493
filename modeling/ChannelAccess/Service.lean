import ChannelAccess.Queue
import ChannelAccess.Resolver

/-!
# The service

What handlers call: checks that fail with the missing permission, edits of overrides, and the
dropping of cached permissions after a change. An edit of an override drops the channel at once, so
that whoever made it sees it on the next read. All other drops wait in the queue where one is
attached.
-/

namespace ChannelAccess

set_option autoImplicit false

inductive Delivery where
  | inline
  | queued
deriving DecidableEq

namespace Service

/-- The mask of a user in a channel, required to share a permission with the given one. -/
def requirePermission (user : UserId) (channel : ChannelId) (permission : Mask) :
    Attempt Mask := do
  let mask ← Resolver.resolve user channel
  if mask.grants permission then return mask
  else throw (.missingPermission permission)

def reportOverlap (row : Override) : Plan Unit :=
  if row.overlap.isEmpty then return () else Plan.report (.overlapping row.id row.overlap)

/-- Creates or replaces an override without reserved permissions, then drops its channel from the
cache. -/
def setOverride (channel : ChannelId) (principal : Principal) (allow deny : Mask) :
    Attempt Override := do
  let allow ← ExceptT.mk (pure allow.validated)
  let deny ← ExceptT.mk (pure deny.validated)
  let row ← Attempt.store (.setOverride channel principal allow deny)
  reportOverlap row
  Publisher.apply (.ofChannel channel)
  return row

def deleteOverride (channel : ChannelId) (principal : Principal) : Attempt Unit := do
  Attempt.store (.deleteOverride channel principal)
  Publisher.apply (.ofChannel channel)

def listOverrides (channel : ChannelId) : Attempt (List Override) :=
  Attempt.store (.listOverrides channel)

def applyChange (delivery : Delivery) (change : Change) : Plan Unit :=
  match delivery with
  | .inline => Publisher.applyChange change
  | .queued => do
      let _ ← Queue.publishChange change
      return ()

def invalidate (delivery : Delivery) (scope : Invalidation) : Plan Unit :=
  match delivery with
  | .inline => Publisher.apply scope
  | .queued => do
      let _ ← Queue.publish scope
      return ()

end Service

end ChannelAccess
