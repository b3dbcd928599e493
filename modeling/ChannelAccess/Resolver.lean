import ChannelAccess.Effective
import ChannelAccess.Plan

/-!
# Resolving permissions

How effective permissions are found: from the cache if it has them, otherwise from the store, after
which the cache is told. A cache that fails is reported and counts as empty; a store that fails
makes the whole attempt fail before anything is written. Filters judge many channels of one user, or
many users of one channel, with one round trip per kind of query however long the list.
-/

namespace ChannelAccess

set_option autoImplicit false

/-- The identifiers of a list that a map does not have and that are not among those already seen,
each once and where it first occurs. -/
def missesAfter {α : Type} (hits : IdMap α) (seen : List Uuid) : List Uuid → List Uuid
  | [] => []
  | id :: rest =>
      if hits.contains id || seen.contains id then missesAfter hits seen rest
      else id :: missesAfter hits (id :: seen) rest

def uniqueMisses {α : Type} (hits : IdMap α) (ids : List Uuid) : List Uuid :=
  missesAfter hits [] ids

/-- Takes the rows filed under each identifier out of a map in turn and computes a value from them.
An identifier without rows, or one whose rows were already taken, gets none. -/
def drawEach {α β : Type} (compute : Uuid → List α → β) :
    List Uuid → IdMap (List α) → List (Uuid × β)
  | [], _ => []
  | id :: rest, filed =>
      (id, compute id (filed[id]?.getD [])) :: drawEach compute rest (filed.erase id)

namespace Resolver

def lookUp (user : UserId) (channel : ChannelId) : Plan (Option Mask) := do
  match ← Plan.cache (.get user channel) with
  | .ok found => return found
  | .error problem =>
      Plan.report (.readFailed problem)
      return none

def remember (user : UserId) (channel : ChannelId) (mask : Mask) : Plan Unit := do
  match ← Plan.cache (.set user channel mask) with
  | .ok () => return ()
  | .error problem => Plan.report (.writeFailed problem)

def compute (user : UserId) (channel : ChannelId) : Attempt Mask := do
  let _ ← Attempt.store (.channel channel)
  let owns : Bool ← Attempt.store (.isOwner user)
  if owns then
    return .all
  else
    let grants ← Attempt.store (.grants user)
    let overrides ← Attempt.store (.overrides channel)
    return effectivePermissions user false grants overrides

def resolve (user : UserId) (channel : ChannelId) : Attempt Mask := do
  match ← lookUp user channel with
  | some mask => return mask
  | none =>
      let mask ← compute user channel
      remember user channel mask
      return mask

def hasPermission (user : UserId) (channel : ChannelId) (permission : Mask) : Attempt Bool := do
  let mask ← resolve user channel
  return mask.grants permission

/-- The hits of a batched read, none if it failed. -/
def hitsOf (reply : Except CacheError (IdMap Mask)) : Plan (IdMap Mask) :=
  match reply with
  | .ok hits => return hits
  | .error problem => do
      Plan.report (.batchReadFailed problem)
      return ∅

def batchWritten (reply : Except CacheError Unit) : Plan Unit :=
  match reply with
  | .ok () => return ()
  | .error problem => Plan.report (.batchWriteFailed problem)

/-- Whether each identifier of a list is granted a permission, from the cached masks and from
computed ones for the identifiers that are not cached. An identifier without a mask is granted
nothing. -/
def judge (ids : List Uuid) (permission : Mask) (hits : IdMap Mask)
    (computeMissing : List Uuid → Attempt (IdMap Mask)) (rememberAll : IdMap Mask → Plan Unit) :
    Attempt (List Bool) := do
  let missing := uniqueMisses hits ids
  let resolved ←
    if missing.isEmpty then pure hits
    else do
      let computed ← computeMissing missing
      rememberAll computed
      pure (hits.overlay computed)
  return ids.map fun id =>
    match resolved[id]? with
    | some mask => mask.grants permission
    | none => false

/-- The masks of a user in those of some channels that exist. -/
def computeChannels (user : UserId) (channels : List ChannelId) : Attempt (IdMap Mask) := do
  let known : IdMap Channel ← Attempt.store (.channelMany channels)
  let owns : Bool ← Attempt.store (.isOwner user)
  let existing := channels.filter fun channel => known.contains channel
  if existing.isEmpty then
    return ∅
  else if owns then
    return IdMap.ofEntries (existing.map fun channel => (channel, Mask.all))
  else
    let grants ← Attempt.store (.grants user)
    let overrides ← Attempt.store (.overridesMany existing)
    return IdMap.ofEntries
      (drawEach (fun _ rows => effectivePermissions user false grants rows) existing overrides)

def computeUsers (users : List UserId) (channel : ChannelId) : Attempt (IdMap Mask) := do
  let _ ← Attempt.store (.channel channel)
  let overrides ← Attempt.store (.overrides channel)
  let owner : Option UserId ← Attempt.store .owner
  let grants ← Attempt.store (.grantsMany users)
  return IdMap.ofEntries
    (drawEach (fun user rows => effectivePermissions user (owner == some user) rows overrides)
      users grants)

def filterPermitted (user : UserId) (channels : List ChannelId) (permission : Mask) :
    Attempt (List Bool) := do
  if channels.isEmpty then
    return []
  else
    let hits ← hitsOf (← Plan.cache (.getMany user channels))
    judge channels permission hits (computeChannels user) fun computed => do
      if computed.isEmpty then return ()
      else batchWritten (← Plan.cache (.setMany user computed))

def filterUsersPermitted (users : List UserId) (channel : ChannelId) (permission : Mask) :
    Attempt (List Bool) := do
  if users.isEmpty then
    return []
  else
    let hits ← hitsOf (← Plan.cache (.getManyUsers channel users))
    judge users permission hits (fun missing => computeUsers missing channel) fun computed => do
      batchWritten (← Plan.cache (.setManyUsers channel computed))

end Resolver

end ChannelAccess
