import ChannelAccess.Uuid

/-!
# Invalidations

The scopes in which cached permissions can be dropped, the changes that make such drops necessary,
and the merging of a batch of drops into an equivalent shorter one.
-/

namespace ChannelAccess

set_option autoImplicit false

inductive Invalidation where
  | all
  | ofChannel (channel : ChannelId)
  | ofUser (user : UserId)
  | ofEntry (user : UserId) (channel : ChannelId)
deriving DecidableEq

namespace Invalidation

def covers : Invalidation → UserId → ChannelId → Bool
  | .all, _, _ => true
  | .ofChannel scope, _, channel => scope == channel
  | .ofUser scope, user, _ => scope == user
  | .ofEntry scopeUser scopeChannel, user, channel => scopeUser == user && scopeChannel == channel

def description : Invalidation → String
  | .all => "All"
  | .ofChannel channel => "Channel(" ++ channel.text ++ ")"
  | .ofUser user => "User(" ++ user.text ++ ")"
  | .ofEntry user channel =>
      "Entry \x7b user_id: " ++ user.text ++ ", channel_id: " ++ channel.text ++ " \x7d"

/-- Whether a wider scope of a batch, one for a user or a channel, makes a scope superfluous. -/
def absorbed (batch : List Invalidation) : Invalidation → Bool
  | .ofEntry user channel => batch.contains (.ofUser user) || batch.contains (.ofChannel channel)
  | _ => false

/-- The elements of a list that are not among those already seen, each once and where it first
occurs. -/
def firstOccurrences (seen : List Invalidation) : List Invalidation → List Invalidation
  | [] => []
  | scope :: rest =>
      if seen.contains scope then firstOccurrences seen rest
      else scope :: firstOccurrences (scope :: seen) rest

/-- A batch without scopes that others of the batch cover. -/
def coalesce (batch : List Invalidation) : List Invalidation :=
  if batch.contains .all then [.all]
  else firstOccurrences [] (batch.filter fun scope => !scope.absorbed batch)

end Invalidation

inductive Change where
  | roleStructure
  | channelOverrides (channel : ChannelId)
  | memberRoles (user : UserId)
  | memberBanned (user : UserId)
  | memberTimedOut (user : UserId)
  | ownershipTransferred (former next : UserId)
deriving DecidableEq

/-- The scopes that a change makes stale, in the order in which they are dropped. -/
def Change.invalidations : Change → List Invalidation
  | .roleStructure => [.all]
  | .channelOverrides channel => [.ofChannel channel]
  | .memberRoles user => [.ofUser user]
  | .memberBanned user => [.ofUser user]
  | .memberTimedOut user => [.ofUser user]
  | .ownershipTransferred former next => [.ofUser former, .ofUser next]

end ChannelAccess
