import ChannelAccess.Error
import ChannelAccess.Override

/-!
# The store of the server's data

What the service asks of the store that keeps roles, members, channels, overrides and the owner.
Batched reads answer for many identifiers at once; an identifier without data may be absent from the
answer.
-/

namespace ChannelAccess

set_option autoImplicit false

inductive StoreQuery where
  | grants (user : UserId)
  | grantsMany (users : List UserId)
  | channel (channel : ChannelId)
  | channelMany (channels : List ChannelId)
  | overrides (channel : ChannelId)
  | overridesMany (channels : List ChannelId)
  | owner
  | isOwner (user : UserId)
  /-- Creates or replaces the override of a channel for a principal. -/
  | setOverride (channel : ChannelId) (principal : Principal) (allow deny : Mask)
  | deleteOverride (channel : ChannelId) (principal : Principal)
  /-- The overrides of a channel, oldest first. -/
  | listOverrides (channel : ChannelId)

namespace StoreQuery

abbrev Answer : StoreQuery → Type
  | .grants _ => List RoleGrant
  | .grantsMany _ => IdMap (List RoleGrant)
  | .channel _ => Channel
  | .channelMany _ => IdMap Channel
  | .overrides _ => List Override
  | .overridesMany _ => IdMap (List Override)
  | .owner => Option UserId
  | .isOwner _ => Bool
  | .setOverride _ _ _ _ => Override
  | .deleteOverride _ _ => Unit
  | .listOverrides _ => List Override

abbrev Reply (query : StoreQuery) : Type :=
  Except AccessError query.Answer

end StoreQuery

end ChannelAccess
