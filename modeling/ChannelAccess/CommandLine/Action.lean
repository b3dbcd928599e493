import ChannelAccess.Invalidation
import ChannelAccess.Uuid

/-!
# Actions of the command line

What an operator can ask for.
-/

namespace ChannelAccess

set_option autoImplicit false

inductive Action where
  | migrate
  | resolve (user : UserId) (channel : ChannelId)
  /-- Prints whether a user has a permission, given by its name, in a channel. -/
  | check (user : UserId) (channel : ChannelId) (permission : String)
  | member (user : UserId)
  | overrides (channel : ChannelId)
  | invalidate (scope : Invalidation)
deriving DecidableEq

end ChannelAccess
