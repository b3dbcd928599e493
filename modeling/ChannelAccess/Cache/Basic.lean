import ChannelAccess.Invalidation
import ChannelAccess.Mask

/-!
# The cache of effective permissions

What the service asks of a cache. A cache keeps masks under pairs of a user and a channel, and any
backend answers the same queries: reads and writes of one entry or of many entries of one user or
one channel, and drops of everything, of one user, of one channel and of one entry.
-/

namespace ChannelAccess

set_option autoImplicit false

inductive CacheError where
  | refused (reply : String)
  | malformed (raw : String)
deriving DecidableEq

namespace CacheError

def replyClass (reply : String) : String :=
  match (reply.toList.dropWhile (· == ' ')).takeWhile (· != ' ') with
  | ['W', 'R', 'O', 'N', 'G', 'T', 'Y', 'P', 'E'] => "Invalid Argument"
  | _ => "Unknown Error"

def message : CacheError → String
  | .refused reply => "Redis error: " ++ replyClass reply ++ ": " ++ reply
  | .malformed raw => "Malformed cached value: " ++ raw

end CacheError

inductive CacheQuery where
  | get (user : UserId) (channel : ChannelId)
  | set (user : UserId) (channel : ChannelId) (mask : Mask)
  | getMany (user : UserId) (channels : List ChannelId)
  | setMany (user : UserId) (masks : IdMap Mask)
  | getManyUsers (channel : ChannelId) (users : List UserId)
  | setManyUsers (channel : ChannelId) (masks : IdMap Mask)
  | deleteByUser (user : UserId)
  | deleteByChannel (channel : ChannelId)
  | deleteExact (user : UserId) (channel : ChannelId)
  | deleteAll

namespace CacheQuery

/-- What a cache answers to a query: the mask of a single read, the masks found by a batched read,
by channel or by user, and nothing for writes and drops. -/
abbrev Answer : CacheQuery → Type
  | .get _ _ => Option Mask
  | .set _ _ _ => Unit
  | .getMany _ _ => IdMap Mask
  | .setMany _ _ => Unit
  | .getManyUsers _ _ => IdMap Mask
  | .setManyUsers _ _ => Unit
  | .deleteByUser _ => Unit
  | .deleteByChannel _ => Unit
  | .deleteExact _ _ => Unit
  | .deleteAll => Unit

abbrev Reply (query : CacheQuery) : Type :=
  Except CacheError query.Answer

def drop : Invalidation → CacheQuery
  | .all => .deleteAll
  | .ofChannel channel => .deleteByChannel channel
  | .ofUser user => .deleteByUser user
  | .ofEntry user channel => .deleteExact user channel

end CacheQuery

end ChannelAccess
