import ChannelAccess.Json.Choice
import ChannelAccess.Mask.Text
import ChannelAccess.Timestamp
import ChannelAccess.Uuid

/-!
# Overrides

An override adjusts, in one channel, the permissions of everyone who holds a role or of one user.
What it denies is taken away and what it allows is added.
-/

namespace ChannelAccess

set_option autoImplicit false

inductive TargetKind where
  | channel
deriving DecidableEq

def TargetKind.choice : Choice TargetKind :=
  ⟨[.channel], fun | .channel => "channel"⟩

inductive PrincipalKind where
  | role
  | user
deriving DecidableEq

def PrincipalKind.choice : Choice PrincipalKind :=
  ⟨[.role, .user], fun
    | .role => "role"
    | .user => "user"⟩

inductive Principal where
  | role (id : RoleId)
  | user (id : UserId)
deriving DecidableEq

namespace Principal

def kind : Principal → PrincipalKind
  | .role _ => .role
  | .user _ => .user

def id : Principal → Uuid
  | .role id => id
  | .user id => id

def ofKind : PrincipalKind → Uuid → Principal
  | .role, id => .role id
  | .user, id => .user id

def kindLabel (principal : Principal) : String :=
  PrincipalKind.choice.label principal.kind

end Principal

structure Override where
  id : Uuid
  channel : ChannelId
  principal : Principal
  allow : Mask
  deny : Mask
  createdAt : Timestamp
  /-- When it last changed. -/
  updatedAt : Timestamp
deriving DecidableEq

namespace Override

/-- The permissions both allowed and denied, for which allowing takes effect. -/
def overlap (override : Override) : Mask :=
  override.allow ∩ override.deny

def toJson (override : Override) : Json :=
  .object [
    ("allow", .text override.allow.text),
    ("created_at", .text override.createdAt.text),
    ("deny", .text override.deny.text),
    ("id", .text override.id.text),
    ("principal_id", .text override.principal.id.text),
    ("principal_type", .text override.principal.kindLabel),
    ("target_id", .text override.channel.text),
    ("target_type", .text (TargetKind.choice.label .channel)),
    ("updated_at", .text override.updatedAt.text)]

end Override

end ChannelAccess
