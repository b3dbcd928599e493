import ChannelAccess.Json.Choice
import ChannelAccess.Uuid

/-!
# Members

A member's explicit roles and standing on the server.
-/

namespace ChannelAccess

set_option autoImplicit false

inductive MemberStatus where
  | active
  | pending
  | timedOut
deriving DecidableEq

namespace MemberStatus

def choice : Choice MemberStatus :=
  ⟨[.active, .pending, .timedOut], fun
    | .active => "active"
    | .pending => "pending"
    | .timedOut => "timed_out"⟩

def eligible : MemberStatus → Bool
  | .active => true
  | .pending => false
  | .timedOut => false

end MemberStatus

structure Member where
  user : UserId
  /-- The roles held besides `@everyone`, each once, in the order of their identifiers. -/
  roles : List RoleId
  status : MemberStatus
deriving DecidableEq

/-- The set of some roles, each once, in the order of their identifiers. -/
def Member.roleSet (roles : List RoleId) : List RoleId :=
  (IdMap.ofEntries (roles.map fun role => (role, ()))).keys

def Member.toJson (member : Member) : Json :=
  .object [
    ("role_ids", Json.list (fun role => .text role.text) member.roles),
    ("status", .text (MemberStatus.choice.label member.status)),
    ("user_id", .text member.user.text)]

structure Channel where
  id : ChannelId
  name : String
deriving DecidableEq

def Channel.toJson (channel : Channel) : Json :=
  .object [("id", .text channel.id.text), ("name", .text channel.name)]

end ChannelAccess
