import ChannelAccess.Json
import ChannelAccess.Mask.Text
import ChannelAccess.Timestamp
import ChannelAccess.Uuid

/-!
# Roles

A role gives its permissions to every member who holds it. The role `@everyone` is held by all.
-/

namespace ChannelAccess

set_option autoImplicit false

structure Role where
  id : RoleId
  name : String
  permissions : Mask
  position : Int32
  isEveryone : Bool
  /-- Whether holders are listed apart, which has no bearing on permissions. -/
  hoist : Bool
  createdAt : Timestamp
  /-- When the role last changed. -/
  updatedAt : Timestamp
deriving DecidableEq

structure RoleGrant where
  role : RoleId
  permissions : Mask
deriving DecidableEq

def Role.toJson (role : Role) : Json :=
  .object [
    ("created_at", .text role.createdAt.text),
    ("hoist", .bool role.hoist),
    ("id", .text role.id.text),
    ("is_everyone", .bool role.isEveryone),
    ("name", .text role.name),
    ("permissions", .text role.permissions.text),
    ("position", .integer role.position.toInt),
    ("updated_at", .text role.updatedAt.text)]

def RoleGrant.toJson (grant : RoleGrant) : Json :=
  .object [("permissions", .text grant.permissions.text), ("role_id", .text grant.role.text)]

end ChannelAccess
