import ChannelAccess.Override
import ChannelAccess.Role

/-!
# Effective permissions

What a user may do in a channel. The owner may do everything. Everyone else starts with what their
roles grant; then the channel's overrides for those roles apply as one layer, and the overrides for
the user as another. Within a layer the denials of all overrides go first and the allowances follow,
so neither the order of overrides nor repetitions matter.
-/

namespace ChannelAccess

set_option autoImplicit false

structure Layer where
  allow : Mask
  deny : Mask
deriving DecidableEq

namespace Layer

def blank : Layer :=
  ⟨∅, ∅⟩

def add (layer : Layer) (override : Override) : Layer :=
  ⟨layer.allow ∪ override.allow, layer.deny ∪ override.deny⟩

def apply (layer : Layer) (mask : Mask) : Mask :=
  mask.applyLayer layer.allow layer.deny

end Layer

/-- The layers of a channel for one user, sorted out of its overrides in one pass. -/
structure Layers where
  roles : Layer
  user : Layer
deriving DecidableEq

namespace Layers

def blank : Layers :=
  ⟨.blank, .blank⟩

/-- The layers with one more override, which counts only if it concerns the user or one of the
roles. -/
def add (user : UserId) (roles : List RoleId) (layers : Layers) (override : Override) : Layers :=
  match override.principal with
  | .role role =>
      if roles.contains role then ⟨layers.roles.add override, layers.user⟩ else layers
  | .user id => if id = user then ⟨layers.roles, layers.user.add override⟩ else layers

def ofOverrides (user : UserId) (roles : List RoleId) (overrides : List Override) : Layers :=
  overrides.foldl (add user roles) blank

end Layers

def effectivePermissions (user : UserId) (isOwner : Bool) (grants : List RoleGrant)
    (overrides : List Override) : Mask :=
  if isOwner then .all
  else
    let base := Mask.unionAll (grants.map RoleGrant.permissions)
    let layers := Layers.ofOverrides user (grants.map RoleGrant.role) overrides
    layers.user.apply (layers.roles.apply base)

end ChannelAccess
