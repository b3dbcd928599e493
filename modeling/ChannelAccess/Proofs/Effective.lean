import ChannelAccess.Effective
import ChannelAccess.Proofs.Mask.Bits

/-!
# Effective permissions, one permission at a time

What the roles of a user and the overrides of a channel come to for a single bit of the
mask. Each layer is the union of the overrides that concern it, so it is known by which
overrides allow or deny the bit, and neither order nor repetitions nor overrides of
others count.
-/

namespace ChannelAccess

set_option autoImplicit false

def Principal.IsUser (user : UserId) (principal : Principal) : Prop :=
  principal = .user user

def Principal.IsRoleOf (grants : List RoleGrant) (principal : Principal) : Prop :=
  ∃ grant ∈ grants, principal = .role grant.role

/-- An override for one of the principals concerned has the bit at a position in a part of it: in
what it allows, or in what it denies. -/
def Override.SomeHas (part : Override → Mask) (overrides : List Override)
    (concerned : Principal → Prop) (position : Nat) : Prop :=
  ∃ row ∈ overrides, concerned row.principal ∧ (part row).testBit position = true

namespace Layer

theorem foldl_add (overrides : List Override) (layer : Layer) :
    overrides.foldl add layer =
      ⟨overrides.foldl (fun mask row => mask ∪ row.allow) layer.allow,
        overrides.foldl (fun mask row => mask ∪ row.deny) layer.deny⟩ := by
  induction overrides generalizing layer with
  | nil => rfl
  | cons row rest ih =>
      rw [List.foldl_cons, ih]
      rfl

def unionOf (part : Override → Mask) (concerned : Principal → Bool) (overrides : List Override) :
    Mask :=
  (overrides.filter fun row => concerned row.principal).foldl (fun mask row => mask ∪ part row) ∅

theorem test_bit_union_of {concerned : Principal → Bool} {among : Principal → Prop}
    (decides : ∀ principal, concerned principal = true ↔ among principal)
    (part : Override → Mask) (overrides : List Override) (position : Nat) :
    (unionOf part concerned overrides).testBit position = true ↔
      Override.SomeHas part overrides among position := by
  rw [unionOf, Mask.test_bit_foldl_union]
  simp [Override.SomeHas, decides, and_assoc]

def ofConcerned (concerned : Principal → Bool) (overrides : List Override) : Layer :=
  ⟨unionOf Override.allow concerned overrides, unionOf Override.deny concerned overrides⟩

end Layer

namespace Layers

def isUser (user : UserId) : Principal → Bool
  | .role _ => false
  | .user id => id = user

def isRoleOf (roles : List RoleId) : Principal → Bool
  | .role role => roles.contains role
  | .user _ => false

theorem is_user_iff (user : UserId) (principal : Principal) :
    isUser user principal = true ↔ principal.IsUser user := by
  cases principal <;> simp [isUser, Principal.IsUser]

theorem is_role_of_iff (grants : List RoleGrant) (principal : Principal) :
    isRoleOf (grants.map RoleGrant.role) principal = true ↔ principal.IsRoleOf grants := by
  cases principal <;> simp [isRoleOf, Principal.IsRoleOf, eq_comm]

/-- Sorting the overrides out in one pass collects, for each layer, those that concern it. -/
theorem foldl_add (user : UserId) (roles : List RoleId) (overrides : List Override)
    (layers : Layers) :
    overrides.foldl (add user roles) layers =
      ⟨(overrides.filter fun row => isRoleOf roles row.principal).foldl Layer.add layers.roles,
        (overrides.filter fun row => isUser user row.principal).foldl Layer.add layers.user⟩ := by
  induction overrides generalizing layers with
  | nil => rfl
  | cons row rest ih =>
      rw [List.foldl_cons, ih]
      cases concerns : row.principal with
      | role role =>
          cases held : roles.contains role <;>
            simp only [add, concerns, held, isRoleOf, isUser, List.filter_cons] <;> rfl
      | user id =>
          by_cases same : id = user <;>
            simp [add, concerns, same, isRoleOf, isUser]

theorem of_overrides_eq (user : UserId) (roles : List RoleId) (overrides : List Override) :
    ofOverrides user roles overrides =
      ⟨.ofConcerned (isRoleOf roles) overrides, .ofConcerned (isUser user) overrides⟩ := by
  rw [ofOverrides, foldl_add, Layer.foldl_add, Layer.foldl_add]
  rfl

end Layers

theorem test_bit_effective_permissions (user : UserId) (grants : List RoleGrant)
    (overrides : List Override) (position : Nat) :
    (effectivePermissions user false grants overrides).testBit position = true ↔
      Override.SomeHas Override.allow overrides (Principal.IsUser user) position ∨
        ¬Override.SomeHas Override.deny overrides (Principal.IsUser user) position ∧
          (Override.SomeHas Override.allow overrides (Principal.IsRoleOf grants) position ∨
            ¬Override.SomeHas Override.deny overrides (Principal.IsRoleOf grants) position ∧
              ∃ grant ∈ grants, grant.permissions.testBit position = true) := by
  have forUser := Layers.is_user_iff user
  have forRoles := Layers.is_role_of_iff grants
  rw [effectivePermissions, if_neg Bool.false_ne_true]
  simp only [Layers.of_overrides_eq, Layer.ofConcerned, Layer.apply, Mask.test_bit_apply_layer,
    Bool.or_eq_true, Bool.and_eq_true, Bool.not_eq_true', ← Bool.not_eq_true,
    Layer.test_bit_union_of forUser, Layer.test_bit_union_of forRoles,
    Mask.test_bit_union_all_map]
  -- Removing what is denied comes first in the rule and last in the mask.
  grind

theorem Override.some_has_congr {concerned : Principal → Prop} {overrides others : List Override}
    (same : ∀ row : Override, concerned row.principal → (row ∈ others ↔ row ∈ overrides))
    (part : Override → Mask) (position : Nat) :
    SomeHas part others concerned position ↔ SomeHas part overrides concerned position := by
  refine exists_congr fun row => ?_
  by_cases concerns : concerned row.principal
  · rw [same row concerns]
  · simp [concerns]

theorem effective_permissions_congr {user : UserId} {grants otherGrants : List RoleGrant}
    {overrides otherOverrides : List Override}
    (sameGrants : ∀ grant, grant ∈ otherGrants ↔ grant ∈ grants)
    (sameRows : ∀ row : Override, row.principal.IsUser user ∨ row.principal.IsRoleOf grants →
      (row ∈ otherOverrides ↔ row ∈ overrides)) (isOwner : Bool) :
    effectivePermissions user isOwner otherGrants otherOverrides =
      effectivePermissions user isOwner grants overrides := by
  cases isOwner with
  | true => rfl
  | false =>
      have sameRoles : Principal.IsRoleOf otherGrants = Principal.IsRoleOf grants := by
        funext principal
        simp only [Principal.IsRoleOf, sameGrants]
      have forUser := fun row (concerns : row.principal.IsUser user) =>
        sameRows row (.inl concerns)
      have forRoles := fun row (concerns : row.principal.IsRoleOf grants) =>
        sameRows row (.inr concerns)
      apply Mask.ext_test_bit
      intro position
      rw [Bool.eq_iff_iff, test_bit_effective_permissions, test_bit_effective_permissions,
        sameRoles]
      simp only [sameGrants, Override.some_has_congr forUser, Override.some_has_congr forRoles]

/-- The owner has every permission. Anyone else has one exactly if an override for the user allows
it, or none denies it and the roles give it: an override for one of them allows it, or none denies
it and one of the roles has it. So nothing changes where the same roles are held and the same
overrides concern the user, whatever their order and repetitions and whatever else is there. -/
theorem effective_permissions_by_layers (user : UserId) (grants : List RoleGrant)
    (overrides : List Override) :
    effectivePermissions user true grants overrides = .all ∧
    (∀ position, (effectivePermissions user false grants overrides).testBit position = true ↔
      Override.SomeHas Override.allow overrides (Principal.IsUser user) position ∨
        ¬Override.SomeHas Override.deny overrides (Principal.IsUser user) position ∧
          (Override.SomeHas Override.allow overrides (Principal.IsRoleOf grants) position ∨
            ¬Override.SomeHas Override.deny overrides (Principal.IsRoleOf grants) position ∧
              ∃ grant ∈ grants, grant.permissions.testBit position = true)) ∧
    ∀ isOwner otherGrants otherOverrides,
      (∀ grant, grant ∈ otherGrants ↔ grant ∈ grants) →
      (∀ row : Override, row.principal.IsUser user ∨ row.principal.IsRoleOf grants →
        (row ∈ otherOverrides ↔ row ∈ overrides)) →
      effectivePermissions user isOwner otherGrants otherOverrides =
        effectivePermissions user isOwner grants overrides :=
  ⟨rfl, test_bit_effective_permissions user grants overrides,
    fun isOwner _ _ sameGrants sameRows =>
      effective_permissions_congr sameGrants sameRows isOwner⟩

/-- A role that is listed twice, overrides in the other order with one repeated, and two more rows
that concern someone else: a role with the identifier of the user, and a user with the identifier of
the role. -/
theorem effective_permissions_by_layers_rearranged :
    let user : UserId := .ofNat 7
    let role : RoleId := .ofNat 1
    let grant : RoleGrant := ⟨role, .ofNat 4⟩
    let top := Nat.pow 2 63
    let row (principal : Principal) (allow deny : Nat) : Override :=
      ⟨.ofNat 9, .ofNat 2, principal, .ofNat allow, .ofNat deny, .ofSeconds 0, .ofSeconds 0⟩
    let overrides := [row (.role role) top 4, row (.user user) 4 top]
    let others := [row (.user user) 4 top, row (.role user) 1 4, row (.role role) top 4,
      row (.user role) 1 4, row (.user user) 4 top]
    effectivePermissions user false [grant, grant] others =
        effectivePermissions user false [grant] overrides ∧
      effectivePermissions user false [grant, grant] others = .ofNat 4 := by
  intro user role grant top row overrides others
  have apart : user ≠ role := by decide
  have same : effectivePermissions user false [grant, grant] others =
      effectivePermissions user false [grant] overrides := by
    apply (effective_permissions_by_layers user [grant] overrides).2.2
    · simp
    · intro other concerns
      simp only [others, overrides, row, List.mem_cons, List.not_mem_nil, or_false]
      rcases concerns with forUser | ⟨_, member, forRole⟩
      · grind [Principal.IsUser]
      · grind
  refine ⟨same, ?_⟩
  decide +kernel

end ChannelAccess
