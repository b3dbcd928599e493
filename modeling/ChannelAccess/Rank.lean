import ChannelAccess.Mask.Text
import ChannelAccess.Role

/-!
# Rank

Who may act on which role and which member. A lower position is a higher rank, `@everyone` has no
rank of its own, and nobody acts on a position equal to or above their own. Editing a role takes the
permission to manage roles as well and never hands out a named permission that the editor lacks.
-/

namespace ChannelAccess

set_option autoImplicit false

inductive RankError where
  | missingPermission (permission : Mask)
  | outranked (actor target : Int32)
  | everyoneImmutable
  | cannotEscalate (permissions : Mask)
  | ownerImmune
deriving DecidableEq

def RankError.message : RankError → String
  | .missingPermission permission => "Missing permission: " ++ permission.description
  | .outranked actor target =>
      "Cannot act on position " ++ toString target.toInt ++ " (your position: " ++
        toString actor.toInt ++ ")"
  | .everyoneImmutable => "The @everyone role cannot be assigned, removed, renamed, or deleted"
  | .cannotEscalate permissions =>
      "Cannot grant permissions you don't have: " ++ permissions.description
  | .ownerImmune => "Cannot moderate the server owner"

namespace Rank

def outranks (actor target : Int32) : Bool :=
  actor < target

/-- The position of somebody without a role other than `@everyone`, in messages. -/
def lowest : Int32 := Int32.maxValue

def best : Option Int32 → Int32 → Option Int32
  | none, position => some position
  | some current, position => some (if position < current then position else current)

def highestPosition (roles : List Role) : Option Int32 :=
  ((roles.filter fun role => !role.isEveryone).map Role.position).foldl best none

/-- Allows assigning, removing, renaming and deleting roles below the actor's own rank. -/
def ensureRoleTarget (actor : Option Int32) (target : Role) : Except RankError Unit :=
  if target.isEveryone then .error .everyoneImmutable
  else
    match actor with
    | some position =>
        if outranks position target.position then .ok ()
        else .error (.outranked position target.position)
    | none => .error (.outranked lowest target.position)

/-- Allows editing a role. The position does not matter for `@everyone`, and an edit that leaves the
mask alone escalates nothing. -/
def ensureRoleEdit (actorMask : Mask) (actorPosition : Int32) (target : Role)
    (newMask : Option Mask) : Except RankError Unit :=
  if !actorMask.has (.ofFlag .manageRoles) then
    .error (.missingPermission (.ofFlag .manageRoles))
  else if !target.isEveryone && !outranks actorPosition target.position then
    .error (.outranked actorPosition target.position)
  else
    match newMask with
    | none => .ok ()
    | some wanted =>
        let escalation := wanted ∩ actorMask.complement
        if escalation.isEmpty then .ok () else .error (.cannotEscalate escalation)

def ensureModeration (actor target : Int32) (targetIsOwner : Bool) : Except RankError Unit :=
  if targetIsOwner then .error .ownerImmune
  else if outranks actor target then .ok ()
  else .error (.outranked actor target)

end Rank

end ChannelAccess
