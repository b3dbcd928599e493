import ChannelAccess.Store

/-!
# The tables of the database

The rows that the database keeps, and what its statements return. Masks are signed 64-bit numbers,
and kinds and standings are free text. No constraint is assumed: rows may repeat and texts may be
wrong. A database can also refuse every statement.
-/

namespace ChannelAccess

set_option autoImplicit false

structure RoleRow where
  id : RoleId
  name : String
  permissions : Int
  position : Int32
  isEveryone : Bool
  hoist : Bool
  createdAt : Timestamp
  /-- When the row last changed. -/
  updatedAt : Timestamp

structure MemberRow where
  user : UserId
  status : String

structure AssignmentRow where
  user : UserId
  role : RoleId

structure OverrideRow where
  id : Uuid
  targetKind : String
  target : Uuid
  principalKind : String
  principal : Uuid
  allow : Int
  deny : Int
  createdAt : Timestamp
  /-- When the row last changed. -/
  updatedAt : Timestamp

structure Migration where
  version : Nat
  description : String
deriving DecidableEq

structure Tables where
  roles : List RoleRow
  members : List MemberRow
  assignments : List AssignmentRow
  channels : List Channel
  overrides : List OverrideRow
  /-- The rows of the settings, each with the owner if one is set. -/
  settings : List (Option UserId)
  applied : List Migration
  /-- The seconds of the clock that dates written overrides. -/
  seconds : Nat
  /-- The reply to every statement, if the database refuses them. -/
  refusal : Option String

namespace Tables

def assignedTo (tables : Tables) (user : UserId) : List RoleId :=
  (tables.assignments.filter fun row => row.user == user).map AssignmentRow.role

/-- The rows of the roles that a user holds: those of every member and those given to the user. -/
def rolesHeldBy (tables : Tables) (user : UserId) : List RoleRow :=
  let given := tables.assignedTo user
  tables.roles.filter fun row => row.isEveryone || given.contains row.id

def rolesGivenTo (tables : Tables) (user : UserId) : List RoleRow :=
  let given := tables.assignedTo user
  tables.roles.flatMap fun row => (given.filter fun role => role == row.id).map fun _ => row

def overridesOf (tables : Tables) (kind : String) (target : Uuid) : List OverrideRow :=
  tables.overrides.filter fun row => row.targetKind == kind && row.target == target

def overridesOfMany (tables : Tables) (kind : String) (targets : List Uuid) : List OverrideRow :=
  tables.overrides.filter fun row => row.targetKind == kind && targets.contains row.target

def concerns (kind : String) (target : Uuid) (principalKind : String) (principal : Uuid)
    (row : OverrideRow) : Bool :=
  row.targetKind == kind && row.target == target && row.principalKind == principalKind &&
    row.principal == principal

/-- The rows with the first one that fits changed, and that row after the change. -/
def changeFirst (fits : OverrideRow → Bool) (change : OverrideRow → OverrideRow) :
    List OverrideRow → Option (OverrideRow × List OverrideRow)
  | [] => none
  | row :: rest =>
      if fits row then some (change row, change row :: rest)
      else (changeFirst fits change rest).map fun (changed, rows) => (changed, row :: rows)

/-- The row after inserting it or updating the one of the same target and principal, which keeps its
identifier and its creation, and the tables with it. -/
def upsertOverride (tables : Tables) (kind : String) (target : Uuid) (principalKind : String)
    (principal : Uuid) (allow deny : Int) : OverrideRow × Tables :=
  let seconds := tables.seconds + 1
  let now := Timestamp.ofSeconds seconds
  match changeFirst (concerns kind target principalKind principal)
      (fun row => { row with allow := allow, deny := deny, updatedAt := now })
      tables.overrides with
  | some (row, rows) => (row, { tables with overrides := rows, seconds := seconds })
  | none =>
      let row : OverrideRow :=
        ⟨.ofNat (0xF00000000000 + seconds), kind, target, principalKind, principal, allow, deny,
          now, now⟩
      (row, { tables with overrides := tables.overrides ++ [row], seconds := seconds })

def deleteOverrides (tables : Tables) (kind : String) (target : Uuid) (principalKind : String)
    (principal : Uuid) : Nat × Tables :=
  let fits := concerns kind target principalKind principal
  ((tables.overrides.filter fits).length,
    { tables with overrides := tables.overrides.filter fun row => !fits row })

def migrations : List Migration :=
  [⟨20240101000000, "permissions"⟩]

/-- The tables after applying the steps that are still missing. -/
def migrate (tables : Tables) : Tables :=
  { tables with
    applied := tables.applied ++ migrations.filter fun step => !tables.applied.contains step }

end Tables

end ChannelAccess
