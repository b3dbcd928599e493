import ChannelAccess.Tables

/-!
# Reading the tables

How rows become the store's answers: masks and labels are decoded, and the flat rows of batched
reads are filed under the identifier they belong to, in row order. A row with an unknown label fails
the whole read, the first such row deciding the error.
-/

namespace ChannelAccess

set_option autoImplicit false

def RoleRow.role (row : RoleRow) : Role :=
  ⟨row.id, row.name, .ofSigned row.permissions, row.position, row.isEveryone, row.hoist,
    row.createdAt, row.updatedAt⟩

def RoleRow.grant (row : RoleRow) : RoleGrant :=
  ⟨row.id, .ofSigned row.permissions⟩

def TargetKind.ofStored (label : String) : Except AccessError TargetKind :=
  match choice.ofLabel? label with
  | some kind => .ok kind
  | none => .error (.validation (.unknownTarget label))

def PrincipalKind.ofStored (label : String) : Except AccessError PrincipalKind :=
  match choice.ofLabel? label with
  | some kind => .ok kind
  | none => .error (.validation (.unknownPrincipal label))

/-- The override of a row, whose target's kind is looked at before its principal's. -/
def OverrideRow.override (row : OverrideRow) : Except AccessError Override := do
  let .channel ← TargetKind.ofStored row.targetKind
  let kind ← PrincipalKind.ofStored row.principalKind
  return {
    id := row.id
    channel := row.target
    principal := .ofKind kind row.principal
    allow := .ofSigned row.allow
    deny := .ofSigned row.deny
    createdAt := row.createdAt
    updatedAt := row.updatedAt }

def parseOverrides : List OverrideRow → Except AccessError (List Override)
  | [] => .ok []
  | row :: rest =>
      match row.override with
      | .error problem => .error problem
      | .ok first => (parseOverrides rest).map (first :: ·)

/-- A row of a batched read of roles: the user it is for, the role and its permissions. -/
structure GrantRow where
  user : UserId
  role : RoleId
  permissions : Int

def IdMap.pushTo {α : Type} (filed : IdMap (List α)) (id : Uuid) (item : α) : IdMap (List α) :=
  filed.insert id (filed[id]?.getD [] ++ [item])

/-- The grants of each of some users, every one of whom has an entry. -/
def groupGrants (users : List UserId) (rows : List GrantRow) : IdMap (List RoleGrant) :=
  rows.foldl (fun filed row => filed.pushTo row.user ⟨row.role, .ofSigned row.permissions⟩)
    (IdMap.ofEntries (users.map fun user => (user, [])))

def groupOverrides (overrides : List Override) : IdMap (List Override) :=
  overrides.foldl (fun filed row => filed.pushTo row.channel row) ∅

namespace Tables

def statement {α : Type} (tables : Tables) (rows : α) : Except AccessError α :=
  match tables.refusal with
  | some reply => .error (.storage (.refused reply))
  | none => .ok rows

/-- The rows of a batched read of roles, one run of rows per asked user. -/
def grantRows (tables : Tables) (users : List UserId) : List GrantRow :=
  users.flatMap fun user =>
    (tables.rolesHeldBy user).map fun row => ⟨user, row.id, row.permissions⟩

def channelLabel : String :=
  TargetKind.choice.label .channel

def readOverrides (tables : Tables) (channel : ChannelId) : Except AccessError (List Override) := do
  parseOverrides (← tables.statement (tables.overridesOf channelLabel channel))

def readListed (tables : Tables) (channel : ChannelId) : Except AccessError (List Override) := do
  let rows ← tables.statement (tables.overridesOf channelLabel channel)
  parseOverrides (rows.mergeSort fun first second =>
    first.createdAt.micros ≤ second.createdAt.micros)

/-- The overrides of several channels, those without rows left out. -/
def readOverridesMany (tables : Tables) (channels : List ChannelId) :
    Except AccessError (IdMap (List Override)) := do
  let rows ← tables.statement (tables.overridesOfMany channelLabel channels)
  return groupOverrides (← parseOverrides rows)

def readChannel (tables : Tables) (channel : ChannelId) : Except AccessError Channel := do
  match ← tables.statement (tables.channels.find? fun row => row.id == channel) with
  | some found => return found
  | none => throw (.channelNotFound channel)

def readChannels (tables : Tables) (channels : List ChannelId) :
    Except AccessError (IdMap Channel) := do
  let rows ← tables.statement (tables.channels.filter fun row => channels.contains row.id)
  return IdMap.ofEntries (rows.map fun row => (row.id, row))

/-- The owner of the first row of the settings. -/
def readOwner (tables : Tables) : Except AccessError (Option UserId) := do
  return (← tables.statement tables.settings.head?).join

/-- Whether some row of the settings names a user as the owner. -/
def readIsOwner (tables : Tables) (user : UserId) : Except AccessError Bool :=
  tables.statement (tables.settings.contains (some user))

def readMember (tables : Tables) (user : UserId) : Except AccessError (Option Member) := do
  match ← tables.statement (tables.members.find? fun row => row.user == user) with
  | none => return none
  | some row => return some (← Member.ofStored user (tables.assignedTo user) row.status)

/-- The roles given to a user, highest rank first. -/
def readMemberRoles (tables : Tables) (user : UserId) : Except AccessError (List Role) := do
  let rows ← tables.statement (tables.rolesGivenTo user)
  return (rows.mergeSort fun first second => first.position ≤ second.position).map RoleRow.role

def writeOverride (tables : Tables) (channel : ChannelId) (principal : Principal)
    (allow deny : Mask) : Except AccessError Override × Tables :=
  let (row, after) := tables.upsertOverride channelLabel channel principal.kindLabel principal.id
    allow.toSigned deny.toSigned
  match tables.statement row with
  | .error problem => (.error problem, tables)
  | .ok row => (row.override, after)

def removeOverride (tables : Tables) (channel : ChannelId) (principal : Principal) :
    Except AccessError Unit × Tables :=
  let (count, after) :=
    tables.deleteOverrides channelLabel channel principal.kindLabel principal.id
  match tables.statement count with
  | .error problem => (.error problem, tables)
  | .ok 0 => (.error .overrideNotFound, after)
  | .ok _ => (.ok (), after)

def reply : (query : StoreQuery) → Tables → query.Reply × Tables
  | .grants user, tables =>
      ((tables.statement (tables.rolesHeldBy user)).map (List.map RoleRow.grant), tables)
  | .grantsMany users, tables =>
      ((tables.statement (tables.grantRows users)).map (groupGrants users), tables)
  | .channel channel, tables => (tables.readChannel channel, tables)
  | .channelMany channels, tables => (tables.readChannels channels, tables)
  | .overrides channel, tables => (tables.readOverrides channel, tables)
  | .overridesMany channels, tables => (tables.readOverridesMany channels, tables)
  | .owner, tables => (tables.readOwner, tables)
  | .isOwner user, tables => (tables.readIsOwner user, tables)
  | .setOverride channel principal allow deny, tables =>
      tables.writeOverride channel principal allow deny
  | .deleteOverride channel principal, tables => tables.removeOverride channel principal
  | .listOverrides channel, tables => (tables.readListed channel, tables)

def runMigrations (tables : Tables) : Except StorageFailure Tables :=
  match tables.refusal with
  | some reply => .error (.refused reply)
  | none => .ok tables.migrate

end Tables

end ChannelAccess
