import ChannelAccess.Store

/-!
# A store in memory

The server's data held in memory, and the replies of such a store. Batched reads may leave out
identifiers that have no data of their own. Writes of overrides are dated by a clock that moves on
one second with each of them.
-/

namespace ChannelAccess

set_option autoImplicit false

structure Directory where
  everyone : RoleId
  roles : IdMap Mask
  members : IdMap (List RoleId)
  channels : IdMap String
  /-- The overrides of all channels, oldest first. -/
  overrides : List Override
  /-- The owner, if there is one. -/
  owner : Option UserId
  /-- The seconds of the clock. -/
  seconds : Nat
  /-- Whether batched reads leave out identifiers without data of their own. -/
  sparse : Bool

namespace Directory

def explicitRoles (directory : Directory) (user : UserId) : List RoleId :=
  directory.members[user]?.getD []

/-- What the roles of a user grant, in the order of the roles' identifiers. -/
def grantsOf (directory : Directory) (user : UserId) : List RoleGrant :=
  let explicit := directory.explicitRoles user
  (directory.roles.toList.filter fun entry =>
    entry.1 == directory.everyone || explicit.contains entry.1).map fun entry =>
      ⟨entry.1, entry.2⟩

def overridesOf (directory : Directory) (channel : ChannelId) : List Override :=
  directory.overrides.filter fun row => row.channel == channel

def channel? (directory : Directory) (channel : ChannelId) : Option Channel :=
  directory.channels[channel]?.map fun name => ⟨channel, name⟩

def grantsOfMany (directory : Directory) (users : List UserId) : IdMap (List RoleGrant) :=
  let listed :=
    if directory.sparse then users.filter fun user => directory.members.contains user else users
  IdMap.ofEntries (listed.map fun user => (user, directory.grantsOf user))

def overridesOfMany (directory : Directory) (channels : List ChannelId) :
    IdMap (List Override) :=
  let listed :=
    if directory.sparse then
      channels.filter fun channel => !(directory.overridesOf channel).isEmpty
    else channels
  IdMap.ofEntries (listed.map fun channel => (channel, directory.overridesOf channel))

def channelsOf (directory : Directory) (channels : List ChannelId) : IdMap Channel :=
  IdMap.ofEntries (channels.filterMap fun channel =>
    (directory.channel? channel).map fun found => (channel, found))

def concerns (channel : ChannelId) (principal : Principal) (row : Override) : Bool :=
  row.channel == channel && row.principal == principal

/-- The rows with the first one that a channel and a principal have changed, and that row after the
change. -/
def changeFirst (channel : ChannelId) (principal : Principal) (change : Override → Override) :
    List Override → Option (Override × List Override)
  | [] => none
  | row :: rest =>
      if concerns channel principal row then some (change row, change row :: rest)
      else (changeFirst channel principal change rest).map fun (changed, rows) =>
        (changed, row :: rows)

def overrideId (seconds : Nat) : Uuid :=
  .ofNat (0xF00000000000 + seconds)

def setOverride (directory : Directory) (channel : ChannelId) (principal : Principal)
    (allow deny : Mask) : Override × Directory :=
  let seconds := directory.seconds + 1
  let now := Timestamp.ofSeconds seconds
  match changeFirst channel principal
      (fun row => { row with allow := allow, deny := deny, updatedAt := now })
      directory.overrides with
  | some (row, rows) => (row, { directory with overrides := rows, seconds := seconds })
  | none =>
      let row : Override := ⟨overrideId seconds, channel, principal, allow, deny, now, now⟩
      (row, { directory with overrides := directory.overrides ++ [row], seconds := seconds })

def deleteOverride? (directory : Directory) (channel : ChannelId) (principal : Principal) :
    Option Directory :=
  if directory.overrides.any (concerns channel principal) then
    some { directory with
      overrides := directory.overrides.filter fun row => !concerns channel principal row }
  else none

def reply : (query : StoreQuery) → Directory → query.Reply × Directory
  | .grants user, directory => (.ok (directory.grantsOf user), directory)
  | .grantsMany users, directory => (.ok (directory.grantsOfMany users), directory)
  | .channel channel, directory =>
      match directory.channel? channel with
      | some found => (.ok found, directory)
      | none => (.error (.channelNotFound channel), directory)
  | .channelMany channels, directory => (.ok (directory.channelsOf channels), directory)
  | .overrides channel, directory => (.ok (directory.overridesOf channel), directory)
  | .overridesMany channels, directory => (.ok (directory.overridesOfMany channels), directory)
  | .owner, directory => (.ok directory.owner, directory)
  | .isOwner user, directory => (.ok (directory.owner == some user), directory)
  | .setOverride channel principal allow deny, directory =>
      let (row, directory) := directory.setOverride channel principal allow deny
      (.ok row, directory)
  | .deleteOverride channel principal, directory =>
      match directory.deleteOverride? channel principal with
      | some directory => (.ok (), directory)
      | none => (.error .overrideNotFound, directory)
  | .listOverrides channel, directory => (.ok (directory.overridesOf channel), directory)

end Directory

end ChannelAccess
