import ChannelAccess.Cache.Keyspace
import ChannelAccess.Text.Numeral

/-!
# Scripts of the shared cache

The writes and drops of the shared cache, each one script so that it takes effect as a whole. An
entry is a text under a key of its own. Three kinds of index say which entries exist: for each user
the channels with an entry, for each channel the users with one, and the users with any. An index
member's score is the second after which its entry is gone.

A script gets the keys it starts from and its arguments as texts, and builds further keys from the
members that it finds in the indexes.
-/

namespace ChannelAccess

set_option autoImplicit false

/-- The keys of the shared cache under a scope, by the texts of their identifiers. -/
structure KeyNames where
  scope : String

namespace KeyNames

def entry (names : KeyNames) (user channel : String) : String :=
  names.scope ++ ":e:" ++ user ++ ":" ++ channel

def userIndex (names : KeyNames) (user : String) : String :=
  names.scope ++ ":u:" ++ user

def channelIndex (names : KeyNames) (channel : String) : String :=
  names.scope ++ ":c:" ++ channel

def users (names : KeyNames) : String :=
  names.scope ++ ":users"

end KeyNames

inductive Script where
  /-- Writes entries. Keys: the users index, then entry, user index and channel index of each entry.
  Arguments: the seconds an entry lives, then user, channel and mask of each entry. -/
  | writeEntries
  /-- Drops a user. Keys: the users index and the user's index. Arguments: scope and user. -/
  | dropUser
  /-- Drops a channel. Keys: the users index and the channel's index. Arguments: scope and channel.
  -/
  | dropChannel
  /-- Drops an entry. Keys: the users index, the entry, the user's and the channel's index.
  Arguments: user and channel. -/
  | dropEntry
  /-- Drops everything. Keys: the users index. Arguments: the scope. -/
  | dropAll
deriving DecidableEq

namespace Script

open KeyspaceScript

/-- Adds a member to an index that is about to be pruned and kept alive. -/
def touchIndex (key member : String) (now seconds : Nat) : KeyspaceScript Unit := do
  addMember key member (now + seconds + 1)
  removeUpTo key now
  expire key (seconds + 1)

/-- Writes the entries of a script's keys and arguments, three of each per entry. -/
def writeEach (users : String) (now seconds : Nat) :
    List String → List String → KeyspaceScript Unit
  | entry :: userIndex :: channelIndex :: keys, user :: channel :: mask :: arguments => do
      KeyspaceScript.set entry mask seconds
      touchIndex userIndex channel now seconds
      touchIndex channelIndex user now seconds
      addMember users user (now + seconds + 1)
      writeEach users now seconds keys arguments
  | _, _ => return ()

def dropChannels (names : KeyNames) (user : String) : List String → KeyspaceScript Unit
  | [] => return ()
  | channel :: rest => do
      delete (names.entry user channel)
      removeMember (names.channelIndex channel) user
      dropChannels names user rest

def forgetIfIdle (users userIndex user : String) : KeyspaceScript Unit := do
  if (← count userIndex) = 0 then removeMember users user else return ()

def dropUsers (names : KeyNames) (users channel : String) : List String → KeyspaceScript Unit
  | [] => return ()
  | user :: rest => do
      delete (names.entry user channel)
      removeMember (names.userIndex user) channel
      forgetIfIdle users (names.userIndex user) user
      dropUsers names users channel rest

/-- Drops the entries of one user and the indexes of their channels. -/
def clearChannels (names : KeyNames) (user : String) : List String → KeyspaceScript Unit
  | [] => return ()
  | channel :: rest => do
      delete (names.entry user channel)
      delete (names.channelIndex channel)
      clearChannels names user rest

def clearUsers (names : KeyNames) : List String → KeyspaceScript Unit
  | [] => return ()
  | user :: rest => do
      clearChannels names user (← range (names.userIndex user))
      delete (names.userIndex user)
      clearUsers names rest

def perform : Script → List String → List String → KeyspaceScript Unit
  | .writeEntries, users :: keys, lifetime :: arguments => do
      match Text.readBelow 10 Text.wordBound lifetime.toList with
      | none => throw notANumber
      | some seconds =>
          let now ← time
          writeEach users now seconds keys arguments
          removeUpTo users now
          expire users (seconds + 1)
  | .dropUser, [users, userIndex], [scope, user] => do
      dropChannels ⟨scope⟩ user (← range userIndex)
      delete userIndex
      removeMember users user
  | .dropChannel, [users, channelIndex], [scope, channel] => do
      dropUsers ⟨scope⟩ users channel (← range channelIndex)
      delete channelIndex
  | .dropEntry, [users, entry, userIndex, channelIndex], [user, channel] => do
      delete entry
      removeMember userIndex channel
      removeMember channelIndex user
      forgetIfIdle users userIndex user
  | .dropAll, [users], [scope] => do
      clearUsers ⟨scope⟩ (← range users)
      delete users
  | _, _, _ => return ()

end Script

end ChannelAccess
