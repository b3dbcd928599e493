import ChannelAccess.Cache.Basic
import ChannelAccess.Cache.Script

/-!
# The shared cache

A cache on a server of keys that several processes use. Every query is at most one command. Masks
are stored as decimal numbers; a stored text that is no 64-bit number fails the read that comes upon
it.
-/

namespace ChannelAccess

set_option autoImplicit false

inductive Command where
  | get (key : String)
  | getAll (keys : List String)
  | evaluate (script : Script) (keys arguments : List String)

namespace Command

abbrev Answer : Command → Type
  | .get _ => Option String
  | .getAll _ => List (Option String)
  | .evaluate _ _ _ => Unit

def perform : (command : Command) → KeyspaceScript command.Answer
  | .get key => KeyspaceScript.get key
  | .getAll keys => KeyspaceScript.getAll keys
  | .evaluate script keys arguments => script.perform keys arguments

end Command

/-- A server of keys, which may refuse all commands with one reply. -/
structure CacheServer where
  space : Keyspace
  /-- The reply to every command, if the server refuses them. -/
  refusal : Option String

namespace CacheServer

def execute (server : CacheServer) (command : Command) :
    Except String command.Answer × CacheServer :=
  match server.refusal with
  | some reply => (.error reply, server)
  | none =>
      let (answer, space) := command.perform.run.run server.space
      (answer, { server with space := space })

end CacheServer

structure SharedCache where
  names : KeyNames
  /-- For how many seconds an entry lives. -/
  seconds : Nat
  seconds_pos : 0 < seconds

namespace SharedCache

/-- A cache under a scope. A lifetime of zero seconds counts as one. -/
def opened (scope : String) (seconds : Nat) : SharedCache :=
  ⟨⟨scope⟩, max seconds 1, by omega⟩

def entryKey (cache : SharedCache) (user : UserId) (channel : ChannelId) : String :=
  cache.names.entry user.text channel.text

def maskText (mask : Mask) : String :=
  String.ofList (Text.writeNat 10 mask.toNat)

def maskOf (raw : String) : Except CacheError Mask :=
  match Text.readBelow 10 Text.wordBound raw.toList with
  | some value => .ok (.ofNat value)
  | none => .error (.malformed raw)

structure Entry where
  user : UserId
  channel : ChannelId
  mask : Mask
deriving DecidableEq

def entryKeys (cache : SharedCache) (entry : Entry) : List String :=
  [cache.entryKey entry.user entry.channel, cache.names.userIndex entry.user.text,
    cache.names.channelIndex entry.channel.text]

def entryArguments (entry : Entry) : List String :=
  [entry.user.text, entry.channel.text, maskText entry.mask]

/-- How a query is settled: without the server, or by one command and a reading of its answer. -/
inductive Exchange (α : Type) where
  | settled (answer : α)
  | asking (command : Command) (decode : command.Answer → Except CacheError α)

def decodeOne : Option String → Except CacheError (Option Mask)
  | none => .ok none
  | some raw => (maskOf raw).map some

/-- The masks of stored texts, filed under the identifiers that were asked for in the same places.
The first text that is no mask fails the whole. -/
def decodeMany : List Uuid → List (Option String) → Except CacheError (IdMap Mask)
  | id :: ids, some raw :: texts =>
      match maskOf raw with
      | .error problem => .error problem
      | .ok mask => (decodeMany ids texts).map fun others => others.insert id mask
  | _ :: ids, none :: texts => decodeMany ids texts
  | _, _ => .ok ∅

def reading (ids : List Uuid) (key : Uuid → String) : Exchange (IdMap Mask) :=
  if ids.isEmpty then .settled ∅ else .asking (.getAll (ids.map key)) (decodeMany ids)

def evaluating (script : Script) (keys arguments : List String) : Exchange Unit :=
  .asking (.evaluate script keys arguments) fun _ => .ok ()

def writing (cache : SharedCache) (entries : List Entry) : Exchange Unit :=
  if entries.isEmpty then .settled ()
  else
    evaluating .writeEntries (cache.names.users :: entries.flatMap cache.entryKeys)
      (String.ofList (Text.writeNat 10 cache.seconds) :: entries.flatMap entryArguments)

def exchange (cache : SharedCache) : (query : CacheQuery) → Exchange query.Answer
  | .get user channel => .asking (.get (cache.entryKey user channel)) decodeOne
  | .set user channel mask => cache.writing [⟨user, channel, mask⟩]
  | .getMany user channels => reading channels fun channel => cache.entryKey user channel
  | .setMany user masks =>
      cache.writing (masks.toList.map fun entry => ⟨user, entry.1, entry.2⟩)
  | .getManyUsers channel users => reading users fun user => cache.entryKey user channel
  | .setManyUsers channel masks =>
      cache.writing (masks.toList.map fun entry => ⟨entry.1, channel, entry.2⟩)
  | .deleteByUser user =>
      evaluating .dropUser [cache.names.users, cache.names.userIndex user.text]
        [cache.names.scope, user.text]
  | .deleteByChannel channel =>
      evaluating .dropChannel [cache.names.users, cache.names.channelIndex channel.text]
        [cache.names.scope, channel.text]
  | .deleteExact user channel =>
      evaluating .dropEntry
        [cache.names.users, cache.entryKey user channel, cache.names.userIndex user.text,
          cache.names.channelIndex channel.text]
        [user.text, channel.text]
  | .deleteAll => evaluating .dropAll [cache.names.users] [cache.names.scope]

def command? (cache : SharedCache) (query : CacheQuery) : Option Command :=
  match cache.exchange query with
  | .settled _ => none
  | .asking command _ => some command

def reply (cache : SharedCache) (query : CacheQuery) (server : CacheServer) :
    query.Reply × CacheServer :=
  match cache.exchange query with
  | .settled answer => (.ok answer, server)
  | .asking command decode =>
      match server.execute command with
      | (.error reason, server) => (.error (.refused reason), server)
      | (.ok answer, server) => (decode answer, server)

end SharedCache

end ChannelAccess
