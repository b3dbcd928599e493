import ChannelAccess.CommandLine.Arguments
import ChannelAccess.CommandLine.Failure
import ChannelAccess.Deployment

/-!
# The command line

What a run of the program prints and what it leaves on the database and on the cache server. The
arguments are looked at first, then the environment, then the servers are connected to. The queue is
emptied before anything is printed.
-/

namespace ChannelAccess

set_option autoImplicit false

structure Surroundings where
  link : Link
  tables : Tables
  server : CacheServer

inductive Outcome where
  | printed (text : String)
  | failed (failure : Failure)
  | misused

namespace Outcome

def exitCode : Outcome → Nat
  | .printed _ => 0
  | .failed failure => failure.exitCode
  | .misused => 2

def output : Outcome → String
  | .printed text => text
  | _ => ""

def complaint : Outcome → Option String
  | .failed failure => some failure.text
  | _ => none

end Outcome

namespace CommandLine

def version : String :=
  "vc-authz 0.1.0\n"

def usage : String :=
  "Usage: vc-authz <COMMAND>\n\nCommands:\n" ++
    "  migrate\n" ++
    "  resolve --user <USER> --channel <CHANNEL>\n" ++
    "  check --user <USER> --channel <CHANNEL> --permission <PERMISSION>\n" ++
    "  member --user <USER>\n" ++
    "  overrides --channel <CHANNEL>\n" ++
    "  invalidate all | user <ID> | channel <ID>\n" ++
    "  help\n"

structure Session where
  tables : Tables
  cache : CacheState
  queue : Queue
  events : List Event

def Session.deployment (session : Session) : Deployment :=
  ⟨.database session.tables, session.cache, some session.queue, .none,
    session.events.map .report⟩

def connect (environment : Environment) (host : Surroundings) : Except Failure Session := do
  let config ← (Config.ofEnvironment environment).mapError .config
  let usual := Target.ofEnvironment environment
  let tables ← (host.link.toDatabase usual config.databaseUrl host.tables).mapError .connection
  let (cache, events) ← (CacheState.connect host.link config host.server).mapError .connection
  match Queue.start? config.queueCapacity with
  | some queue => return ⟨tables, cache, queue, events⟩
  | none => throw .queueTooLarge

def permissionsJson (user : UserId) (channel : ChannelId) (mask : Mask) : Json :=
  .object [
    ("bits", .nat mask.toNat),
    ("channel_id", .text channel.text),
    ("permissions", Json.list (fun flag => .text flag.label) mask.flags),
    ("user_id", .text user.text)]

def checkJson (user : UserId) (channel : ChannelId) (permission : String) (granted : Bool) : Json :=
  .object [
    ("channel_id", .text channel.text),
    ("granted", .bool granted),
    ("permission", .text permission),
    ("user_id", .text user.text)]

def memberJson (member : Member) (roles : List Role) (owner : Bool) : Json :=
  .object [
    ("eligible", .bool member.status.eligible),
    ("highest_position",
      Json.ofOption (fun position => .integer position.toInt) (Rank.highestPosition roles)),
    ("is_owner", .bool owner),
    ("roles", Json.list Role.toJson roles),
    ("status", .text (MemberStatus.choice.label member.status)),
    ("user_id", .text member.user.text)]

def describeMember (tables : Tables) (user : UserId) : Except Failure Json := do
  match ← (tables.readMember user).mapError .access with
  | none => throw (.notMember user)
  | some member =>
      let roles ← (tables.readMemberRoles user).mapError .access
      let owner ← (tables.readIsOwner user).mapError .access
      return memberJson member roles owner

def attempt {α : Type} (deployment : Deployment) (wanted : Attempt α) (render : α → Json) :
    Except Failure Json × Deployment :=
  let (reply, after) := deployment.carryOut wanted.run
  ((reply.map render).mapError .access, after)

def perform (session : Session) : Action → Except Failure Json × Deployment
  | .migrate =>
      match session.tables.runMigrations with
      | .error problem => (.error (.migration problem), session.deployment)
      | .ok tables =>
          (.ok (.object [("migrated", .bool true)]), { session with tables := tables }.deployment)
  | .resolve user channel =>
      attempt session.deployment (Resolver.resolve user channel) (permissionsJson user channel)
  | .check user channel permission =>
      match Flag.ofLabelIgnoringCase? permission with
      | none => (.error (.unknownPermission permission), session.deployment)
      | some flag =>
          attempt session.deployment (Resolver.hasPermission user channel (.ofFlag flag))
            (checkJson user channel permission)
  | .member user => (describeMember session.tables user, session.deployment)
  | .overrides channel =>
      attempt session.deployment (Service.listOverrides channel) (Json.list Override.toJson)
  | .invalidate scope =>
      let ((), after) := session.deployment.carryOut (Service.invalidate .queued scope)
      (.ok (.object [("invalidated", .bool true)]), after)

def Session.leave (host : Surroundings) (deployment : Deployment) : Surroundings :=
  { host with
    tables := match deployment.store with
      | .database tables => tables
      | .inMemory _ => host.tables
    server := match deployment.cache with
      | .shared _ server => server
      | .inProcess _ => host.server }

/-- A run of the program: how it ends, what the log says, and the servers after it. -/
def run (arguments : List String) (environment : Environment) (host : Surroundings) :
    Outcome × List Event × Surroundings :=
  match Arguments.read arguments with
  | .error .help => (.printed usage, [], host)
  | .error .version => (.printed version, [], host)
  | .error .misuse => (.misused, [], host)
  | .ok action =>
      match connect environment host with
      | .error failure => (.failed failure, [], host)
      | .ok session =>
          match perform session action with
          | (.error failure, after) => (.failed failure, after.events, Session.leave host after)
          | (.ok answer, after) =>
              let last := after.drain
              (.printed (answer.prettyText ++ "\n"), last.events, Session.leave host last)

end CommandLine

end ChannelAccess
