import ChannelAccess.Address.Target
import ChannelAccess.Cache.InProcess
import ChannelAccess.Cache.Shared
import ChannelAccess.Config
import ChannelAccess.Event

/-!
# Connections

Whether the service reaches the database and the shared cache server. On a host without a network no
connection can be opened, and each side words that in its own way. The address of the database is
looked at before that, the one of the cache server only afterwards.
-/

namespace ChannelAccess

set_option autoImplicit false

inductive Link where
  | up
  | down
deriving DecidableEq

/-- What stands between the service and a server where there is no network. -/
inductive Obstacle where
  | unreachable
  | unresolved
  | nulInHost
  | noSocket
  | nulInPath
  | longPath
deriving DecidableEq

def Obstacle.message : Obstacle → String
  | .unreachable => "Network is unreachable (os error 101)"
  | .unresolved =>
      "failed to lookup address information: Temporary failure in name resolution"
  | .nulInHost => "file name contained an unexpected NUL byte"
  | .noSocket => "No such file or directory (os error 2)"
  | .nulInPath => "paths must not contain interior null bytes"
  | .longPath => "path must be shorter than SUN_LEN"

def Address.unbracket (name : List Char) : List Char :=
  let isBracket (c : Char) : Bool := c == '[' || c == ']'
  ((name.dropWhile isBracket).reverse.dropWhile isBracket).reverse

/-- What stands between the service and a host where there is no network. The number of some hosts
is known without asking anyone. -/
def Address.Host.obstacle : Address.Host → Obstacle
  | .number => .unreachable
  | .name characters =>
      let name := Address.unbracket characters
      if name.any (·.toNat = 0) then .nulInHost
      else if name.map Char.toLower = "localhost".toList ∨ Address.isGrouped name = true ∨
          Address.isShortQuad name = true then .unreachable
      else .unresolved

def socketLimit : Nat := 108

def socketObstacle (path : List Char) : Obstacle :=
  if path.any (·.toNat = 0) then .nulInPath
  else if socketLimit ≤ (path.flatMap String.utf8EncodeChar).length then .longPath
  else .noSocket

def Target.obstacle (target : Target) : Obstacle :=
  match target.socket? with
  | some path => socketObstacle path
  | none => target.host.obstacle

inductive ConnectError where
  | databaseAddress (fault : TargetFault)
  | database (obstacle : Obstacle)
  | cacheServer
deriving DecidableEq

namespace ConnectError

def chain : ConnectError → List String
  | .databaseAddress fault => fault.chain
  | .database obstacle =>
      ["error communicating with database: " ++ obstacle.message, obstacle.message]
  | .cacheServer =>
      ["IO Error: Os \x7b code: 101, kind: NetworkUnreachable, " ++
        "message: \"Network is unreachable\" \x7d"]

def message (problem : ConnectError) : String :=
  problem.chain.headD ""

end ConnectError

/-- Opens a connection to the database at an address, where `usual` is the place of one that the
address says nothing about. -/
def Link.toDatabase {α : Type} (link : Link) (usual : Target) (address : String) (database : α) :
    Except ConnectError α :=
  match usual.read address with
  | .error fault => .error (.databaseAddress fault)
  | .ok target =>
      match link with
      | .up => .ok database
      | .down => .error (.database target.obstacle)

def Link.toCacheServer {α : Type} (link : Link) (server : α) : Except ConnectError α :=
  match link with
  | .up => .ok server
  | .down => .error .cacheServer

inductive CacheState where
  | inProcess (cache : InProcessCache)
  | shared (cache : SharedCache) (server : CacheServer)

namespace CacheState

def reply (query : CacheQuery) : CacheState → query.Reply × CacheState
  | .inProcess cache =>
      let (answer, cache) := cache.reply query
      (answer, .inProcess cache)
  | .shared cache server =>
      let (answer, server) := cache.reply query server
      (answer, .shared cache server)

def connect (link : Link) (config : Config) (server : CacheServer) :
    Except ConnectError (CacheState × List Event) :=
  match config.cacheBackend with
  | .inProcess => .ok (.inProcess (.fresh config.cacheSeconds), [.localCache])
  | .shared =>
      (link.toCacheServer server).map fun server =>
        (.shared (.opened config.cacheScope config.cacheSeconds) server, [])

end CacheState

end ChannelAccess
