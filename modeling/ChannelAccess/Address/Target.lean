import ChannelAccess.Address
import ChannelAccess.Config

/-!
# Where a database is

The host or the socket that an address of a database leads to. What an address says is looked at in
the order host, user, password, path, query, and the first fault counts. Escapes have to denote
UTF-8, and of the settings in the query those that limit, number or encrypt a connection have to
have values that exist; settings that nobody knows do not matter. The environment says where a
database is that an address says nothing about.
-/

namespace ChannelAccess

set_option autoImplicit false

inductive TargetFault where
  | address (fault : AddressFault)
  /-- The escapes in a part of it are no UTF-8. -/
  | encoding (fault : Text.Utf8Fault)
  | number (fault : Text.NumberFault)
  | hostNumber
  | encryption (value : String)
deriving DecidableEq

namespace TargetFault

def heading : String :=
  "error with configuration: "

/-- The wordings of a fault, the cause last. A way to encrypt is refused as a configuration of its
own. -/
def causes : TargetFault → List String
  | .address fault => [fault.message]
  | .encoding fault => [fault.message]
  | .number fault => [fault.message]
  | .hostNumber => ["invalid IP address syntax"]
  | .encryption value =>
      let problem := "unknown value " ++ Text.quoteText value ++ " for `ssl_mode`"
      [heading ++ problem, problem]

def chain (fault : TargetFault) : List String :=
  (heading ++ fault.causes.headD "") :: fault.causes

end TargetFault

structure Target where
  host : Address.Host
  port : Nat
  /-- The folder of a socket on the machine itself that is used instead. -/
  folder : Option (List Char)
deriving DecidableEq

namespace Target

open Text

def here : Target :=
  ⟨.name "localhost".toList, 5432, none⟩

def ofEnvironment (environment : Environment) : Target :=
  let host := (Config.textOf environment "PGHOSTADDR").or (Config.textOf environment "PGHOST")
  let port := (Config.textOf environment "PGPORT").bind fun value =>
    readBelow 10 (Nat.pow 2 16) value.toList
  ⟨(host.map fun value => .name value.toList).getD here.host, port.getD here.port, none⟩

/-- The path of the socket to use, if any. A host that starts with a slash is the folder of one. -/
def socket? (target : Target) : Option (List Char) :=
  let folder := match target.folder, target.host with
    | some folder, _ => some folder
    | none, .name ('/' :: rest) => some ('/' :: rest)
    | none, _ => none
  folder.map fun folder => folder ++ "/.s.PGSQL.".toList ++ writeNat 10 target.port

def checkEncoding (source : List Char) : Except TargetFault Unit :=
  match utf8Fault? (unescape source) with
  | some fault => .error (.encoding fault)
  | none => .ok ()

/-- Where the host of an address leads: to a socket if it denotes a path. -/
def withHost (target : Target) : Option Address.Host → Except TargetFault Target
  | none => .ok target
  | some .number => .ok { target with host := .number }
  | some (.name characters) =>
      let bytes := unescape characters
      if bytes.head? = some 0x2F then
        (checkEncoding characters).map fun () => { target with folder := ofUtf8Lenient bytes }
      else .ok { target with host := .name characters }

def encryptions : List String :=
  ["disable", "allow", "prefer", "require", "verify-ca", "verify-full"]

def applySetting (target : Target) (setting : String × String) : Except TargetFault Target :=
  let value := setting.2.toList
  if setting.1 = "sslmode" ∨ setting.1 = "ssl-mode" then
    if encryptions.contains (String.ofList (value.map Char.toLower)) then .ok target
    else .error (.encryption setting.2)
  else if setting.1 = "statement-cache-capacity" then
    ((readNumber 10 wordBound value).mapError .number).map fun _ => target
  else if setting.1 = "port" then
    ((readNumber 10 (Nat.pow 2 16) value).mapError .number).map fun port =>
      { target with port := port }
  else if setting.1 = "hostaddr" then
    if Address.isNumber value then .ok { target with host := .number } else .error .hostNumber
  else if setting.1 = "host" then
    if value.head? = some '/' then .ok { target with folder := value }
    else .ok { target with host := .name value }
  else .ok target

/-- Where an address leads, if databases are where `usual` tells. -/
def ofAddress (usual : Target) (address : Address) : Except TargetFault Target := do
  let target ← usual.withHost address.host
  checkEncoding address.user
  checkEncoding address.password
  checkEncoding (address.path.dropWhile (· = '/'))
  (queryPairs address.query).foldlM applySetting
    { target with port := address.port.getD target.port }

def read (usual : Target) (source : String) : Except TargetFault Target :=
  ((Address.read source).mapError .address).bind usual.ofAddress

end Target

end ChannelAccess
