import ChannelAccess.Json.Choice
import ChannelAccess.Member
import ChannelAccess.Rank

/-!
# Errors of the service

The causes for which a request fails, their wording, and the response a client gets. A storage
failure is worded in full for operators only; its response says no more than that storage failed.
-/

namespace ChannelAccess

set_option autoImplicit false

inductive Fault where
  /-- A stored member has a standing that does not exist. -/
  | unknownStatus (label : String)
  /-- A stored override is attached to a kind of target that does not exist. -/
  | unknownTarget (label : String)
  /-- A stored override names a kind of principal that does not exist. -/
  | unknownPrincipal (label : String)
  /-- A mask has bits without a name. -/
  | reservedBits (bits : Mask)
  | stated (text : String)
deriving DecidableEq

def Fault.message : Fault → String
  | .unknownStatus label => "unknown member status: " ++ label
  | .unknownTarget label => "unknown override target type: " ++ label
  | .unknownPrincipal label => "unknown override principal type: " ++ label
  | .reservedBits bits =>
      "reserved permission bits set: 0x" ++ String.ofList (Text.writeNat 16 bits.toNat)
  | .stated text => text

inductive StorageFailure where
  | refused (reply : String)
  /-- A row that must exist does not. -/
  | rowNotFound
  | poolTimedOut
  | poolClosed
  | workerCrashed
  | stated (text : String)
deriving DecidableEq

def StorageFailure.message : StorageFailure → String
  | .refused reply => "error returned from database: " ++ reply
  | .rowNotFound => "no rows returned by a query that expected to return at least one row"
  | .poolTimedOut => "pool timed out while waiting for an open connection"
  | .poolClosed => "attempted to acquire a connection on a closed pool"
  | .workerCrashed => "attempted to communicate with a crashed background worker"
  | .stated text => text

inductive AccessError where
  | channelNotFound (channel : ChannelId)
  | overrideNotFound
  /-- A value is not acceptable. -/
  | validation (fault : Fault)
  | missingPermission (permission : Mask)
  | rank (cause : RankError)
  | storage (failure : StorageFailure)
deriving DecidableEq

inductive ErrorKind where
  | notFound
  | validation
  | forbidden
  | storage
deriving DecidableEq

namespace ErrorKind

def code : ErrorKind → String
  | .notFound => "not_found"
  | .validation => "validation"
  | .forbidden => "forbidden"
  | .storage => "storage"

def status : ErrorKind → Nat
  | .notFound => 404
  | .validation => 400
  | .forbidden => 403
  | .storage => 500

end ErrorKind

namespace AccessError

def kind : AccessError → ErrorKind
  | .channelNotFound _ => .notFound
  | .overrideNotFound => .notFound
  | .validation _ => .validation
  | .missingPermission _ => .forbidden
  | .rank _ => .forbidden
  | .storage _ => .storage

def message : AccessError → String
  | .channelNotFound channel => "Channel " ++ channel.text ++ " not found"
  | .overrideNotFound => "Permission override not found"
  | .validation fault => "Validation failed: " ++ fault.message
  | .missingPermission permission => "Missing permission: " ++ permission.description
  | .rank cause => cause.message
  | .storage failure => "Storage error: " ++ failure.message

def cause : AccessError → Option String
  | .rank cause => some cause.message
  | .storage failure => some failure.message
  | _ => none

def publicMessage : AccessError → String
  | .storage _ => "Storage error"
  | other => other.message

end AccessError

def Mask.validated (mask : Mask) : Except AccessError Mask :=
  if mask.reserved.isEmpty then .ok mask else .error (.validation (.reservedBits mask.reserved))

def Member.ofStored (user : UserId) (roles : List RoleId) (status : String) :
    Except AccessError Member :=
  match MemberStatus.choice.ofLabel? status with
  | some standing => .ok ⟨user, roleSet roles, standing⟩
  | none => .error (.validation (.unknownStatus status))

end ChannelAccess
