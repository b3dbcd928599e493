import ChannelAccess.Connection

/-!
# Failures of the command line

Why an action is not carried out, and how that is written: the failure, then its causes, each
indented, and numbered from zero where there are several.
-/

namespace ChannelAccess

set_option autoImplicit false

def StorageFailure.chain : StorageFailure → List String
  | .refused reply => [StorageFailure.message (.refused reply), reply]
  | other => [other.message]

def AccessError.chain : AccessError → List String
  | .storage failure => AccessError.message (.storage failure) :: failure.chain
  | .rank cause => [AccessError.message (.rank cause), cause.message]
  | other => [other.message]

inductive Failure where
  /-- The configuration is not accepted. -/
  | config (problem : ConfigError)
  | connection (problem : ConnectError)
  | queueTooLarge
  /-- The schema could not be brought up to date. -/
  | migration (problem : StorageFailure)
  | access (problem : AccessError)
  | unknownPermission (name : String)
  /-- The user is not a member. -/
  | notMember (user : UserId)
deriving DecidableEq

namespace Failure

/-- The wording of a failure, the causes last. -/
def chain : Failure → List String
  | .config problem => problem.chain
  | .connection problem => problem.chain
  | .queueTooLarge => ["The invalidation queue is too large"]
  | .migration problem => ("while executing migrations: " ++ problem.message) :: problem.chain
  | .access problem => problem.chain
  | .unknownPermission name => ["Unknown permission: " ++ name]
  | .notMember user => ["User " ++ user.text ++ " is not a member"]

/-- The exit code of a failure. A queue that is too large stops the program itself. -/
def exitCode : Failure → Nat
  | .queueTooLarge => 101
  | _ => 1

/-- A text whose lines after the first start with blanks. -/
def hang (width : Nat) (source : String) : List Char :=
  source.toList.flatMap fun c => if c = '\n' then c :: List.replicate width ' ' else [c]

def numbered (number : Nat) : List String → List Char
  | [] => []
  | cause :: rest =>
      let label := Text.writeNat 10 number
      '\n' :: (List.replicate (5 - label.length) ' ' ++ label ++ ':' :: ' ' :: hang 7 cause) ++
        numbered (number + 1) rest

def causes : List String → List Char
  | [] => []
  | [cause] => '\n' :: (List.replicate 4 ' ' ++ hang 4 cause)
  | several => numbered 0 several

def text (failure : Failure) : String :=
  match failure.chain with
  | [] => "Error: "
  | [only] => "Error: " ++ only
  | first :: rest => "Error: " ++ first ++ "\n\nCaused by:" ++ String.ofList (causes rest)

end Failure

end ChannelAccess
