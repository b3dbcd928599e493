import ChannelAccess.Event

/-!
# Responses

What a client receives for an error: the status of the error's class and a JSON body with the
class's code and a message. For a storage failure the message is the same whatever the cause, and
the cause goes to the log.
-/

namespace ChannelAccess

set_option autoImplicit false

structure Response where
  status : Nat
  contentType : String
  body : String
deriving DecidableEq

namespace AccessError

def body (problem : AccessError) : Json :=
  .object [("error", .text problem.kind.code), ("message", .text problem.publicMessage)]

def response (problem : AccessError) : Response :=
  ⟨problem.kind.status, "application/json", problem.body.compactText⟩

def events : AccessError → List Event
  | .storage failure => [.storageFailed failure]
  | _ => []

end AccessError

end ChannelAccess
