import Simulcast.Endpoint.Id
import Simulcast.Endpoint.Failure

/-!
# Endpoints

A participant of a conference. Messages reach it through its channel while it is
there; the channel may fail for a time.
-/

namespace Simulcast

/-- A participant of a conference. -/
structure Endpoint where
  /-- Its name. -/
  id : Endpoint.Id
  /-- Whether it is still there. -/
  present : Bool := true
  /-- Why its channel takes no message at present, if it does not. -/
  failure : Option TransportFailure := none
  /-- The messages that reached it, the newest first. -/
  inbox : List String := []
  deriving DecidableEq, Repr, Inhabited

namespace Endpoint

/-- An endpoint with a name, there and with a working channel. -/
def named (id : String) : Endpoint := { id := ⟨id⟩ }

/-- The endpoint with a message, or why it did not arrive. -/
def receive (payload : String) (e : Endpoint) : Except TransportFailure Endpoint :=
  match e.failure with
  | some cause => .error cause
  | none => .ok { e with inbox := payload :: e.inbox }

/-- The messages that reached it, in order. -/
def messages (e : Endpoint) : List String := e.inbox.reverse

end Endpoint

end Simulcast
