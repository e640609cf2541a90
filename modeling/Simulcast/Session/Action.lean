import Simulcast.Endpoint.Failure
import Simulcast.Layer.Basic
import Simulcast.Switching.Request

/-!
# Actions

Everything that can be done to an engine, to the layers of its sender and to its
endpoints. A layer can be armed with a script, which runs the next time the layer is
asked whether it owns a packet.
-/

namespace Simulcast.Session

/-- Something that is done. Layers and handles are named by their number. -/
inductive Action where
  /-- The engine is asked for a switch. -/
  | configure (request : Option Switching.Request)
  /-- The engine is asked for the override in a request. -/
  | configureOverride (request : Option Switching.Request)
  /-- The engine is asked for the highest layer. -/
  | receiveHigh
  /-- The engine is asked for the lowest layer. -/
  | receiveLow (urgent : Bool)
  /-- The engine reads its threshold. -/
  | readThreshold
  /-- The engine forgets the counter of a source. -/
  | forget (source : Source)
  /-- The engine decides about packets: for a number of times, one of each source, the sequence
  number growing from time to time. -/
  | accept (sources : List Source) (times : Nat) (sequence : UInt16)
  /-- The engine decides about a number of sample packets of a layer. -/
  | acceptLayer (layer : Nat) (times : Nat)
  /-- A layer comes. -/
  | add (layer : Layer)
  /-- A layer becomes part of the roster once more. -/
  | insert (layer : Nat)
  /-- What a handle names leaves the roster. -/
  | remove (handle : Nat)
  /-- All layers leave the roster. -/
  | clear
  /-- Packets of a layer arrive from now on, or do not. -/
  | setStreaming (layer : Nat) (on : Bool)
  /-- A layer ranks elsewhere from now on. -/
  | setOrder (layer : Nat) (order : Layer.Order)
  /-- A handle is not answered from now on, or is again. -/
  | withhold (handle : Nat) (on : Bool)
  /-- A layer is armed with a script. -/
  | arm (layer : Nat) (script : List Action)
  /-- The channel of the receiver fails from now on, or works again. -/
  | fail (cause : Option TransportFailure)
  /-- The receiver leaves. -/
  | dropReceiver
  /-- The sender leaves. -/
  | dropSender
  /-- The messages that reached the receiver are thrown away. -/
  | clearMessages

namespace Action

mutual

/-- The number of scripts in an action. -/
def scripts : Action → Nat
  | .arm _ script => scriptsOf script + 1
  | _ => 0

/-- The number of scripts in a list of actions. -/
def scriptsOf : List Action → Nat
  | [] => 0
  | a :: as => scripts a + scriptsOf as

end

end Action

end Simulcast.Session
