import Simulcast.Layer.Order

/-!
# Requests

What an engine can be asked for: a switch to a layer, another threshold, and a layer
that overrides the decision or the end of such an override.
-/

namespace Simulcast.Switching

/-- What to override the decision with. -/
inductive Target where
  /-- Nothing. -/
  | clear
  /-- The first layer of an order. -/
  | layer (order : Layer.Order)
  deriving DecidableEq, Repr

namespace Target

/-- The wire name of no override. -/
def clearName : String := "clear"

/-- The wire name of a layer as the target. -/
def layerName : String := "layer"

instance : Wire Target where
  encode
    | .clear => .text clearName
    | .layer o => .object [(layerName, Wire.encode o)]
  reader := .choice [(clearName, none), (layerName, some (Wire.reader Layer.Order))]
  decode?
    | .list [.text _, .null] => some .clear
    | .list [.text _, order] => (Wire.decode? order).map .layer
    | _ => none

end Target

/-- What an engine is asked for. -/
structure Request where
  /-- The order of the layer to switch to. -/
  nextOrder : Option Layer.Order := none
  /-- The threshold from now on. -/
  minNextSeen : Option Int32 := none
  /-- What to override the decision with. -/
  target : Option Target := none
  /-- Whether the switch needs a keyframe. -/
  hardSwitch : Bool := false
  /-- Whether the switch must not wait. -/
  urgent : Bool := false
  deriving DecidableEq, Repr, Inhabited

namespace Request

/-- The request for nothing. -/
def nothing : Request := {}

/-- The request to switch to an order with a keyframe. -/
def toOrder (o : Layer.Order) (urgent : Bool) : Request :=
  { nextOrder := some o, hardSwitch := true, urgent := urgent }

/-- The request for a threshold. -/
def ofThreshold (m : Int32) : Request := { minNextSeen := some m }

/-- The request for an override. -/
def ofTarget (t : Target) : Request := { target := some t }

end Request

end Simulcast.Switching
