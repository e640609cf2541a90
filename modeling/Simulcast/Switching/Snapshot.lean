import Simulcast.Layer.Order

/-!
# Snapshots

What an engine shows of its state: the orders of the layers that have the roles, and
how far the next layer is.
-/

namespace Simulcast.Switching

/-- The state of an engine at one moment. -/
structure Snapshot where
  /-- The order of the current layer. -/
  current : Option Layer.Order
  /-- The order of the next layer. -/
  next : Option Layer.Order
  /-- The order of the layer that overrides. -/
  override : Option Layer.Order
  /-- The packets of the next layer seen so far. -/
  seenNext : UInt32
  /-- The packets of the next layer to be seen. -/
  minNextSeen : Int32
  /-- Whether the threshold was read. -/
  initialized : Bool
  deriving DecidableEq, Repr

namespace Snapshot

/-- The wire name of the current layer. -/
def currentName : String := "current"

/-- The wire name of the next layer. -/
def nextName : String := "next"

/-- The wire name of the layer that overrides. -/
def overrideName : String := "override_order"

/-- The wire name of the packets seen so far. -/
def seenNextName : String := "seen_next"

/-- The wire name of the packets to be seen. -/
def minNextSeenName : String := "min_next_seen"

/-- The wire name of whether the threshold was read. -/
def initializedName : String := "initialized"

instance : Wire Snapshot where
  encode s := .object
    [(currentName, Json.ofOption Wire.encode s.current),
      (nextName, Json.ofOption Wire.encode s.next),
      (overrideName, Json.ofOption Wire.encode s.override),
      (seenNextName, Wire.encode s.seenNext), (minNextSeenName, Wire.encode s.minNextSeen),
      (initializedName, Wire.encode s.initialized)]
  reader := .record "SwitchingSnapshot"
    [Wire.optional Layer.Order currentName, Wire.optional Layer.Order nextName,
      Wire.optional Layer.Order overrideName, Wire.required UInt32 seenNextName,
      Wire.required Int32 minNextSeenName, Wire.required Bool initializedName]
  decode?
    | .list [current, next, override, seenNext, minNextSeen, initialized] => do
      pure
        { current := ← Wire.decodeOption? current
          next := ← Wire.decodeOption? next
          override := ← Wire.decodeOption? override
          seenNext := ← Wire.decode? seenNext
          minNextSeen := ← Wire.decode? minNextSeen
          initialized := ← Wire.decode? initialized }
    | _ => none

end Snapshot

end Simulcast.Switching
