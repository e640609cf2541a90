import Simulcast.Json.Wire
import Simulcast.Packet

/-!
# The description of a layer

A receiver tells a layer by the sources of its packets: a primary one, and those
associated with it.
-/

namespace Simulcast.Layer

/-- The sources that identify a layer to a receiver. -/
structure Description where
  /-- The source of the media. -/
  primary : Source
  /-- The sources associated with it. -/
  associated : List Source := []
  deriving DecidableEq, Repr, Inhabited

namespace Description

/-- The wire name of the primary source. -/
def primaryName : String := "primarySSRC"

/-- The wire name of the associated sources. -/
def associatedName : String := "associatedSSRCs"

/-- The member for the associated sources, absent if there are none. -/
def associatedMembers (d : Description) : List (String × Json) :=
  match d.associated with
  | [] => []
  | sources => [(associatedName, .list (sources.map Wire.encode))]

instance : Wire Description where
  encode d := .object ((primaryName, Wire.encode d.primary) :: d.associatedMembers)
  reader := .record "LayerDescription"
    [Wire.required Source primaryName,
      Wire.defaulted associatedName (.list (Wire.reader Source)) (.list [])]
  decode?
    | .list [primary, associated] => do
      pure ⟨← Wire.decode? primary, ← Wire.decodeList? associated⟩
    | _ => none

/-- Whether a packet comes from one of the sources. -/
def owns (d : Description) (p : Packet) : Bool :=
  p.source == d.primary || d.associated.contains p.source

end Description

end Simulcast.Layer
