import Simulcast.Announcement.Kind
import Simulcast.Endpoint.Id
import Simulcast.Layer.Description

/-!
# Messages to a receiver

An announcement travels as a JSON text that names what happened and, for each layer
concerned, the sender and the sources of the layer.
-/

namespace Simulcast.Announcement

/-- A layer of a sender. -/
structure Entry where
  /-- The sender. -/
  endpoint : Endpoint.Id
  /-- The layer. -/
  layer : Layer.Description
  deriving DecidableEq, Repr

namespace Entry

/-- The wire name of the sender. -/
def endpointName : String := "endpoint"

/-- The wire name of the layer. -/
def layerName : String := "simulcastLayer"

instance : Wire Entry where
  encode e := .object [(endpointName, Wire.encode e.endpoint), (layerName, Wire.encode e.layer)]
  reader := .record "EndpointSimulcastLayer"
    [Wire.required Endpoint.Id endpointName, Wire.required Layer.Description layerName]
  decode?
    | .list [endpoint, layer] => do pure ⟨← Wire.decode? endpoint, ← Wire.decode? layer⟩
    | _ => none

end Entry

/-- What a receiver is told. -/
structure Message where
  /-- What happened. -/
  kind : Kind
  /-- The layers concerned. -/
  layers : List Entry
  deriving DecidableEq, Repr

namespace Message

/-- The wire name of the kind. -/
def kindName : String := "colibriClass"

/-- The wire name of the layers. -/
def layersName : String := "endpointSimulcastLayers"

instance : Wire Message where
  encode m :=
    .object [(kindName, Wire.encode m.kind), (layersName, .list (m.layers.map Wire.encode))]
  reader := .record "LayerEventMessage"
    [Wire.required Kind kindName,
      ⟨layersName, .list (Wire.reader Entry), none, none⟩]
  decode?
    | .list [kind, layers] => do pure ⟨← Wire.decode? kind, ← Wire.decodeList? layers⟩
    | _ => none

/-- The message about one layer of a sender. -/
def about (kind : Kind) (sender : Endpoint.Id) (layer : Layer.Description) : Message :=
  ⟨kind, [⟨sender, layer⟩]⟩

/-- The text that carries the message. -/
def payload (m : Message) : String := Wire.render m

/-- What a text announces: the kind and the primary source of the first layer, if it is a message
with a layer. -/
def gist? (payload : String) : Option (Kind × Source) :=
  match (Wire.parse payload : Except Json.Fault Message) with
  | .ok ⟨kind, entry :: _⟩ => some (kind, entry.layer.primary)
  | _ => none

end Message

end Simulcast.Announcement
