import Simulcast.Layer.Order
import Simulcast.Layer.Description

/-!
# Layers

One quality of a sender's video, as the engine sees it: where it ranks, which
packets are its own, and whether packets of it arrive at present.
-/

namespace Simulcast

/-- One quality of a sender's video. -/
structure Layer where
  /-- Where the layer ranks. -/
  order : Layer.Order
  /-- The sources of its packets. -/
  description : Layer.Description
  /-- Whether packets of it arrive at present. -/
  streaming : Bool := true
  /-- The sequence number of the next sample packet of the layer. -/
  nextSequence : UInt16 := 0
  /-- Whether a packet belongs to the layer: one of its sources sent it, unless the layer tells its
  packets by something else. -/
  owns : Packet → Bool := description.owns

namespace Layer

instance : Inhabited Layer := ⟨{ order := default, description := default }⟩

/-- The next sample packet of the layer. -/
def samplePacket (l : Layer) : Packet := .sample l.description.primary l.nextSequence

/-- The layer after its next sample packet was taken. -/
def afterSample (l : Layer) : Layer := { l with nextSequence := l.nextSequence + 1 }

/-- The layer that a row of numbered layers has at a rank: its only source is a hundred times one
more than the rank. -/
def numbered (rank : UInt8) : Layer where
  order := ⟨rank⟩
  description := ⟨100 * (rank.toUInt32 + 1), []⟩

end Layer

end Simulcast
