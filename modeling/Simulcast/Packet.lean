/-!
# Packets

What the forwarding decision sees of a packet of media: the synchronisation source
that sent it and its sequence number, beside its timestamp and its payload.
-/

namespace Simulcast

/-- A synchronisation source, which numbers the packets of one stream. -/
abbrev Source := UInt32

/-- A packet of media. -/
structure Packet where
  /-- The source that the packet belongs to. -/
  source : Source
  /-- The sequence number within the source. -/
  sequence : UInt16
  /-- The time of the first sample. -/
  timestamp : UInt32
  /-- The media. -/
  payload : List UInt8
  deriving DecidableEq, Repr

namespace Packet

/-- The ticks of the media clock from one sample packet to the next. -/
def samplePeriod : UInt32 := 3000

/-- The bytes of a sample packet. -/
def sampleSize : Nat := 64

/-- A small packet of silence with the timestamp that its sequence number implies. -/
def sample (source : Source) (sequence : UInt16) : Packet where
  source := source
  sequence := sequence
  timestamp := sequence.toUInt32 * samplePeriod
  payload := List.replicate sampleSize 0

end Packet

end Simulcast
