import Simulcast.Announcement.Message
import Simulcast.Endpoint.Basic
import Simulcast.Journal.Event
import Simulcast.Layer.Basic

/-!
# The channel from a sender to a receiver

Announcements about the layers of one sender go to one receiver. Delivery is best
effort: a message that does not arrive is recorded and nothing more. The endpoints may
leave or fail at any time, also between two announcements that one request leads to.
-/

namespace Simulcast.Announcement

/-- What became of an announcement. -/
inductive Delivery where
  /-- The payload arrived. -/
  | sent (payload : String)
  /-- The payload was lost. -/
  | failed (payload : String) (cause : TransportFailure)
  /-- Nothing was sent, since the layer or an endpoint is missing. -/
  | skipped
  deriving DecidableEq, Repr

/-- How the endpoints of a channel are from some moment on. -/
structure Turn where
  /-- Whether the sender is there. -/
  senderPresent : Bool := true
  /-- Whether the receiver is there. -/
  receiverPresent : Bool := true
  /-- Why the channel of the receiver takes no message, if it does not. -/
  failure : Option TransportFailure := none
  deriving DecidableEq, Repr

/-- A sender and the receiver of its announcements. -/
structure Channel where
  /-- The sender. -/
  sender : Endpoint
  /-- The receiver. -/
  receiver : Endpoint
  /-- What becomes of the endpoints of their own accord, one turn after each announcement; once
  there is no turn left, they stay as they are. -/
  turns : List Turn := []
  deriving DecidableEq, Repr, Inhabited

namespace Channel

/-- What announcing leads to. -/
structure Outcome where
  /-- What became of the announcement. -/
  delivery : Delivery
  /-- The channel afterwards. -/
  channel : Channel
  /-- What the journal records. -/
  event : Journal.Event
  deriving Repr

/-- The channel after an announcement, the endpoints having taken their next turn. -/
def turned (c : Channel) : Channel :=
  match c.turns with
  | [] => c
  | t :: ts =>
    { sender := { c.sender with present := t.senderPresent }
      receiver := { c.receiver with present := t.receiverPresent, failure := t.failure }
      turns := ts }

/-- Announces a layer that is there. -/
def announceLayer (kind : Kind) (layer : Layer) (c : Channel) : Outcome :=
  if c.receiver.present && c.sender.present then
    let payload := (Message.about kind c.sender.id layer.description).payload
    match c.receiver.receive payload with
    | .ok receiver =>
      ⟨.sent payload, { c with receiver := receiver }.turned,
        .announced kind receiver.id layer.order⟩
    | .error cause =>
      ⟨.failed payload cause, c.turned, .lost kind c.receiver.id (.transport cause)⟩
  else ⟨.skipped, c.turned, .endpointGone kind⟩

/-- Announces a layer, if there is one. -/
def announce (kind : Kind) (layer : Option Layer) (c : Channel) : Outcome :=
  match layer with
  | some layer => c.announceLayer kind layer
  | none => ⟨.skipped, c, .layerAbsent kind⟩

end Channel

end Simulcast.Announcement
