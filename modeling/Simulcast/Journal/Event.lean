import Simulcast.Announcement.Kind
import Simulcast.Endpoint.Failure
import Simulcast.Endpoint.Id
import Simulcast.Journal.Level
import Simulcast.Layer.Order
import Simulcast.Packet
import Simulcast.Roster.Handle
import Simulcast.Settings.Fault

/-!
# What the journal records

Everything that may be worth an entry, as it happened; `Event.entry` says which part
of the library speaks, how much it matters, and how it is put.
-/

namespace Simulcast.Journal

/-- The part of the library that an entry comes from. -/
inductive Topic where
  /-- The switching of layers. -/
  | engine
  /-- The roster of layers. -/
  | layer
  /-- The announcements. -/
  | notification
  /-- The counters. -/
  | counter
  /-- The settings. -/
  | config
  deriving DecidableEq, Repr

/-- The path of a topic, by which directives select it. -/
def Topic.path : Topic → String
  | .engine => "synctv_simulcast::engine"
  | .layer => "synctv_simulcast::layer"
  | .notification => "synctv_simulcast::notification"
  | .counter => "synctv_simulcast::counter"
  | .config => "synctv_simulcast::config"

/-- A value in an entry. -/
inductive Value where
  /-- A text that stands as it is. -/
  | bare (s : String)
  /-- A text that is quoted where quotes are needed. -/
  | quoted (s : String)
  /-- A whole number. -/
  | number (n : Int)
  /-- A truth value. -/
  | boolean (b : Bool)
  deriving DecidableEq, Repr

/-- An entry of the journal. -/
structure Entry where
  /-- How much it matters. -/
  level : Level
  /-- What it is about. -/
  topic : Topic
  /-- What it says. -/
  message : String
  /-- The values that go with it. -/
  fields : List (String × Value) := []
  deriving DecidableEq, Repr

/-- Something that is worth an entry. -/
inductive Event where
  /-- A layer joined the roster. -/
  | registered (order : Layer.Order) (handle : Handle)
  /-- A layer left the roster. -/
  | removed (order : Layer.Order) (handle : Handle)
  /-- The highest layer was asked for while there was none. -/
  | nothingHighest
  /-- The next layer was given up since its packets stopped. -/
  | nextStopped (order : Layer.Order)
  /-- A switch was asked for without a request. -/
  | requestMissing
  /-- An override was asked for while there was no layer. -/
  | nothingToOverride
  /-- The override was lifted. -/
  | overrideCleared
  /-- An override was asked for with an order that no layer has. -/
  | overrideUnknown (order : Layer.Order)
  /-- A layer overrides the others. -/
  | overridden (order : Layer.Order)
  /-- A switch was asked for while there was no layer. -/
  | nothingToSwitch
  /-- A switch was asked for to an order that no layer has. -/
  | switchUnknown (order : Layer.Order)
  /-- A switch was asked for to a layer whose packets do not arrive. -/
  | notStreaming (order : Layer.Order)
  /-- A layer became the current one at once. -/
  | switched (order : Layer.Order) (urgent : Bool)
  /-- A layer became the next one. -/
  | bridging (order : Layer.Order)
  /-- The next layer became the current one. -/
  | promoted (order : Layer.Order) (seen : UInt32)
  /-- The threshold was read. -/
  | initializing (threshold : Int32)
  /-- A keyframe was asked for. -/
  | keyframeRequested (order : Layer.Order)
  /-- The counter of a source was forgotten. -/
  | counterForgotten (source : Source)
  /-- It was decided about a packet. -/
  | decided (source : Source) (sequence : UInt16) (accepted trickled : Bool)
  /-- A counter was made for a source. -/
  | counterMade (source : Source) (bound : UInt32)
  /-- An announcement was asked for without a layer. -/
  | layerAbsent (kind : Announcement.Kind)
  /-- An announcement was not sent, since an endpoint is gone. -/
  | endpointGone (kind : Announcement.Kind)
  /-- An announcement was sent. -/
  | announced (kind : Announcement.Kind) (receiver : Endpoint.Id) (order : Layer.Order)
  /-- An announcement was lost. -/
  | lost (kind : Announcement.Kind) (receiver : Endpoint.Id) (cause : Failure)
  /-- A threshold among the settings does not fit into its range. -/
  | thresholdOutOfRange (key : String) (value : Int)
  /-- A threshold among the settings is no number. -/
  | thresholdInvalid (key : String) (cause : Settings.Fault)
  deriving DecidableEq, Repr

namespace Event

/-- The value of an order in an entry. -/
def orderField (o : Layer.Order) : String × Value := ("order", .bare o.text)

/-- The value of a handle in an entry. -/
def handleField (h : Handle) : String × Value := ("handle", .bare h.text)

/-- The value of a source in an entry. -/
def sourceField (s : Source) : String × Value := ("ssrc", .number s.toNat)

/-- The value of a kind of announcement in an entry. -/
def kindField (k : Announcement.Kind) : String × Value := ("event", .bare k.phrase)

/-- The value of a receiver in an entry. -/
def receiverField (i : Endpoint.Id) : String × Value := ("receiver", .bare i.text)

/-- The entry that records an event. -/
def entry : Event → Entry
  | .registered o h =>
    ⟨.debug, .layer, "Registered simulcast layer", [orderField o, handleField h]⟩
  | .removed o h => ⟨.debug, .layer, "Removed simulcast layer", [orderField o, handleField h]⟩
  | .nothingHighest => ⟨.warn, .engine, "Cannot receive high quality, no simulcast layers", []⟩
  | .nextStopped o =>
    ⟨.info, .engine, "Next simulcast layer stopped streaming", [orderField o]⟩
  | .requestMissing =>
    ⟨.warn, .engine, "Cannot configure next simulcast layer, options are missing", []⟩
  | .nothingToOverride => ⟨.warn, .engine, "Cannot configure override, no simulcast layers", []⟩
  | .overrideCleared => ⟨.info, .engine, "Cleared simulcast layer override", []⟩
  | .overrideUnknown o =>
    ⟨.warn, .engine, "Cannot override, no such simulcast layer", [orderField o]⟩
  | .overridden o => ⟨.info, .engine, "Overriding simulcast layer", [orderField o]⟩
  | .nothingToSwitch =>
    ⟨.warn, .engine, "Cannot configure next simulcast layer, no simulcast layers", []⟩
  | .switchUnknown o =>
    ⟨.warn, .engine, "Cannot configure next simulcast layer, no such layer", [orderField o]⟩
  | .notStreaming o =>
    ⟨.debug, .engine, "Not switching to a layer that is not streaming", [orderField o]⟩
  | .switched o urgent =>
    ⟨.info, .engine, "Switched simulcast layer", [orderField o, ("urgent", .boolean urgent)]⟩
  | .bridging o => ⟨.info, .engine, "Bridging to simulcast layer", [orderField o]⟩
  | .promoted o seen =>
    ⟨.info, .engine, "Promoted next simulcast layer",
      [orderField o, ("seen_next", .number seen.toNat)]⟩
  | .initializing threshold =>
    ⟨.debug, .engine, "Initializing switching send mode",
      [("min_next_seen", .number threshold.toInt)]⟩
  | .keyframeRequested o => ⟨.debug, .engine, "Requesting keyframe", [orderField o]⟩
  | .counterForgotten s => ⟨.debug, .engine, "Removed dropped packet counter", [sourceField s]⟩
  | .decided s sequence accepted trickled =>
    ⟨.trace, .engine, "Simulcast admission decision",
      [sourceField s, ("seq", .number sequence.toNat), ("accept", .boolean accepted),
        ("trickled", .boolean trickled)]⟩
  | .counterMade s bound =>
    ⟨.debug, .counter, "Creating dropped packet counter",
      [sourceField s, ("bound", .number bound.toNat)]⟩
  | .layerAbsent k =>
    ⟨.warn, .notification, "Requested to send a layer event but layer is absent", [kindField k]⟩
  | .endpointGone k =>
    ⟨.warn, .notification, "Didn't send layer event because an endpoint is gone", [kindField k]⟩
  | .announced k receiver o =>
    ⟨.debug, .notification, "Sent layer event",
      [kindField k, receiverField receiver, orderField o]⟩
  | .lost k receiver cause =>
    ⟨.error, .notification, "Failed to send layer event on data channel",
      [kindField k, receiverField receiver, ("error", .bare cause.message)]⟩
  | .thresholdOutOfRange key value =>
    ⟨.warn, .config, "Threshold out of range, using default",
      [("key", .quoted key), ("value", .number value)]⟩
  | .thresholdInvalid key cause =>
    ⟨.warn, .config, "Invalid threshold, using default",
      [("key", .quoted key), ("error", .bare cause.message)]⟩

end Event

end Simulcast.Journal
