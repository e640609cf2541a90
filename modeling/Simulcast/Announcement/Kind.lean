import Simulcast.Json.Wire

/-!
# Kinds of announcements
-/

namespace Simulcast.Announcement

/-- What a receiver is told about a layer. -/
inductive Kind where
  /-- The layer is the one forwarded from now on. -/
  | changed
  /-- The layer is about to be forwarded. -/
  | changing
  /-- The layer was about to be forwarded, but its packets stopped. -/
  | stopped
  deriving DecidableEq, Repr

namespace Kind

/-- The kinds, in the order in which messages list them. -/
def all : List Kind := [.changed, .changing, .stopped]

/-- The kind in words. -/
def phrase : Kind → String
  | .changed => "layers changed"
  | .changing => "layers changing"
  | .stopped => "next layer stopped"

/-- The wire name of the kind. -/
def name : Kind → String
  | .changed => "SimulcastLayersChangedEvent"
  | .changing => "SimulcastLayersChangingEvent"
  | .stopped => "NextSimulcastLayerStoppedEvent"

/-- The kind with a wire name. -/
def ofName? (s : String) : Option Kind := all.find? fun k => k.name = s

instance : Wire Kind where
  encode k := .text k.name
  reader := .choice (all.map fun k => (k.name, none))
  decode?
    | .list [.text s, _] => ofName? s
    | _ => none

end Kind

end Simulcast.Announcement
