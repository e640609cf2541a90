import Simulcast.Role.Holder
import Simulcast.Session.Action
import Simulcast.Session.Happening
import Simulcast.Switching.Snapshot
import Simulcast.Switching.Tally
import Simulcast.Switching.Threshold
import Simulcast.Trickle.Ledger

/-!
# Sessions

A session is an engine together with what surrounds it: the layers of the sender, the
channel to the receiver, the source of thresholds, and what happened so far.
-/

namespace Simulcast

/-- An engine and what surrounds it. -/
structure Session where
  /-- The layers of the sender. -/
  lineup : Lineup := .empty
  /-- The channel to the receiver. -/
  channel : Announcement.Channel := default
  /-- Where the threshold comes from. -/
  thresholds : Switching.Thresholds := default
  /-- The scripts that layers are armed with, the newest first. -/
  armed : List (Nat × List Session.Action) := []
  /-- Which handle each role holds. -/
  roles : Roles := .unset
  /-- The packets of the next layer seen since it became the next one. -/
  seenNext : UInt32 := 0
  /-- The packets of the next layer to be seen, for order zero. -/
  minNextSeen : Int32 := Switching.defaultMinNextSeen
  /-- Whether the threshold was read. -/
  initialized : Bool := false
  /-- The counters of packets that no layer selected. -/
  ledger : Trickle.Ledger := .empty
  /-- The statistics. -/
  tally : Switching.Tally := {}
  /-- What the engine asked for, the newest first. -/
  happenings : List Session.Happening := []
  /-- What the journal may record, the newest first. -/
  journal : List Journal.Event := []
  deriving Inhabited

namespace Session

/-! ### What is shown -/

/-- The number of the layer that has a role. -/
def holder? (s : Session) (role : Role) : Option Nat := s.roles.holder? role s.lineup

/-- Whether a layer overrides the decision. -/
def isOverridden (s : Session) : Bool := (s.holder? .override).isSome

/-- What the engine shows of its state. -/
def snapshot (s : Session) : Switching.Snapshot where
  current := s.roles.order? .current s.lineup
  next := s.roles.order? .next s.lineup
  override := s.roles.order? .override s.lineup
  seenNext := s.seenNext
  minNextSeen := s.minNextSeen
  initialized := s.initialized

/-- The times that a layer was asked for a keyframe. -/
def keyframes (s : Session) (layer : Nat) : Nat := s.happenings.count (.keyframe layer)

/-! ### Recording -/

/-- The session after an event that the journal may record. -/
def note (e : Journal.Event) (s : Session) : Session := { s with journal := e :: s.journal }

/-- The session after something that the engine asked for. -/
def witness (h : Happening) (s : Session) : Session := { s with happenings := h :: s.happenings }

/-! ### Roles -/

/-- Gives a role to what a handle names, or to nothing. -/
def assign (role : Role) (h : Option Handle) (s : Session) : Session :=
  { s with roles := s.roles.set role h }

/-- Gives up the next layer and the count of its packets. -/
def dropNext (s : Session) : Session := { s.assign .next none with seenNext := 0 }

/-- Makes what a handle names the current layer, with no next one. -/
def makeCurrent (h : Handle) (promoted : Bool) (s : Session) : Session :=
  let s := (s.assign .current (some h)).dropNext
  { s with tally := s.tally.switch promoted }

/-- Makes what a handle names the next layer, with none of its packets seen. -/
def makeNext (h : Handle) (s : Session) : Session :=
  { s.assign .next (some h) with seenNext := 0 }

/-! ### Effects -/

/-- Asks a layer for a keyframe. -/
def requestKeyframe (layer : Nat) (s : Session) : Session :=
  let s := (s.note (.keyframeRequested (s.lineup.order layer))).witness (.keyframe layer)
  { s with tally := s.tally.keyframe }

/-- Announces a layer. -/
def announce (kind : Announcement.Kind) (layer : Nat) (s : Session) : Session :=
  let o := s.channel.announceLayer kind (s.lineup.layer layer)
  let s := (s.note o.event).witness (.announced kind layer o.delivery)
  { s with channel := o.channel, tally := s.tally.announcement o.delivery }

/-- Carries out an effect. -/
def apply (s : Session) : Effect → Session
  | .keyframe layer => s.requestKeyframe layer
  | .announcement kind layer => s.announce kind layer

/-- Carries out the effects of a change that was made, in order. -/
def commit (change : List Effect × Session) : Session := change.1.foldl apply change.2

end Session

end Simulcast
