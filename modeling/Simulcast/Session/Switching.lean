import Simulcast.Session.Basic
import Simulcast.Switching.Promotion

/-!
# Switching

How requests move the roles. A switch takes place at once if it is urgent, if no layer
is current or if no packets of the next layer need to be seen; else the layer becomes
the next one and is forwarded beside the current one until enough of its packets were
seen. A change of the roles is made as a whole before its effects are carried out.

While a layer overrides the decision, the roles move as they would without it, but
nothing is asked of layers and endpoints.
-/

namespace Simulcast.Session

open Switching

/-! ### Switching to a layer -/

/-- Whether a switch to a layer needs a keyframe of it: it is not on its way yet, and heard of. -/
def needsKeyframe (r : Request) (h : Handle) (s : Session) : Bool :=
  r.hardSwitch && s.roles.handle? .next != some h && !s.isOverridden

/-- Whether a switch takes place at once. -/
def isImmediate (r : Request) (s : Session) : Bool :=
  r.urgent || (s.holder? .current).isNone || s.minNextSeen < 1

/-- The announcement about a layer, unless the decision is overridden. -/
def announcementUnlessOverridden (kind : Announcement.Kind) (layer : Nat) (s : Session) :
    List Effect :=
  if s.isOverridden then [] else [.announcement kind layer]

/-- Switches to a layer that is not the current one. -/
def switchTo (r : Request) (o : Layer.Order) (h : Handle) (layer : Nat) (s : Session) :
    List Effect × Session :=
  let keyframe := if s.needsKeyframe r h then [.keyframe layer] else []
  if s.isImmediate r then
    (keyframe ++ s.announcementUnlessOverridden .changed layer,
      (s.note (.switched o r.urgent)).makeCurrent h false)
  else
    (keyframe ++ s.announcementUnlessOverridden .changing layer,
      (s.note (.bridging o)).makeNext h)

/-- Switches to the first layer of an order, if there is one that can be switched to. -/
def switchToOrder (r : Request) (o : Layer.Order) (s : Session) : List Effect × Session :=
  if !s.lineup.hasLayers then ([], s.note .nothingToSwitch)
  else
    match s.lineup.lookup o with
    | none => ([], s.note (.switchUnknown o))
    | some (h, layer) =>
      let l := s.lineup.layer layer
      if !l.order.isLowest && !l.streaming then ([], s.note (.notStreaming o))
      else if s.roles.handle? .current = some h then ([], s.dropNext)
      else s.switchTo r o h layer

/-- Takes over the threshold of a request. -/
def setThreshold (r : Request) (s : Session) : Session :=
  { s with minNextSeen := r.minNextSeen.getD s.minNextSeen }

/-- Follows a request: its threshold, then its switch. -/
def transition (r : Request) (s : Session) : List Effect × Session :=
  let s := s.setThreshold r
  match r.nextOrder with
  | none => ([], s)
  | some o => s.switchToOrder r o

/-- Follows a request, if there is one. -/
def configure (r : Option Request) (s : Session) : Session :=
  match r with
  | none => s.note .requestMissing
  | some r => commit (s.transition r)

/-! ### The highest and the lowest layer -/

/-- Switches to the highest layer. -/
def receiveHigh (s : Session) : Session :=
  match s.lineup.highest? with
  | none => s.note .nothingHighest
  | some o => s.configure (some (.toOrder o false))

/-- Gives up a next layer whose packets stopped. -/
def abandonNext (s : Session) : List Effect × Session :=
  match s.holder? .next with
  | none => ([], s)
  | some layer =>
    let l := s.lineup.layer layer
    if l.streaming then ([], s)
    else ([.announcement .stopped layer], (s.note (.nextStopped l.order)).dropNext)

/-- Switches to the lowest layer, and gives up a next layer whose packets stopped. -/
def receiveLow (urgent : Bool) (s : Session) : Session :=
  commit (s.configure (some (.toOrder .lowest urgent))).abandonNext

/-! ### Overriding the decision -/

/-- Lifts the override; the current layer is announced again. -/
def clearOverride (s : Session) : List Effect × Session :=
  let s := (s.assign .override none).note .overrideCleared
  match s.holder? .current with
  | some layer => ([.keyframe layer, .announcement .changed layer], s)
  | none => ([], s)

/-- Overrides the decision with the first layer of an order, if there is one. -/
def overrideWith (o : Layer.Order) (s : Session) : List Effect × Session :=
  match s.lineup.lookup o with
  | none => ([], s.note (.overrideUnknown o))
  | some (h, layer) =>
    ([.keyframe layer, .announcement .changed layer],
      (s.assign .override (some h)).note (.overridden o))

/-- Overrides the decision with a target. -/
def setOverride (t : Target) (s : Session) : Session :=
  if !s.lineup.hasLayers then s.note .nothingToOverride
  else
    match t with
    | .clear => commit s.clearOverride
    | .layer o => commit (s.overrideWith o)

/-- Follows the override in a request, if there is one. -/
def configureOverride (r : Option Request) (s : Session) : Session :=
  match r.bind (·.target) with
  | none => s
  | some t => s.setOverride t

/-! ### The threshold -/

/-- Reads the threshold, the first time. -/
def readThreshold (s : Session) : Session :=
  if s.initialized then s
  else
    let a := s.thresholds.lookup minNextSeenKey defaultMinNextSeen
    let s := s.witness (.thresholdRead minNextSeenKey defaultMinNextSeen)
    let s := (a.events.foldl (fun s e => s.note e) s).note (.initializing a.value)
    { s.configure (some (.ofThreshold a.value)) with initialized := true }

end Simulcast.Session
