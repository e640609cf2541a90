import Simulcast.Session.Admission

/-!
# Running actions

`Session.act` carries out one action and gives what it answers. The scripts that
layers are armed with run while a layer is asked whether it owns a packet. Each script
runs once, so the number of scripts that there are bounds how deep they run inside one
another.
-/

namespace Simulcast.Session

/-- What an action answers. -/
inductive Reply where
  /-- Nothing. -/
  | nothing
  /-- A handle. -/
  | handle (h : Handle)
  /-- The primary source of a layer, if there is one. -/
  | source (primary : Option Source)
  /-- The decisions about packets, in order. -/
  | decisions (accepted : List Bool)
  deriving DecidableEq, Repr

/-! ### Layers -/

/-- A layer becomes part of the roster. -/
def insert (layer : Nat) (s : Session) : Handle × Session :=
  let (h, lineup) := s.lineup.insert layer
  (h, { s with lineup := lineup }.note (.registered (lineup.order layer) h))

/-- A layer comes and becomes part of the roster. -/
def add (l : Layer) (s : Session) : Handle × Session :=
  let n := s.lineup.layers.length
  { s with lineup := s.lineup.introduce l }.insert n

/-- What a handle names leaves the roster: the number of the layer, if it was there. -/
def remove (h : Handle) (s : Session) : Option Nat × Session :=
  match s.lineup.remove h with
  | (some n, lineup) => (some n, { s with lineup := lineup }.note (.removed (lineup.order n) h))
  | (none, lineup) => (none, { s with lineup := lineup })

/-- The engine forgets the counter of a source. -/
def forget (source : Source) (s : Session) : Session :=
  if s.ledger.contains source then
    { s with ledger := s.ledger.erase source }.note (.counterForgotten source)
  else s

/-! ### Packets -/

/-- Decides about packets, in order. -/
def acceptAll (during : During) : List Packet → Session → List Bool × Session
  | [], s => ([], s)
  | p :: ps, s =>
    let (b, s) := s.accept during p
    let (bs, s) := s.acceptAll during ps
    (b :: bs, s)

/-- The packets of a number of rounds, one of each source in a round, the sequence number growing
from round to round. -/
def rounds (sources : List Source) (sequence : UInt16) : Nat → List Packet
  | 0 => []
  | n + 1 => sources.map (.sample · sequence) ++ rounds sources (sequence + 1) n

/-- Decides about a number of sample packets of a layer. -/
def acceptSamples (during : During) (layer : Nat) : Nat → Session → List Bool × Session
  | 0, s => ([], s)
  | n + 1, s =>
    let p := (s.lineup.layer layer).samplePacket
    let s := { s with lineup := s.lineup.alter layer Layer.afterSample }
    let (b, s) := s.accept during p
    let (bs, s) := s.acceptSamples during layer n
    (b :: bs, s)

/-! ### Actions -/

/-- Changes the receiver. -/
def alterReceiver (f : Endpoint → Endpoint) (s : Session) : Session :=
  { s with channel := { s.channel with receiver := f s.channel.receiver } }

/-- Changes the sender. -/
def alterSender (f : Endpoint → Endpoint) (s : Session) : Session :=
  { s with channel := { s.channel with sender := f s.channel.sender } }

/-- Changes the layers. -/
def alterLineup (f : Lineup → Lineup) (s : Session) : Session := { s with lineup := f s.lineup }

/-- Arms a layer with a script, in place of another that it was armed with. -/
def arm (layer : Nat) (script : List Action) (s : Session) : Session :=
  { s with armed := (layer, script) :: s.armed.filter fun a => a.1 ≠ layer }

/-- What is done in an action, layers acting while they are asked. -/
def step (during : During) (s : Session) : Action → Reply × Session
  | .configure r => (.nothing, s.configure r)
  | .configureOverride r => (.nothing, s.configureOverride r)
  | .receiveHigh => (.nothing, s.receiveHigh)
  | .receiveLow urgent => (.nothing, s.receiveLow urgent)
  | .readThreshold => (.nothing, s.readThreshold)
  | .forget source => (.nothing, s.forget source)
  | .accept sources times sequence =>
    let (bs, s) := s.acceptAll during (rounds sources sequence times)
    (.decisions bs, s)
  | .acceptLayer layer times =>
    let (bs, s) := s.acceptSamples during layer times
    (.decisions bs, s)
  | .add l =>
    let (h, s) := s.add l
    (.handle h, s)
  | .insert layer =>
    let (h, s) := s.insert layer
    (.handle h, s)
  | .remove handle =>
    match s.lineup.issued[handle]? with
    | none => (.source none, s)
    | some h =>
      let (n, s) := s.remove h
      (.source (n.map fun n => (s.lineup.layer n).description.primary), s)
  | .clear => (.nothing, s.alterLineup .clear)
  | .setStreaming layer on =>
    (.nothing, s.alterLineup (.alter layer fun l => { l with streaming := on }))
  | .setOrder layer o => (.nothing, s.alterLineup (.alter layer fun l => { l with order := o }))
  | .withhold handle on =>
    match s.lineup.issued[handle]? with
    | none => (.nothing, s)
    | some h => (.nothing, s.alterLineup (.withhold h on))
  | .arm layer script => (.nothing, s.arm layer script)
  | .fail cause => (.nothing, s.alterReceiver fun e => { e with failure := cause })
  | .dropReceiver => (.nothing, s.alterReceiver fun e => { e with present := false })
  | .dropSender => (.nothing, s.alterSender fun e => { e with present := false })
  | .clearMessages => (.nothing, s.alterReceiver fun e => { e with inbox := [] })

/-- What a layer does while it is asked: its script, if it is armed with one, runs by `run`. -/
def runScript (run : Session → Action → Session) : During := fun _ layer s =>
  match s.armed.lookup layer with
  | none => s
  | some script => script.foldl run { s with armed := s.armed.filter fun a => a.1 ≠ layer }

/-- Carries out an action, scripts running at most as deep inside one another as `depth` says. -/
def actWithin : Nat → Session → Action → Reply × Session
  | 0 => step fun _ _ s => s
  | depth + 1 => step (runScript fun s a => (actWithin depth s a).2)

/-- The number of scripts that may still run in an action. -/
def scripts (s : Session) (a : Action) : Nat :=
  s.armed.foldl (fun n e => n + (Action.scriptsOf e.2 + 1)) a.scripts

/-- Carries out an action. -/
def act (s : Session) (a : Action) : Reply × Session := s.actWithin (s.scripts a) a

/-- Carries out actions in order. -/
def run (s : Session) (as : List Action) : Session := as.foldl (fun s a => (s.act a).2) s

/-! ### Decisions in short -/

/-- Puts a decision in front of runs of decisions. -/
def consRun (b : Bool) : List (Bool × Nat) → List (Bool × Nat)
  | [] => [(b, 1)]
  | (c, n) :: rs => if b = c then (c, n + 1) :: rs else (b, 1) :: (c, n) :: rs

/-- The runs of equal decisions, each with its length. -/
def runs (bs : List Bool) : List (Bool × Nat) := bs.foldr consRun []

/-! ### Beginning -/

/-- A session before anything is done: the layers join the roster one after the other. -/
def opening (layers : List Layer) (sender receiver : String) (thresholds : Switching.Thresholds) :
    Session :=
  layers.foldl (fun s l => (s.add l).2)
    { channel := { sender := .named sender, receiver := .named receiver }
      thresholds := thresholds }

end Simulcast.Session
