import Simulcast.Proofs.Session.Decision
import Simulcast.Session.Run

/-!
# Histories

A history lists what was done to a session, the newest first, as long as no layer acts
while it is asked: packets were decided about, and between them anything was done to the
engine, to the roster, to the layers and to the endpoints (`Operation`). The layers are
arbitrary: what a layer answers, also about packets, may be replaced at any time.
-/

namespace Simulcast.Session

open Switching

/-- Something that is done between packets. -/
inductive Operation where
  /-- The engine is asked for a switch. -/
  | configure (request : Option Request)
  /-- The engine is asked for the override in a request; a bare target is the request for it. -/
  | configureOverride (request : Option Request)
  /-- The engine is asked for the highest layer. -/
  | receiveHigh
  /-- The engine is asked for the lowest layer. -/
  | receiveLow (urgent : Bool)
  /-- The engine reads its threshold. -/
  | readThreshold
  /-- The engine forgets the counter of a source. -/
  | forget (source : Source)
  /-- A layer comes and becomes part of the roster. -/
  | add (layer : Layer)
  /-- A layer becomes part of the roster once more. -/
  | insert (layer : Nat)
  /-- What a handle names leaves the roster. -/
  | remove (h : Handle)
  /-- All layers leave the roster. -/
  | clear
  /-- A layer answers from now on as another one would. -/
  | alter (layer : Nat) (answers : Layer)
  /-- The receiver is from now on as another one would be. -/
  | alterReceiver (receiver : Endpoint)
  /-- The sender is from now on as another one would be. -/
  | alterSender (sender : Endpoint)

/-- The session after an operation. -/
def perform (s : Session) : Operation → Session
  | .configure r => s.configure r
  | .configureOverride r => s.configureOverride r
  | .receiveHigh => s.receiveHigh
  | .receiveLow urgent => s.receiveLow urgent
  | .readThreshold => s.readThreshold
  | .forget source => s.forget source
  | .add l => (s.add l).2
  | .insert layer => (s.insert layer).2
  | .remove h => (s.remove h).2
  | .clear => s.alterLineup .clear
  | .alter layer l => s.alterLineup (.alter layer fun _ => l)
  | .alterReceiver e => s.alterReceiver fun _ => e
  | .alterSender e => s.alterSender fun _ => e

/-- What a session goes through. -/
inductive Input where
  /-- Something that is done between packets. -/
  | operation (o : Operation)
  /-- A packet that is decided about. -/
  | packet (p : Packet)

/-- The session after an input. -/
def feed (s : Session) : Input → Session
  | .operation o => s.perform o
  | .packet p => (s.accept quiet p).2

/-- A session to which nothing was done. -/
def fresh (channel : Announcement.Channel) (thresholds : Thresholds) : Session :=
  { channel := channel, thresholds := thresholds }

/-- The session after a history. -/
def after (s : Session) : List Input → Session
  | [] => s
  | i :: past => (s.after past).feed i

end Simulcast.Session
