import Simulcast.Session.Switching

/-!
# Admission

Whether a packet is forwarded. The current layer is asked first, then the next one,
whose packets are counted until it takes over; a layer that overrides the decision is
asked last and has the say. Of the packets that no layer selects a few are let through.

A layer that is asked may act on the session before it answers. What it does then is a
parameter of `accept`: `during` gives the session after a layer with a role was asked.
-/

namespace Simulcast.Session

open Switching

/-! ### Asking layers -/

/-- What happens while a layer that has a role is asked for a packet. -/
abbrev During := Role → Nat → Session → Session

/-- Asks a layer whether it owns a packet. -/
def ask (during : During) (p : Packet) (role : Role) (layer : Nat) (s : Session) :
    Bool × Session :=
  let s := during role layer s
  ((s.lineup.layer layer).owns p, s)

/-- Asks the current layer. -/
def askCurrent (during : During) (p : Packet) (s : Session) : Bool × Session :=
  match s.holder? .current with
  | some layer => s.ask during p .current layer
  | none => (false, s)

/-! ### The next layer -/

/-- Counts one more packet of the next layer. -/
def countNext (s : Session) : Session := { s with seenNext := countUp s.seenNext }

/-- Counts a packet of the next layer, which takes over once enough were seen. The handle is the one
that the next role held when the layer was asked; nothing is counted if it does not hold it
any more. -/
def promote (h : Handle) (s : Session) : List Effect × Session :=
  if s.roles.handle? .next ≠ some h then ([], s)
  else
    match s.lineup.resolve h with
    | none => ([], s)
    | some layer =>
      let s := s.countNext
      let o := s.lineup.order layer
      if exceeds s.seenNext s.minNextSeen o then
        (s.announcementUnlessOverridden .changed layer,
          (s.note (.promoted o s.seenNext)).makeCurrent h true)
      else ([], s)

/-- Asks the next layer, and counts the packet if it is its own. -/
def askNext (during : During) (p : Packet) (s : Session) : Bool × Session :=
  match s.roles.handle? .next with
  | none => (false, s)
  | some h =>
    match s.lineup.resolve h with
    | none => (false, s)
    | some layer =>
      let (owned, s) := s.ask during p .next layer
      (owned, if owned then commit (s.promote h) else s)

/-! ### The decision -/

/-- Asks the layer that overrides the decision, if there is one. -/
def askOverride (during : During) (p : Packet) (selected : Bool) (s : Session) :
    Bool × Session :=
  match s.holder? .override with
  | some layer => s.ask during p .override layer
  | none => (selected, s)

/-- Whether the layers that have the roles select a packet. -/
def select (during : During) (p : Packet) (s : Session) : Bool × Session :=
  let (byCurrent, s) := s.askCurrent during p
  let (selected, s) := if byCurrent then (true, s) else s.askNext during p
  s.askOverride during p selected

/-- Counts a packet of a source that no layer selected: whether it is let through. -/
def trickle (source : Source) (s : Session) : Bool × Session :=
  let s := if s.ledger.contains source then s else s.note (.counterMade source Trickle.cycle)
  let ledger := (s.ledger.ensure source Trickle.cycle).step source
  let passes := (ledger.get? source).any fun a => a.counter.value < Trickle.admitted
  (passes, { s with ledger := ledger })

/-- Counts and records the decision about a packet. -/
def record (p : Packet) (accepted trickled : Bool) (s : Session) : Session :=
  let s := s.note (.decided p.source p.sequence accepted trickled)
  { s with tally := s.tally.packet accepted trickled }

/-- Decides about a packet once the layers were asked whether they select it. -/
def conclude (p : Packet) (selected : Bool) (s : Session) : Bool × Session :=
  if selected then (true, s.record p true false)
  else
    let (trickled, s) := s.trickle p.source
    (trickled, s.record p trickled trickled)

/-- Decides about a packet. -/
def accept (during : During) (p : Packet) (s : Session) : Bool × Session :=
  let (selected, s) := s.readThreshold.select during p
  s.conclude p selected

end Simulcast.Session
