import Simulcast.Proofs.Roster.Generation
import Simulcast.Proofs.Session.Interruption

/-!
# Roles that are given up at once

A role whose layer has left keeps its handle. One could also give the role up as soon as the layer
leaves: `performEager` does. `Relieved s t` says that the session `t` is the session `s` apart from
the roles that hold a handle in vain, which are given up in `t`. The handles that matter still
resolve, so every part of the engine does the same to both and leaves them so related; of the
handles that do not, it is enough to know that they were issued once, since no layer that comes
later answers to them.
-/

namespace Simulcast.Session

open Switching

/-! ### Giving up roles -/

/-- Whether the layer of a role was there before and is not any more. -/
def lost (before s : Session) (role : Role) : Bool :=
  (before.holder? role).isSome && (s.holder? role).isNone

/-- Gives up a role that lost its layer. -/
def relieveOf (before : Session) (role : Role) (s : Session) : Session :=
  if lost before s role then
    match role with
    | .next => s.dropNext
    | role => s.assign role none
  else s

/-- Gives up each role that lost its layer. -/
def relieve (before s : Session) : Session :=
  relieveOf before .override (relieveOf before .next (relieveOf before .current s))

/-- The session after an operation, the roles of layers that leave being given up at once. -/
def performEager (s : Session) : Operation → Session
  | .remove h => relieve s (s.perform (.remove h))
  | .clear => relieve s (s.perform .clear)
  | o => s.perform o

/-! ### Sessions apart from their roles -/

/-- The session with other roles and another count. -/
def recast (roles : Roles) (seenNext : UInt32) (s : Session) : Session :=
  { s with roles := roles, seenNext := seenNext }

theorem relieveOf_recast (before : Session) (role : Role) (s : Session) :
    relieveOf before role s =
      s.recast (relieveOf before role s).roles (relieveOf before role s).seenNext := by
  unfold relieveOf
  split
  · cases role <;> rfl
  · rfl

theorem relieveOf_lineup (before : Session) (role : Role) (s : Session) :
    (relieveOf before role s).lineup = s.lineup := by
  rw [relieveOf_recast]
  rfl

theorem relieve_recast (before s : Session) :
    relieve before s = s.recast (relieve before s).roles (relieve before s).seenNext := by
  unfold relieve
  rw [relieveOf_recast before .override, relieveOf_recast before .next,
    relieveOf_recast before .current]
  rfl

/-- Relieving one role changes what no other holds. -/
theorem handle?_relieveOf (before : Session) (role other : Role) (s : Session) :
    (relieveOf before role s).roles.handle? other =
      if other = role ∧ lost before s role = true then none else s.roles.handle? other := by
  unfold relieveOf
  cases hl : lost before s role with
  | true => cases role <;> simp [dropNext, assign]
  | false => simp

theorem lost_relieveOf_of_ne {role other : Role} (before before' s : Session)
    (ne : other ≠ role) : lost before (relieveOf before' role s) other = lost before s other := by
  have kept : (relieveOf before' role s).holder? other = s.holder? other :=
    holder?_congr (relieveOf_lineup before' role s) (by rw [handle?_relieveOf, if_neg (ne ·.1)])
  rw [lost, lost, kept]

/-- After relieving, the roles that lost their layers hold nothing, and the others what they
held. -/
theorem handle?_relieve (before : Session) (role : Role) (s : Session) :
    (relieve before s).roles.handle? role =
      if lost before s role then none else s.roles.handle? role := by
  unfold relieve
  cases role <;> simp [handle?_relieveOf, lost_relieveOf_of_ne]

/-- Only relieving the next role changes the count of its packets. -/
theorem seenNext_relieveOf_of_ne {role : Role} (before s : Session) (ne : role ≠ .next) :
    (relieveOf before role s).seenNext = s.seenNext := by
  unfold relieveOf
  split
  · cases role
    · rfl
    · exact absurd rfl ne
    · rfl
  · rfl

/-- The count stays as long as there is a next layer. -/
theorem seenNext_relieve (before s : Session)
    (h : ((relieve before s).roles.handle? .next).isSome) :
    (relieve before s).seenNext = s.seenNext := by
  have kept : lost before s .next = false := by
    cases hl : lost before s .next with
    | true => simp [handle?_relieve, hl] at h
    | false => rfl
  have kept' : ¬ lost before (relieveOf before .current s) .next = true := by
    rw [lost_relieveOf_of_ne _ _ _ (by simp), kept]
    exact Bool.false_ne_true
  unfold relieve
  rw [seenNext_relieveOf_of_ne _ _ (by simp), relieveOf, if_neg kept',
    seenNext_relieveOf_of_ne _ _ (by simp)]

/-! ### Steps that are blind to the roles -/

/-- The step neither looks at the roles and the count nor changes them. -/
def Blind (f : Session → Session) : Prop :=
  ∀ roles seenNext s, f (s.recast roles seenNext) = (f s).recast roles seenNext

namespace Blind

variable {f : Session → Session}

theorem roles (h : Blind f) (s : Session) : (f s).roles = s.roles :=
  (congrArg Session.roles (h s.roles s.seenNext s)).trans rfl

theorem seenNext (h : Blind f) (s : Session) : (f s).seenNext = s.seenNext :=
  (congrArg Session.seenNext (h s.roles s.seenNext s)).trans rfl

theorem note (e : Journal.Event) : Blind (·.note e) := fun _ _ _ => rfl

theorem setThreshold (r : Request) : Blind (·.setThreshold r) := fun _ _ _ => rfl

theorem switched (promoted : Bool) :
    Blind fun s => { s with tally := s.tally.switch promoted } := fun _ _ _ => rfl

theorem apply (e : Effect) : Blind (·.apply e) := fun _ _ _ => by cases e <;> rfl

theorem commit (es : List Effect) : Blind fun s => commit (es, s) := by
  intro roles k s
  induction es generalizing s with
  | nil => rfl
  | cons e es ih =>
    exact (congrArg (fun s => Session.commit (es, s)) (apply e roles k s)).trans (ih (s.apply e))

theorem readThreshold : Blind readThreshold := by
  intro roles k s
  cases hi : s.initialized with
  | true =>
    have hi' : (s.recast roles k).initialized = true := hi
    rw [readThreshold_of_initialized hi, readThreshold_of_initialized hi']
  | false =>
    have hi' : (s.recast roles k).initialized = false := hi
    rw [readThreshold_of_not_initialized hi, readThreshold_of_not_initialized hi']
    rfl

theorem forget (source : Source) : Blind (·.forget source) := by
  intro roles k s
  unfold Session.forget
  cases hc : s.ledger.contains source <;> simp [Session.recast, hc, Session.note]

theorem add (l : Layer) : Blind fun s => (s.add l).2 := fun _ _ _ => rfl

theorem insert (layer : Nat) : Blind fun s => (s.insert layer).2 := fun _ _ _ => rfl

theorem remove (h : Handle) : Blind fun s => (s.remove h).2 := by
  intro roles k s
  cases hr : s.lineup.remove h with
  | mk n u => cases n <;> simp [Session.remove, Session.recast, hr, Session.note]

theorem alterLineup (f : Lineup → Lineup) : Blind (·.alterLineup f) := fun _ _ _ => rfl

theorem alterReceiver (f : Endpoint → Endpoint) : Blind (·.alterReceiver f) := fun _ _ _ => rfl

theorem alterSender (f : Endpoint → Endpoint) : Blind (·.alterSender f) := fun _ _ _ => rfl

end Blind

/-- Concluding a decision is blind to the roles, too. -/
theorem conclude_recast (p : Packet) (selected : Bool) (roles : Roles) (k : UInt32) (s : Session) :
    (s.recast roles k).conclude p selected =
      ((s.conclude p selected).1, (s.conclude p selected).2.recast roles k) := by
  unfold conclude
  cases selected with
  | true => rfl
  | false =>
    simp only [Bool.false_eq_true, if_false, trickle]
    cases hc : s.ledger.contains p.source <;> simp [recast, hc, note, record]

theorem Blind.conclude (p : Packet) (selected : Bool) :
    Blind fun s => (s.conclude p selected).2 :=
  fun roles k s => congrArg Prod.snd (conclude_recast p selected roles k s)

/-! ### Sessions that differ in the roles held in vain -/

/-- The handle that a role holds, as long as it resolves. -/
def standing (s : Session) (role : Role) : Option Handle :=
  (s.roles.handle? role).filter fun h => (s.lineup.resolve h).isSome

/-- The second session is the first one, its roles that hold a handle in vain given up. -/
structure Relieved (s t : Session) : Prop where
  /-- The sessions agree apart from the roles and the count. -/
  same : t = s.recast t.roles t.seenNext
  /-- The roles hold the handles that resolve. -/
  standing : ∀ role, t.roles.handle? role = s.standing role
  /-- The count is the same as long as there is a next layer. -/
  seenNext : (t.roles.handle? .next).isSome → t.seenNext = s.seenNext
  /-- The handles that the roles hold were issued. -/
  issued : ∀ role h, s.roles.handle? role = some h → s.lineup.roster.Issued h
  /-- All handles are answered. -/
  withheld : s.lineup.withheld = []

/-- The same result, in sessions that differ in the roles held in vain. -/
def Alike {α : Type} (c d : α × Session) : Prop := d.1 = c.1 ∧ Relieved c.2 d.2

theorem resolve_of_withheld {t : Lineup} (h : t.withheld = []) (hd : Handle) :
    t.resolve hd = t.roster.resolve hd := by
  simp [Lineup.resolve, h]

namespace Relieved

variable {s t : Session} (rel : Relieved s t)
include rel

/-! ### What the sessions show -/

theorem lineup : t.lineup = s.lineup :=
  (congrArg Session.lineup rel.same).trans rfl

theorem minNextSeen : t.minNextSeen = s.minNextSeen :=
  (congrArg Session.minNextSeen rel.same).trans rfl

theorem initialized : t.initialized = s.initialized :=
  (congrArg Session.initialized rel.same).trans rfl

/-- The same layers have the roles. -/
theorem holder? (role : Role) : t.holder? role = s.holder? role := by
  rw [Session.holder?, Session.holder?, Roles.holder?, Roles.holder?, rel.standing, rel.lineup,
    Session.standing]
  cases s.roles.handle? role with
  | none => rfl
  | some h => cases hr : s.lineup.resolve h <;> simp [Option.filter, hr]

theorem isOverridden : t.isOverridden = s.isOverridden := by
  rw [Session.isOverridden, Session.isOverridden, rel.holder?]

/-- Handles that resolve are held by the same roles. -/
theorem handle?_eq_iff {h : Handle} (there : (s.lineup.resolve h).isSome) (role : Role) :
    t.roles.handle? role = some h ↔ s.roles.handle? role = some h := by
  rw [rel.standing, Session.standing, Option.filter_eq_some_iff]
  exact ⟨fun held => held.1, fun held => ⟨held, there⟩⟩

/-- The snapshots agree, on the count as long as there is a next layer. -/
theorem snapshot :
    t.snapshot = { s.snapshot with seenNext := t.seenNext } ∧
      (s.snapshot.next.isSome → t.snapshot.seenNext = s.snapshot.seenNext) := by
  have order? : ∀ role, t.roles.order? role t.lineup = s.roles.order? role s.lineup := by
    intro role
    have holder := rel.holder? role
    rw [Session.holder?, Session.holder?, rel.lineup] at holder
    rw [Roles.order?, Roles.order?, rel.lineup, holder]
  constructor
  · simp only [Session.snapshot, order?, rel.minNextSeen, rel.initialized]
  · intro next
    refine rel.seenNext ?_
    have holder : (s.holder? .next).isSome := by
      simpa [Session.snapshot, Roles.order?, Session.holder?] using next
    rw [← rel.holder?] at holder
    exact Option.isSome_of_isSome_bind holder

end Relieved

end Simulcast.Session
