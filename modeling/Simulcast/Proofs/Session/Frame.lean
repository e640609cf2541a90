import Simulcast.Session.Admission

/-!
# What changes and effects leave alone

A change of the roles is made first and its effects are carried out afterwards. Effects
reach layers and endpoints, and are counted and recorded, but they change nothing that a
later decision of the engine depends on: `commit_eq_of_apply_eq` says so of any view of a
session that a single effect leaves alone, and the equations after it list the views that
the proofs need. A change, in turn, moves roles, count and threshold, and is counted and
recorded; a view that does not look at these (`Apart`) is not changed by it, in particular
one that does not look at what is counted at all (`Aside`).
-/

namespace Simulcast.Session

open Switching

/-! ### Effects -/

/-- A view of a session that no single effect changes is not changed by a list of them. -/
theorem commit_eq_of_apply_eq {α : Type} (view : Session → α)
    (h : ∀ s e, view (apply s e) = view s) (c : List Effect × Session) :
    view (commit c) = view c.2 := by
  obtain ⟨es, s⟩ := c
  induction es generalizing s with
  | nil => rfl
  | cons e es ih => exact (ih (s.apply e)).trans (h s e)

@[simp] theorem commit_lineup (c : List Effect × Session) : (commit c).lineup = c.2.lineup :=
  commit_eq_of_apply_eq (·.lineup) (fun _ e => by cases e <;> rfl) c

@[simp] theorem commit_thresholds (c : List Effect × Session) :
    (commit c).thresholds = c.2.thresholds :=
  commit_eq_of_apply_eq (·.thresholds) (fun _ e => by cases e <;> rfl) c

@[simp] theorem commit_roles (c : List Effect × Session) : (commit c).roles = c.2.roles :=
  commit_eq_of_apply_eq (·.roles) (fun _ e => by cases e <;> rfl) c

@[simp] theorem commit_seenNext (c : List Effect × Session) :
    (commit c).seenNext = c.2.seenNext :=
  commit_eq_of_apply_eq (·.seenNext) (fun _ e => by cases e <;> rfl) c

@[simp] theorem commit_minNextSeen (c : List Effect × Session) :
    (commit c).minNextSeen = c.2.minNextSeen :=
  commit_eq_of_apply_eq (·.minNextSeen) (fun _ e => by cases e <;> rfl) c

@[simp] theorem commit_initialized (c : List Effect × Session) :
    (commit c).initialized = c.2.initialized :=
  commit_eq_of_apply_eq (·.initialized) (fun _ e => by cases e <;> rfl) c

@[simp] theorem commit_ledger (c : List Effect × Session) : (commit c).ledger = c.2.ledger :=
  commit_eq_of_apply_eq (·.ledger) (fun _ e => by cases e <;> rfl) c

/-- Announcing counts the announcement and nothing else. -/
theorem tally_announcement (t : Tally) (d : Announcement.Delivery) :
    (t.announcement d).switches = t.switches ∧ (t.announcement d).promotions = t.promotions := by
  cases d <;> exact ⟨rfl, rfl⟩

@[simp] theorem commit_switches (c : List Effect × Session) :
    (commit c).tally.switches = c.2.tally.switches := by
  refine commit_eq_of_apply_eq (·.tally.switches) (fun s e => ?_) c
  cases e with
  | keyframe _ => rfl
  | announcement _ _ => exact (tally_announcement _ _).1

@[simp] theorem commit_promotions (c : List Effect × Session) :
    (commit c).tally.promotions = c.2.tally.promotions := by
  refine commit_eq_of_apply_eq (·.tally.promotions) (fun s e => ?_) c
  cases e with
  | keyframe _ => rfl
  | announcement _ _ => exact (tally_announcement _ _).2

/-! ### What the roles hold -/

@[simp] theorem handle?_note (role : Role) (e : Journal.Event) (s : Session) :
    (s.note e).roles.handle? role = s.roles.handle? role := rfl

@[simp] theorem handle?_setThreshold (role : Role) (r : Request) (s : Session) :
    (s.setThreshold r).roles.handle? role = s.roles.handle? role := rfl

@[simp] theorem handle?_assign (role other : Role) (h : Option Handle) (s : Session) :
    (s.assign role h).roles.handle? other = if other = role then h else s.roles.handle? other :=
  Roles.handle?_set ..

@[simp] theorem handle?_dropNext (role : Role) (s : Session) :
    s.dropNext.roles.handle? role = if role = .next then none else s.roles.handle? role :=
  handle?_assign .next role none s

@[simp] theorem handle?_makeCurrent (role : Role) (h : Handle) (promoted : Bool) (s : Session) :
    (s.makeCurrent h promoted).roles.handle? role =
      if role = .next then none
      else if role = .current then some h else s.roles.handle? role := by
  show (s.assign .current (some h)).dropNext.roles.handle? role = _
  rw [handle?_dropNext, handle?_assign]

@[simp] theorem handle?_makeNext (role : Role) (h : Handle) (s : Session) :
    (s.makeNext h).roles.handle? role =
      if role = .next then some h else s.roles.handle? role :=
  handle?_assign .next role (some h) s

/-! ### Switching -/

/-- A switch takes place at once or makes the layer the next one, -/
theorem switchTo_snd (r : Request) (o : Layer.Order) (h : Handle) (layer : Nat) (s : Session) :
    (s.switchTo r o h layer).2 =
      if s.isImmediate r then (s.note (.switched o r.urgent)).makeCurrent h false
      else (s.note (.bridging o)).makeNext h := by
  cases hi : s.isImmediate r <;> simp [switchTo, hi]

/-- and is announced as one or the other. -/
theorem switchTo_fst (r : Request) (o : Layer.Order) (h : Handle) (layer : Nat) (s : Session) :
    (s.switchTo r o h layer).1 =
      (if s.needsKeyframe r h then [.keyframe layer] else []) ++
        s.announcementUnlessOverridden (if s.isImmediate r then .changed else .changing) layer := by
  cases hi : s.isImmediate r <;> simp [switchTo, hi]

/-! ### Changes -/

/-- The view looks neither at what changes of the roles move and record nor at how many there
were. -/
def Apart {α : Type} (view : Session → α) : Prop :=
  ∀ s roles seenNext minNextSeen switches promotions journal, view { s with
    roles := roles, seenNext := seenNext, minNextSeen := minNextSeen, journal := journal,
    tally := { s.tally with switches := switches, promotions := promotions } } = view s

namespace Apart

variable {α : Type} {view : Session → α} (h : Apart view)
include h

theorem note (e : Journal.Event) (s : Session) : view (s.note e) = view s := h s _ _ _ _ _ _

theorem assign (role : Role) (hd : Option Handle) (s : Session) :
    view (s.assign role hd) = view s := h s _ _ _ _ _ _

theorem dropNext (s : Session) : view s.dropNext = view s := h s _ _ _ _ _ _

theorem makeCurrent (hd : Handle) (promoted : Bool) (s : Session) :
    view (s.makeCurrent hd promoted) = view s := h s _ _ _ _ _ _

theorem makeNext (hd : Handle) (s : Session) : view (s.makeNext hd) = view s := h s _ _ _ _ _ _

theorem countNext (s : Session) : view s.countNext = view s := h s _ _ _ _ _ _

theorem setThreshold (r : Request) (s : Session) : view (s.setThreshold r) = view s :=
  h s _ _ _ _ _ _

theorem switchTo (r : Request) (o : Layer.Order) (hd : Handle) (layer : Nat) (s : Session) :
    view (s.switchTo r o hd layer).2 = view s := by
  rw [switchTo_snd]
  split
  · exact (h.makeCurrent hd false _).trans (h.note _ s)
  · exact (h.makeNext hd _).trans (h.note _ s)

theorem switchToOrder (r : Request) (o : Layer.Order) (s : Session) :
    view (s.switchToOrder r o).2 = view s := by
  unfold Session.switchToOrder
  split
  · exact h.note _ s
  · split
    · exact h.note _ s
    · simp only
      split
      · exact h.note _ s
      · split
        · exact h.dropNext s
        · exact h.switchTo r o _ _ s

theorem transition (r : Request) (s : Session) : view (s.transition r).2 = view s := by
  unfold Session.transition
  split
  · exact h.setThreshold r s
  · exact (h.switchToOrder r _ _).trans (h.setThreshold r s)

theorem abandonNext (s : Session) : view s.abandonNext.2 = view s := by
  unfold Session.abandonNext
  split
  · rfl
  · simp only
    split
    · rfl
    · exact (h.dropNext _).trans (h.note _ s)

theorem clearOverride (s : Session) : view s.clearOverride.2 = view s := by
  unfold Session.clearOverride
  simp only
  split
  · exact (h.note _ _).trans (h.assign _ _ s)
  · exact (h.note _ _).trans (h.assign _ _ s)

theorem overrideWith (o : Layer.Order) (s : Session) : view (s.overrideWith o).2 = view s := by
  unfold Session.overrideWith
  split
  · exact h.note _ s
  · exact (h.note _ _).trans (h.assign _ _ s)

theorem promote (hd : Handle) (s : Session) : view (s.promote hd).2 = view s := by
  unfold Session.promote
  split
  · rfl
  · split
    · rfl
    · simp only
      split
      · exact ((h.makeCurrent hd true _).trans (h.note _ _)).trans (h.countNext s)
      · exact h.countNext s

end Apart

/-- The view does not look at what changes of the roles move, count and record. -/
def Aside {α : Type} (view : Session → α) : Prop :=
  ∀ s roles seenNext minNextSeen tally journal, view { s with
    roles := roles, seenNext := seenNext, minNextSeen := minNextSeen, tally := tally,
    journal := journal } = view s

theorem Aside.apart {α : Type} {view : Session → α} (aside : Aside view) : Apart view :=
  fun s _ _ _ _ _ _ => aside s _ _ _ _ _

theorem aside_lineup : Aside (·.lineup) := fun _ _ _ _ _ _ => rfl

theorem aside_ledger : Aside (·.ledger) := fun _ _ _ _ _ _ => rfl

/-! ### Requests -/

/-- The view looks neither at what changes of the roles move nor at what their effects do. -/
structure Untouched {α : Type} (view : Session → α) : Prop where
  /-- Changes leave it alone. -/
  aside : Aside view
  /-- Effects leave it alone. -/
  apply : ∀ s e, view (apply s e) = view s

theorem untouched_lineup : Untouched (·.lineup) := ⟨aside_lineup, fun _ e => by cases e <;> rfl⟩

theorem untouched_ledger : Untouched (·.ledger) := ⟨aside_ledger, fun _ e => by cases e <;> rfl⟩

namespace Untouched

variable {α : Type} {view : Session → α} (h : Untouched view)
include h

theorem commit (c : List Effect × Session) : view (commit c) = view c.2 :=
  commit_eq_of_apply_eq view h.apply c

theorem configure (r : Option Request) (s : Session) : view (s.configure r) = view s := by
  cases r with
  | none => exact h.aside.apart.note _ s
  | some r => exact (h.commit _).trans (h.aside.apart.transition r s)

theorem configureOverride (r : Option Request) (s : Session) :
    view (s.configureOverride r) = view s := by
  unfold Session.configureOverride
  split
  · rfl
  · unfold setOverride
    split
    · exact h.aside.apart.note _ s
    · split
      · exact (h.commit _).trans (h.aside.apart.clearOverride s)
      · exact (h.commit _).trans (h.aside.apart.overrideWith _ s)

theorem receiveHigh (s : Session) : view s.receiveHigh = view s := by
  unfold Session.receiveHigh
  split
  · exact h.aside.apart.note _ s
  · exact h.configure _ s

theorem receiveLow (urgent : Bool) (s : Session) : view (s.receiveLow urgent) = view s :=
  ((h.commit _).trans (h.aside.apart.abandonNext _)).trans (h.configure _ s)

theorem promote (hd : Handle) (s : Session) : view (Session.commit (s.promote hd)) = view s :=
  (h.commit _).trans (h.aside.apart.promote hd s)

end Untouched

end Simulcast.Session
