import Mathlib.Logic.Relation
import Simulcast.Proofs.Session.Deeds

/-!
# How the roles stand to each other

A next layer is forwarded beside a current one, and packets are counted as long as there is a next
layer. `next_beside_current` says that the handles which the two roles hold keep to this after any
moves of a scene: the handle of the next role comes beside another one of the current role, there
is no count without it, and a current role that holds a handle never holds none again. The handles
are compared as they are, whether they resolve or not, so layers that leave or come change nothing.

Only the current role, the next role and the count matter (`Stance`). `Shift` lists what is done to
them in one go; every move is a number of shifts (`shifts_play`), and each shift keeps the rule.
-/

namespace Simulcast.Session

open Switching

variable {s t : Session}

/-! ### Stances -/

/-- What the current and the next role hold, and the count of packets. -/
structure Stance where
  /-- The handle of the current role. -/
  current : Option Handle
  /-- The handle of the next role. -/
  next : Option Handle
  /-- The packets of the next layer seen since it became the next one. -/
  seenNext : UInt32

/-- The stance of a session. -/
def stance (s : Session) : Stance where
  current := s.roles.handle? .current
  next := s.roles.handle? .next
  seenNext := s.seenNext

namespace Stance

/-- A next handle comes beside another one, and there is no count without it. -/
structure Sound (p : Stance) : Prop where
  /-- A next handle comes beside another one of the current role. -/
  beside : ∀ h, p.next = some h → ∃ h', p.current = some h' ∧ h' ≠ h
  /-- Where there is no next handle, nothing is counted. -/
  uncounted : p.next = none → p.seenNext = 0

/-- What is done to a stance in one go. -/
inductive Shift : Stance → Stance → Prop
  /-- The next role and the count are given up. -/
  | drops (p : Stance) : Shift p { p with next := none, seenNext := 0 }
  /-- A handle becomes the current one, by a switch or because it was the next one. -/
  | switches (p : Stance) (h : Handle) : Shift p ⟨some h, none, 0⟩
  /-- A handle becomes the next one beside another one. -/
  | bridges (p : Stance) {h h' : Handle} (current : p.current = some h') (other : h' ≠ h) :
    Shift p { p with next := some h, seenNext := 0 }
  /-- A packet is counted for a next handle. -/
  | counts (p : Stance) {h : Handle} (pending : p.next = some h) :
    Shift p { p with seenNext := countUp p.seenNext }

/-- Any number of shifts. -/
abbrev Shifts : Stance → Stance → Prop := Relation.ReflTransGen Shift

theorem Sound.shift {p q : Stance} (sound : p.Sound) (shift : Shift p q) : q.Sound := by
  cases shift with
  | drops => exact ⟨nofun, fun _ => rfl⟩
  | switches h => exact ⟨nofun, fun _ => rfl⟩
  | @bridges h h' current other =>
    refine ⟨fun n next => ?_, fun none => by cases none⟩
    obtain rfl : h = n := Option.some_inj.1 next
    exact ⟨h', current, other⟩
  | counts pending =>
    refine ⟨sound.beside, fun none => ?_⟩
    rw [pending] at none
    cases none

theorem Sound.shifts {p q : Stance} (sound : p.Sound) (shifts : Shifts p q) : q.Sound := by
  induction shifts with
  | refl => exact sound
  | tail _ shift ih => exact ih.shift shift

/-- No shift leaves the current role without a handle. -/
theorem Shift.isSome_current {p q : Stance} (shift : Shift p q)
    (held : p.current.isSome = true) : q.current.isSome = true := by
  cases shift with
  | drops => exact held
  | switches h => rfl
  | bridges current other => exact held
  | counts pending => exact held

theorem isSome_current_of_shifts {p q : Stance} (shifts : Shifts p q)
    (held : p.current.isSome = true) : q.current.isSome = true := by
  induction shifts with
  | refl => exact held
  | tail _ shift ih => exact shift.isSome_current ih

end Stance

open Stance

/-! ### What does not shift the stance -/

theorem stance_note (e : Journal.Event) (s : Session) : (s.note e).stance = s.stance := rfl

theorem stance_setThreshold (r : Request) (s : Session) :
    (s.setThreshold r).stance = s.stance := rfl

theorem stance_commit (c : List Effect × Session) : (commit c).stance = c.2.stance := by
  simp [stance]

theorem stance_override (h : Option Handle) (s : Session) :
    (s.assign .override h).stance = s.stance := by
  rw [stance, handle?_assign, handle?_assign]
  rfl

theorem Blind.stance {f : Session → Session} (blind : Blind f) (s : Session) :
    (f s).stance = s.stance := by
  rw [Session.stance, blind.roles, blind.seenNext, Session.stance]

/-! ### What shifts it -/

theorem stance_dropNext (s : Session) :
    s.dropNext.stance = { s.stance with next := none, seenNext := 0 } := by
  rw [stance, handle?_dropNext, handle?_dropNext]
  rfl

theorem stance_makeCurrent (h : Handle) (promoted : Bool) (s : Session) :
    (s.makeCurrent h promoted).stance = ⟨some h, none, 0⟩ := by
  rw [stance, handle?_makeCurrent, handle?_makeCurrent]
  rfl

theorem stance_makeNext (h : Handle) (s : Session) :
    (s.makeNext h).stance = { s.stance with next := some h, seenNext := 0 } := by
  rw [stance, handle?_makeNext, handle?_makeNext]
  rfl

/-- A switch to a layer is one shift: to the current role, or beside the handle that it holds. -/
theorem shift_switchTo (r : Request) (o : Layer.Order) {h : Handle} (layer : Nat)
    (other : s.roles.handle? .current ≠ some h) :
    Shift s.stance (s.switchTo r o h layer).2.stance := by
  rw [switchTo_snd]
  cases immediate : s.isImmediate r with
  | true =>
    rw [if_pos rfl, stance_makeCurrent]
    exact .switches _ h
  | false =>
    rw [if_neg Bool.false_ne_true, stance_makeNext, stance_note]
    cases current : s.roles.handle? .current with
    | none =>
      -- without a current layer the switch takes place at once
      simp [isImmediate, holder?, Roles.holder?, current] at immediate
    | some h' =>
      rw [current] at other
      exact .bridges _ current fun same => other (congrArg some same)

theorem shifts_configure (r : Option Request) (s : Session) :
    Shifts s.stance (s.configure r).stance := by
  cases r with
  | none => exact .refl
  | some r =>
    have followed := followed_transition r s
    rw [configure, stance_commit, ← stance_setThreshold r s]
    generalize s.transition r = c at followed ⊢
    cases followed with
    | idle => exact .refl
    | refused e => rw [stance_note]
    | stays order found held =>
      rw [stance_dropNext]
      exact .single (.drops _)
    | switches order found other => exact .single (shift_switchTo r _ _ other)

theorem shifts_abandonNext (s : Session) : Shifts s.stance (commit s.abandonNext).stance := by
  rw [stance_commit]
  obtain idle | ⟨layer, e, gone⟩ := abandonNext_eq s
  · rw [idle]
  · rw [gone, stance_dropNext]
    exact .single (.drops _)

theorem stance_configureOverride (r : Option Request) (s : Session) :
    (s.configureOverride r).stance = s.stance := by
  unfold configureOverride
  split
  · rfl
  · unfold setOverride
    split
    · rfl
    · split
      · rw [stance_commit, clearOverride_snd, stance_note, stance_override]
      · rw [stance_commit, overrideWith]
        split
        · rfl
        · rw [stance_note, stance_override]

/-- Counting a packet for a handle that is still the next one is one shift. -/
theorem shifts_promote (h : Handle) (s : Session) :
    Shifts s.stance (commit (s.promote h)).stance := by
  rw [stance_commit]
  by_cases pending : s.roles.handle? .next = some h
  · cases there : s.lineup.resolve h with
    | none =>
      rw [promote_of_gone there]
    | some layer =>
      rw [promote_of_pending pending there]
      split
      · rw [stance_makeCurrent]
        exact .single (.switches _ h)
      · exact .single (.counts _ pending)
  · rw [promote_of_ne pending]

/-! ### Every move -/

theorem shifts_perform (s : Session) (o : Operation) :
    Shifts s.stance (s.perform o).stance := by
  cases o with
  | configure r => exact shifts_configure r s
  | configureOverride r => rw [perform, stance_configureOverride]
  | receiveHigh =>
    rw [perform, receiveHigh]
    split
    · rw [stance_note]
    · exact shifts_configure _ s
  | receiveLow urgent =>
    rw [perform, receiveLow]
    exact (shifts_configure _ s).trans (shifts_abandonNext _)
  | readThreshold => rw [perform, Blind.readThreshold.stance]
  | forget source => rw [perform, (Blind.forget source).stance]
  | add l => rw [perform, (Blind.add l).stance]
  | insert layer => rw [perform, (Blind.insert layer).stance]
  | remove h => rw [perform, (Blind.remove h).stance]
  | clear => rw [perform, (Blind.alterLineup _).stance]
  | alter layer l => rw [perform, (Blind.alterLineup _).stance]
  | alterReceiver e => rw [perform, (Blind.alterReceiver _).stance]
  | alterSender e => rw [perform, (Blind.alterSender _).stance]

theorem steady_stance : Steady stance :=
  ⟨Blind.readThreshold.stance, fun p selected => (Blind.conclude p selected).stance⟩

theorem shifts_answer (q : Inquiry) (s : Session) : Shifts s.stance (s.answer q).2.stance := by
  rw [steady_stance.answer_eq_credited]
  rcases credited_eq q s with same | ⟨h, counted⟩
  · rw [same]
  · rw [counted]
    exact shifts_promote h s

/-- **Every move is a number of shifts.** -/
theorem shifts_play (sc : Scene) (m : Move) :
    Shifts sc.session.stance (sc.play perform m).session.stance := by
  have advance := sc.advance_play m
  generalize (sc.play perform m).session = t at advance ⊢
  cases advance with
  | performs o => exact shifts_perform sc.session o
  | begins p => rw [steady_stance.begin]
  | idles unasked => exact .refl
  | answers asked => exact shifts_answer _ sc.session

/-- So are any moves. -/
theorem shifts_after (sc : Scene) (later : List Move) :
    Shifts sc.session.stance (sc.after perform later).session.stance := by
  induction later with
  | nil => exact .refl
  | cons m later ih => exact ih.trans (shifts_play _ m)

/-- **The next layer comes beside a current one.** After any moves of a scene, the newest first, and
so also while layers are asked, a handle that the next role holds comes beside another handle that
the current role holds; where the next role holds none, no packet is counted; and a current role
that holds a handle holds one after any more moves. -/
theorem next_beside_current (channel : Announcement.Channel) (thresholds : Thresholds)
    (past : List Move) :
    let opening := Scene.opening channel thresholds
    let s := (opening.after perform past).session
    (∀ h, s.roles.handle? .next = some h →
        ∃ h', s.roles.handle? .current = some h' ∧ h' ≠ h) ∧
      (s.roles.handle? .next = none → s.seenNext = 0) ∧
      ∀ later, (s.roles.handle? .current).isSome = true →
        ((opening.after perform (later ++ past)).session.roles.handle? .current).isSome = true := by
  intro opening s
  have start : opening.session.stance.Sound := by
    refine ⟨fun h next => ?_, fun _ => rfl⟩
    simp [opening, Scene.opening, stance, fresh, handle?_unset] at next
  have sound : s.stance.Sound := start.shifts (shifts_after opening past)
  refine ⟨sound.beside, sound.uncounted, fun later held => ?_⟩
  rw [Scene.after_append]
  exact isSome_current_of_shifts (shifts_after (opening.after perform past) later) held

/-- A packet of the next layer is asked about, and before the layer answers, another one becomes the
next layer in its place. -/
def replacedSample : List Move :=
  [.answer, .operation (.configure (some (.toOrder ⟨2⟩ false))), .answer,
    .packet (.sample 200 0), .operation (.configure (some (.toOrder ⟨1⟩ false))),
    .operation (.configure (some (.toOrder ⟨0⟩ false))), .operation (.add (.numbered 2)),
    .operation (.add (.numbered 1)), .operation (.add (.numbered 0))]

/-- The other one stays the next layer, beside the current one. -/
theorem beside_after_replacement :
    let s := ((Scene.opening default (.fixed 5)).after perform replacedSample).session
    s.roles.handle? .next = some ⟨2, .first⟩ ∧
      ∃ h', s.roles.handle? .current = some h' ∧ h' ≠ ⟨2, .first⟩ := by
  have pending : ((Scene.opening default (.fixed 5)).after perform
      replacedSample).session.roles.handle? .next = some ⟨2, .first⟩ := by decide +kernel
  obtain ⟨beside, -⟩ := next_beside_current default (.fixed 5) replacedSample
  exact ⟨pending, beside ⟨2, .first⟩ pending⟩

end Simulcast.Session
