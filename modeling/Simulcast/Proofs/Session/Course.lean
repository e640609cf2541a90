import Simulcast.Proofs.Session.History

/-!
# The course of an engine

The course is what switching without regard to an override depends on, and all that it
moves: the layers, the current and the next role, the count and the threshold, and how
often the current layer changed. The lemmas of this module say that every step of an
engine takes equal courses to equal courses, whatever overrides them.
-/

namespace Simulcast.Session

open Switching

/-- What switching depends on and moves, overrides apart. -/
structure Course where
  /-- The layers of the sender. -/
  lineup : Lineup
  /-- Where the threshold comes from. -/
  thresholds : Thresholds
  /-- The handle of the current role. -/
  current : Option Handle
  /-- The handle of the next role. -/
  next : Option Handle
  /-- The packets of the next layer seen since it became the next one. -/
  seenNext : UInt32
  /-- The packets of the next layer to be seen. -/
  minNextSeen : Int32
  /-- Whether the threshold was read. -/
  initialized : Bool
  /-- How often the current layer changed. -/
  switches : UInt64
  /-- How often it changed because the next layer took over. -/
  promotions : UInt64

/-- The course of a session. -/
def course (s : Session) : Course where
  lineup := s.lineup
  thresholds := s.thresholds
  current := s.roles.handle? .current
  next := s.roles.handle? .next
  seenNext := s.seenNext
  minNextSeen := s.minNextSeen
  initialized := s.initialized
  switches := s.tally.switches
  promotions := s.tally.promotions

variable {s t : Session}

/-! ### Steps that do not move the course -/

@[simp] theorem course_note (e : Journal.Event) (s : Session) : (s.note e).course = s.course := rfl

@[simp] theorem course_commit (c : List Effect × Session) : (commit c).course = c.2.course := by
  simp [course]

@[simp] theorem course_override (h : Option Handle) (s : Session) :
    (s.assign .override h).course = s.course := by
  simp [course, assign]

@[simp] theorem course_trickle (source : Source) (s : Session) :
    (s.trickle source).2.course = s.course := by
  unfold trickle
  split <;> rfl

@[simp] theorem course_conclude (p : Packet) (selected : Bool) (s : Session) :
    (s.conclude p selected).2.course = s.course := by
  unfold conclude
  split
  · rfl
  · exact course_trickle p.source s

@[simp] theorem course_forget (source : Source) (s : Session) :
    (s.forget source).course = s.course := by
  unfold forget
  split <;> rfl

/-! ### Where the course is moved -/

theorem course_dropNext (s : Session) :
    s.dropNext.course = { s.course with next := none, seenNext := 0 } := by
  simp [course, dropNext, assign]

theorem course_makeCurrent (h : Handle) (promoted : Bool) (s : Session) :
    (s.makeCurrent h promoted).course =
      { s.course with
        current := some h
        next := none
        seenNext := 0
        switches := s.tally.switches + 1
        promotions := if promoted then s.tally.promotions + 1 else s.tally.promotions } := by
  simp [course, makeCurrent, dropNext, assign, Tally.switch]

theorem course_makeNext (h : Handle) (s : Session) :
    (s.makeNext h).course = { s.course with next := some h, seenNext := 0 } := by
  simp [course, makeNext, assign]

theorem course_countNext (s : Session) :
    s.countNext.course = { s.course with seenNext := countUp s.seenNext } := rfl

theorem course_setThreshold (r : Request) (s : Session) :
    (s.setThreshold r).course =
      { s.course with minNextSeen := r.minNextSeen.getD s.minNextSeen } := rfl

theorem course_add (l : Layer) (s : Session) :
    (s.add l).2.course =
      { s.course with
        lineup := ((s.lineup.introduce l).insert s.lineup.layers.length).2 } := rfl

theorem course_insert (layer : Nat) (s : Session) :
    (s.insert layer).2.course = { s.course with lineup := (s.lineup.insert layer).2 } := rfl

theorem course_alterLineup (f : Lineup → Lineup) (s : Session) :
    (s.alterLineup f).course = { s.course with lineup := f s.lineup } := rfl

theorem course_remove (hd : Handle) (s : Session) :
    (s.remove hd).2.course = { s.course with lineup := (s.lineup.remove hd).2 } := by
  unfold remove
  split <;> simp_all [course, note]

/-! ### What equal courses have in common -/

theorem lineup_of_course (h : s.course = t.course) : s.lineup = t.lineup :=
  congrArg Course.lineup h

theorem current_of_course (h : s.course = t.course) :
    s.roles.handle? .current = t.roles.handle? .current :=
  congrArg Course.current h

theorem next_of_course (h : s.course = t.course) :
    s.roles.handle? .next = t.roles.handle? .next :=
  congrArg Course.next h

theorem seenNext_of_course (h : s.course = t.course) : s.seenNext = t.seenNext :=
  congrArg Course.seenNext h

theorem minNextSeen_of_course (h : s.course = t.course) : s.minNextSeen = t.minNextSeen :=
  congrArg Course.minNextSeen h

theorem switches_of_course (h : s.course = t.course) :
    s.tally.switches = t.tally.switches ∧ s.tally.promotions = t.tally.promotions :=
  ⟨congrArg Course.switches h, congrArg Course.promotions h⟩

/-- The current and the next layer are the same ones. -/
theorem holder?_of_course (h : s.course = t.course) :
    s.holder? .current = t.holder? .current ∧ s.holder? .next = t.holder? .next :=
  ⟨holder?_congr (lineup_of_course h) (current_of_course h),
    holder?_congr (lineup_of_course h) (next_of_course h)⟩

/-- The same packets count. -/
theorem counts_of_course (p : Packet) (h : s.course = t.course) : s.counts p = t.counts p := by
  rw [counts, counts, claims_congr p (lineup_of_course h) (current_of_course h),
    claims_congr p (lineup_of_course h) (next_of_course h)]

/-! ### Steps from equal courses lead to equal courses -/

theorem course_makeCurrent_congr (hd : Handle) (promoted : Bool) (h : s.course = t.course) :
    (s.makeCurrent hd promoted).course = (t.makeCurrent hd promoted).course := by
  obtain ⟨switches, promotions⟩ := switches_of_course h
  rw [course_makeCurrent, course_makeCurrent, h, switches, promotions]

theorem course_setThreshold_congr (r : Request) (h : s.course = t.course) :
    (s.setThreshold r).course = (t.setThreshold r).course := by
  rw [course_setThreshold, course_setThreshold, h, minNextSeen_of_course h]

theorem course_switchTo_congr (r : Request) (o : Layer.Order) (hd : Handle) (layer : Nat)
    (h : s.course = t.course) :
    (s.switchTo r o hd layer).2.course = (t.switchTo r o hd layer).2.course := by
  have immediate : s.isImmediate r = t.isImmediate r := by
    rw [isImmediate, isImmediate, (holder?_of_course h).1, minNextSeen_of_course h]
  rw [switchTo_snd, switchTo_snd, immediate]
  split
  · exact course_makeCurrent_congr hd false h
  · rw [course_makeNext, course_makeNext, course_note, course_note, h]

theorem course_switchToOrder_congr (r : Request) (o : Layer.Order) (h : s.course = t.course) :
    (s.switchToOrder r o).2.course = (t.switchToOrder r o).2.course := by
  unfold switchToOrder
  rw [lineup_of_course h]
  split
  · exact h
  · cases t.lineup.lookup o with
    | none => exact h
    | some found =>
      obtain ⟨hd, layer⟩ := found
      simp only [current_of_course h]
      split
      · exact h
      · split
        · rw [course_dropNext, course_dropNext, h]
        · exact course_switchTo_congr r o hd layer h

theorem course_transition_congr (r : Request) (h : s.course = t.course) :
    (s.transition r).2.course = (t.transition r).2.course := by
  have threshold := course_setThreshold_congr r h
  unfold transition
  cases r.nextOrder with
  | none => exact threshold
  | some o => exact course_switchToOrder_congr r o threshold

theorem course_configure_congr (r : Option Request) (h : s.course = t.course) :
    (s.configure r).course = (t.configure r).course := by
  cases r with
  | none => exact h
  | some r =>
    simp only [configure, course_commit]
    exact course_transition_congr r h

theorem course_receiveHigh_congr (h : s.course = t.course) :
    s.receiveHigh.course = t.receiveHigh.course := by
  unfold receiveHigh
  rw [lineup_of_course h]
  split
  · exact h
  · exact course_configure_congr _ h

theorem course_abandonNext_congr (h : s.course = t.course) :
    s.abandonNext.2.course = t.abandonNext.2.course := by
  unfold abandonNext
  rw [(holder?_of_course h).2, lineup_of_course h]
  split
  · exact h
  · simp only
    split
    · exact h
    · simp only [course_dropNext, course_note, h]

theorem course_receiveLow_congr (urgent : Bool) (h : s.course = t.course) :
    (s.receiveLow urgent).course = (t.receiveLow urgent).course := by
  simp only [receiveLow, course_commit]
  exact course_abandonNext_congr (course_configure_congr _ h)

/-- The course once the threshold was read. -/
def Course.read (c : Course) : Course :=
  if c.initialized then c
  else
    { c with
      minNextSeen := (c.thresholds.lookup minNextSeenKey defaultMinNextSeen).value
      initialized := true }

/-- Other layers make no difference to the threshold. -/
theorem Course.read_lineup (c : Course) (lu : Lineup) :
    ({ c with lineup := lu } : Course).read = { c.read with lineup := lu } := by
  unfold Course.read
  split <;> simp_all

theorem course_readThreshold (s : Session) : s.readThreshold.course = s.course.read := by
  unfold Course.read
  cases hi : s.initialized with
  | true =>
    rw [readThreshold_of_initialized hi]
    exact (if_pos hi).symm
  | false =>
    rw [readThreshold_of_not_initialized hi]
    exact (if_neg (ne_true_of_eq_false hi)).symm

theorem course_readThreshold_congr (h : s.course = t.course) :
    s.readThreshold.course = t.readThreshold.course := by
  rw [course_readThreshold, course_readThreshold, h]

/-! ### Packets -/

theorem course_countNext_congr (h : s.course = t.course) :
    s.countNext.course = t.countNext.course := by
  rw [course_countNext, course_countNext, h, seenNext_of_course h]

theorem course_promote_congr (hd : Handle) (h : s.course = t.course) :
    (s.promote hd).2.course = (t.promote hd).2.course := by
  have next := next_of_course h
  have lineup := lineup_of_course h
  have counted := course_countNext_congr h
  by_cases hn : t.roles.handle? .next = some hd
  · cases hr : t.lineup.resolve hd with
    | none => rw [promote_of_gone hr, promote_of_gone (lineup ▸ hr), h]
    | some layer =>
      rw [promote_of_pending hn hr, promote_of_pending (next.trans hn) (lineup ▸ hr), lineup,
        minNextSeen_of_course h, seenNext_of_course counted]
      split
      · exact course_makeCurrent_congr hd true counted
      · exact counted
  · rw [promote_of_ne hn, promote_of_ne (next ▸ hn), h]

theorem course_heed_congr (p : Packet) (h : s.course = t.course) :
    (s.heed p).course = (t.heed p).course := by
  unfold heed
  rw [next_of_course h, counts_of_course p h]
  split
  · split
    · simp only [course_commit]
      exact course_promote_congr _ h
    · exact h
  · exact h

/-- A packet takes equal courses to equal courses, even if only one of them is overridden. -/
theorem course_accept_congr (p : Packet) (h : s.course = t.course) :
    (s.accept quiet p).2.course = (t.accept quiet p).2.course := by
  simp only [accept_quiet, course_conclude]
  exact course_heed_congr p (course_readThreshold_congr h)

/-! ### What packets keep -/

theorem conclude_roles (p : Packet) (selected : Bool) (s : Session) :
    (s.conclude p selected).2.roles = s.roles := by
  unfold conclude
  split
  · rfl
  · unfold trickle
    simp only
    split <;> rfl

/-- Deciding about a packet changes neither the layers nor the override. -/
theorem accept_keeps (p : Packet) (s : Session) :
    (s.accept quiet p).2.lineup = s.lineup ∧
      (s.accept quiet p).2.roles.handle? .override = s.roles.handle? .override := by
  obtain ⟨lineup, override, -⟩ := s.readThreshold.heed_keeps p
  rw [accept_quiet, conclude_roles, override, readThreshold_roles]
  refine ⟨?_, rfl⟩
  rw [lineup_of_course (course_conclude p _ _), lineup, readThreshold_lineup]

theorem isOverridden_accept (p : Packet) (s : Session) :
    (s.accept quiet p).2.isOverridden = s.isOverridden := by
  obtain ⟨lineup, override⟩ := s.accept_keeps p
  exact isOverridden_congr lineup override

/-- Once the threshold was read, a packet moves the course as far as it is heeded. -/
theorem course_accept_of_initialized (h : s.initialized = true) (p : Packet) :
    (s.accept quiet p).2.course = (s.heed p).course := by
  rw [accept_quiet, course_conclude, readThreshold_of_initialized h]

end Simulcast.Session
