import Simulcast.Proofs.Session.Course

/-!
# Overriding does not disturb switching

An override decides which packets pass and silences the engine, but the roles move as they
would without it. `override_undisturbing` says both: leaving every request for an override
out of a history leaves the course of the engine as it is, and while there is an override
nothing goes out to layers and endpoints but the news that the next layer stopped.
-/

namespace Simulcast.Session

open Switching

variable {s t : Session}

/-! ### The course without overrides -/

/-- Whether an input may move the course: anything but a request for an override. -/
def Input.steers : Input → Bool
  | .operation (.configureOverride _) => false
  | _ => true

/-- A request for an override does not move the course, -/
theorem course_configureOverride (r : Option Request) (s : Session) :
    (s.configureOverride r).course = s.course := by
  unfold configureOverride
  split
  · rfl
  · unfold setOverride
    split
    · rfl
    · split
      · rw [course_commit]
        unfold clearOverride
        simp only
        split <;> simp
      · rw [course_commit]
        unfold overrideWith
        split <;> simp

theorem course_alterLineup_congr (f : Lineup → Lineup) (h : s.course = t.course) :
    (s.alterLineup f).course = (t.alterLineup f).course := by
  rw [course_alterLineup, course_alterLineup, h, lineup_of_course h]

/-- and any other operation takes equal courses to equal courses. -/
theorem course_perform_congr {o : Operation} (steers : Input.steers (.operation o) = true)
    (h : s.course = t.course) : (s.perform o).course = (t.perform o).course := by
  cases o with
  | configure r => exact course_configure_congr r h
  | configureOverride r => cases steers
  | receiveHigh => exact course_receiveHigh_congr h
  | receiveLow urgent => exact course_receiveLow_congr urgent h
  | readThreshold => exact course_readThreshold_congr h
  | forget source => simpa only [perform, course_forget] using h
  | add l => rw [perform, perform, course_add, course_add, h, lineup_of_course h]
  | insert layer => rw [perform, perform, course_insert, course_insert, h, lineup_of_course h]
  | remove hd => rw [perform, perform, course_remove, course_remove, h, lineup_of_course h]
  | clear => exact course_alterLineup_congr _ h
  | alter layer l => exact course_alterLineup_congr _ h
  | alterReceiver e => exact h
  | alterSender e => exact h

theorem course_feed_congr {i : Input} (steers : i.steers = true) (h : s.course = t.course) :
    (s.feed i).course = (t.feed i).course := by
  cases i with
  | operation o => exact course_perform_congr steers h
  | packet p => exact course_accept_congr p h

/-- Leaving the requests for an override out of a history does not change where it leads. -/
theorem course_after_filter (s : Session) (past : List Input) :
    (s.after past).course = (s.after (past.filter Input.steers)).course := by
  induction past with
  | nil => rfl
  | cons i past ih =>
    cases hi : i.steers with
    | true =>
      rw [List.filter_cons_of_pos hi]
      exact course_feed_congr hi ih
    | false =>
      rw [List.filter_cons_of_neg (by simp [hi]), ← ih]
      -- only a request for an override is left out
      match i, hi with
      | .operation (.configureOverride r), _ => exact course_configureOverride r _

/-! ### What goes out while there is an override -/

/-- Whether layers or endpoints hear of a happening. -/
def Happening.isOutgoing : Happening → Bool
  | .thresholdRead _ _ => false
  | .keyframe _ => true
  | .announced _ _ _ => true

/-- The keyframes asked for and the announcements handed over, the newest first. -/
def outgoing (s : Session) : List Happening := s.happenings.filter Happening.isOutgoing

theorem aside_outgoing : Aside outgoing := fun _ _ _ _ _ _ => rfl

theorem announcementUnlessOverridden_of_overridden (kind : Announcement.Kind) (layer : Nat)
    (h : s.isOverridden = true) : s.announcementUnlessOverridden kind layer = [] := by
  rw [announcementUnlessOverridden, if_pos h]

theorem switchToOrder_silent (r : Request) (o : Layer.Order) (h : s.isOverridden = true) :
    (s.switchToOrder r o).1 = [] := by
  unfold switchToOrder
  split
  · rfl
  · split
    · rfl
    · simp only
      split
      · rfl
      · split
        · rfl
        · rw [switchTo_fst, announcementUnlessOverridden_of_overridden _ _ h, needsKeyframe, h]
          simp

/-- No request has an effect, -/
theorem transition_silent (r : Request) (h : s.isOverridden = true) : (s.transition r).1 = [] := by
  unfold transition
  split
  · rfl
  · exact switchToOrder_silent r _ h

/-- An announcement goes out, whatever becomes of it. -/
theorem outgoing_announce (kind : Announcement.Kind) (layer : Nat) (s : Session) :
    (s.announce kind layer).outgoing =
      .announced kind layer (s.channel.announceLayer kind (s.lineup.layer layer)).delivery ::
        s.outgoing := rfl

theorem outgoing_configure (r : Option Request) (h : s.isOverridden = true) :
    (s.configure r).outgoing = s.outgoing := by
  cases r with
  | none => rfl
  | some r =>
    rw [configure, commit, transition_silent r h]
    exact aside_outgoing.apart.transition r s

theorem outgoing_receiveHigh (h : s.isOverridden = true) :
    s.receiveHigh.outgoing = s.outgoing := by
  unfold receiveHigh
  split
  · rfl
  · exact outgoing_configure _ h

/-- and when the next layer is given up, that is all that is said. -/
theorem outgoing_receiveLow (urgent : Bool) (h : s.isOverridden = true) :
    (s.receiveLow urgent).outgoing = s.outgoing ∨
      ∃ layer delivery,
        (s.receiveLow urgent).outgoing = .announced .stopped layer delivery :: s.outgoing := by
  have silent := outgoing_configure (some (.toOrder .lowest urgent)) h
  unfold receiveLow abandonNext
  split
  · exact .inl silent
  · simp only
    split
    · exact .inl silent
    · refine .inr ⟨_, _, (outgoing_announce _ _ _).trans (congrArg _ ?_)⟩
      rw [aside_outgoing.apart.dropNext, aside_outgoing.apart.note, silent]

/-- Reading the threshold asks nobody but the settings. -/
theorem outgoing_readThreshold (s : Session) : s.readThreshold.outgoing = s.outgoing := by
  cases hi : s.initialized with
  | true => rw [readThreshold_of_initialized hi]
  | false =>
    rw [readThreshold_of_not_initialized hi]
    rfl

theorem promote_silent (hd : Handle) (h : s.isOverridden = true) : (s.promote hd).1 = [] := by
  by_cases hn : s.roles.handle? .next = some hd
  · cases hr : s.lineup.resolve hd with
    | none => rw [promote_of_gone hr]
    | some layer =>
      rw [promote_of_pending hn hr]
      split
      · exact announcementUnlessOverridden_of_overridden _ _ h
      · rfl
  · rw [promote_of_ne hn]

theorem outgoing_conclude (p : Packet) (selected : Bool) (s : Session) :
    (s.conclude p selected).2.outgoing = s.outgoing := by
  unfold conclude
  split
  · rfl
  · unfold trickle
    simp only
    split <;> rfl

/-- No packet has an effect, even if the next layer takes over with it. -/
theorem outgoing_accept (p : Packet) (h : s.isOverridden = true) :
    (s.accept quiet p).2.outgoing = s.outgoing := by
  have still : s.readThreshold.isOverridden = true := by
    rw [isOverridden_congr (t := s) (readThreshold_lineup s) (by rw [readThreshold_roles]), h]
  rw [accept_quiet, outgoing_conclude, heed, ← outgoing_readThreshold s]
  split
  · split
    · rw [commit, promote_silent _ still]
      exact aside_outgoing.apart.promote _ _
    · rfl
  · rfl

/-! ### Both -/

/-- **An override does not disturb switching.** Leaving out all requests for an override, the
current and the next role, the count, the threshold and the changes of the current layer are
the same after any history. And while a layer overrides the decision no switch and no packet
leads to a keyframe or an announcement; only giving up a next layer is announced. -/
theorem override_undisturbing (channel : Announcement.Channel) (thresholds : Thresholds)
    (past : List Input) :
    ((fresh channel thresholds).after past).course =
        ((fresh channel thresholds).after (past.filter Input.steers)).course ∧
      ∀ s : Session, s.isOverridden = true →
        (∀ r, (s.configure r).outgoing = s.outgoing) ∧
        s.receiveHigh.outgoing = s.outgoing ∧
        (∀ p, (s.accept quiet p).2.outgoing = s.outgoing) ∧
        ∀ urgent, (s.receiveLow urgent).outgoing = s.outgoing ∨
          ∃ layer delivery,
            (s.receiveLow urgent).outgoing = .announced .stopped layer delivery :: s.outgoing := by
  refine ⟨course_after_filter _ past, fun s h => ⟨?_, ?_, ?_, ?_⟩⟩
  · exact fun r => outgoing_configure r h
  · exact outgoing_receiveHigh h
  · exact fun p => outgoing_accept p h
  · exact fun urgent => outgoing_receiveLow urgent h

end Simulcast.Session
