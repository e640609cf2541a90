import Simulcast.Proofs.Session.Course
import Simulcast.Proofs.Trickle.Cycle

/-!
# Which packets pass

A packet passes if the roles select it, and of the packets of a source that are not selected
the first eight of every 2048 pass, counted from the last time that the source was forgotten
(`missed`). `accept_eq_true_iff` says so of a session in which the counter stands where
`counted_after` says it stands after every history, and `refused_le` that at most 2040 packets of a
source are refused in a row.
-/

namespace Simulcast.Session

open Switching Trickle

variable {s t : Session} {source : Source}

/-! ### What was heard of a source -/

/-- Whether the packets of a source were selected when they came, since the source was last
forgotten, the newest first. -/
def heard (s : Session) (source : Source) : List Input → List Bool
  | [] => []
  | .operation (.forget other) :: past => if other = source then [] else s.heard source past
  | .operation _ :: past => s.heard source past
  | .packet p :: past =>
    if p.source = source then (s.after past).selects p :: s.heard source past
    else s.heard source past

/-- The number of packets of a source that were not selected since it was last forgotten. -/
def missed (s : Session) (source : Source) (past : List Input) : Nat :=
  (s.heard source past).count false

/-- The number of packets of a source that were refused since one of them passed. -/
def refused (s : Session) (source : Source) : List Input → Nat
  | [] => 0
  | .operation _ :: past => s.refused source past
  | .packet p :: past =>
    if p.source = source then
      if ((s.after past).accept quiet p).1 then 0 else s.refused source past + 1
    else s.refused source past

theorem missed_packet (s : Session) (p : Packet) (past : List Input) :
    s.missed source (.packet p :: past) =
      s.missed source past +
        if p.source = source ∧ (s.after past).selects p = false then 1 else 0 := by
  unfold missed
  rw [heard]
  by_cases hp : p.source = source
  · cases hs : (s.after past).selects p <;> simp [hp]
  · simp [hp]

/-! ### The counters -/

theorem conclude_ledger (p : Packet) (selected : Bool) (s : Session) :
    (s.conclude p selected).2.ledger =
      if selected then s.ledger else s.ledger.advance p.source := by
  unfold conclude
  split
  · rfl
  · unfold trickle
    simp only
    split <;> rfl

/-- A packet that is not selected advances the counter of its source, a selected one none. -/
theorem accept_ledger (p : Packet) (s : Session) :
    (s.accept quiet p).2.ledger =
      if s.selects p then s.ledger else s.ledger.advance p.source := by
  obtain ⟨-, -, -, -, ledger⟩ := s.readThreshold.heed_keeps p
  rw [accept_quiet, conclude_ledger, ledger, readThreshold_ledger]

theorem remove_ledger (h : Handle) (s : Session) : (s.remove h).2.ledger = s.ledger := by
  unfold remove
  split <;> rfl

theorem forget_counted (other : Source) {d : Nat} (h : s.ledger.Counted source d) :
    (s.forget other).ledger.Counted source (if other = source then 0 else d) := by
  unfold forget
  split
  · rename_i known
    by_cases ho : other = source
    · subst ho
      rw [if_pos rfl]
      exact Ledger.counted_erase
    · simpa [ho, note] using (Ledger.counted_erase_of_ne (Ne.symm ho)).2 h
  · rename_i unknown
    by_cases ho : other = source
    · subst ho
      simpa using Ledger.counted_zero_iff.2 (by simpa using unknown)
    · simpa [ho] using h

/-- Only forgetting a source changes the counters between packets. -/
theorem perform_ledger {o : Operation} (h : ∀ source, o ≠ .forget source) :
    (s.perform o).ledger = s.ledger := by
  cases o with
  | configure r => exact untouched_ledger.configure r s
  | configureOverride r => exact untouched_ledger.configureOverride r s
  | receiveHigh => exact untouched_ledger.receiveHigh s
  | receiveLow urgent => exact untouched_ledger.receiveLow urgent s
  | readThreshold => exact readThreshold_ledger s
  | forget source => exact absurd rfl (h source)
  | add l => rfl
  | insert layer => rfl
  | remove hd => exact remove_ledger hd s
  | clear => rfl
  | alter layer l => rfl
  | alterReceiver e => rfl
  | alterSender e => rfl

/-- After every history the counter of a source stands at the number of its packets that were
missed. -/
theorem counted_after (h : s.ledger.Counted source 0) (past : List Input) :
    (s.after past).ledger.Counted source (s.missed source past) := by
  induction past with
  | nil => exact h
  | cons i past ih =>
    rw [after]
    cases i with
    | operation o =>
      by_cases ho : ∃ other, o = .forget other
      · obtain ⟨other, rfl⟩ := ho
        have counted := forget_counted other ih
        rw [missed, heard]
        split at counted
        · rename_i same
          rw [if_pos same]
          exact counted
        · rename_i different
          rw [if_neg different]
          exact counted
      · have kept : (s.missed source (.operation o :: past)) = s.missed source past := by
          cases o <;> first | rfl | exact absurd ⟨_, rfl⟩ ho
        rw [feed, perform_ledger (fun other e => ho ⟨other, e⟩), kept]
        exact ih
    | packet p =>
      rw [feed, accept_ledger, missed_packet]
      cases hs : (s.after past).selects p with
      | true => simpa using ih
      | false =>
        by_cases hp : p.source = source
        · subst hp
          simpa using Ledger.counted_advance ih
        · simpa [hp] using (Ledger.counted_advance_of_ne (Ne.symm hp)).2 ih

/-! ### The decision -/

theorem conclude_eq_true_iff {p : Packet} {d : Nat} (selected : Bool)
    (h : s.ledger.Counted p.source d) :
    (s.conclude p selected).1 = true ↔ selected = true ∨ d % 2048 < 8 := by
  unfold conclude
  cases selected with
  | true => simp
  | false =>
    have passes := Ledger.passes_of_counted (Ledger.counted_advance h)
    rw [← passes]
    unfold trickle
    simp only [Bool.false_eq_true, if_false, false_or]
    split <;> rfl

/-- A packet passes if it is selected, or if it comes at the beginning of a cycle of its source. -/
theorem accept_eq_true_iff {p : Packet} {d : Nat} (h : s.ledger.Counted p.source d) :
    (s.accept quiet p).1 = true ↔ s.selects p = true ∨ d % 2048 < 8 := by
  obtain ⟨-, -, -, -, ledger⟩ := s.readThreshold.heed_keeps p
  rw [accept_quiet]
  exact conclude_eq_true_iff _ (by rw [ledger, readThreshold_ledger]; exact h)

/-! ### How long a source is refused -/

theorem missed_operation (s : Session) (source : Source) (o : Operation) (past : List Input) :
    s.missed source (.operation o :: past) = s.missed source past ∨
      s.missed source (.operation o :: past) = 0 := by
  cases o with
  | forget other =>
    rw [missed, heard]
    split
    · exact .inr rfl
    · exact .inl rfl
  | _ => exact .inl rfl

/-- Packets in a row are refused only after the first eight of a cycle, and so at most 2040. -/
theorem refused_le (h : s.ledger.Counted source 0) (past : List Input) :
    s.refused source past ≤ 2040 ∧
      (s.missed source past % 2048 ≠ 0 →
        s.refused source past ≤ s.missed source past % 2048 - 8) := by
  induction past with
  | nil => exact ⟨Nat.zero_le _, fun _ => Nat.zero_le _⟩
  | cons i past ih =>
    obtain ⟨bound, cycle⟩ := ih
    cases i with
    | operation o =>
      rw [refused]
      obtain same | none := missed_operation s source o past
      · rw [same]
        exact ⟨bound, cycle⟩
      · rw [none]
        exact ⟨bound, fun started => absurd rfl started⟩
    | packet p =>
      rw [refused, missed_packet]
      by_cases hp : p.source = source
      · subst hp
        have passes := accept_eq_true_iff (counted_after h past)
        cases ha : ((s.after past).accept quiet p).1 with
        | true => simp
        | false =>
          -- the packet was not selected, and the cycle is past its first eight
          rw [ha] at passes
          have unselected : (s.after past).selects p = false := by
            simpa using fun selected => (passes.2 (.inl selected)).symm
          have late : 8 ≤ s.missed p.source past % 2048 :=
            Nat.le_of_not_lt fun early => Bool.false_ne_true (passes.2 (.inr early))
          have counted := cycle (by omega)
          simp only [unselected, and_self, if_true, Bool.false_eq_true, if_false]
          omega
      · simpa [hp] using ⟨bound, cycle⟩

theorem counted_fresh (channel : Announcement.Channel) (thresholds : Thresholds)
    (source : Source) : (fresh channel thresholds).ledger.Counted source 0 := rfl

end Simulcast.Session
