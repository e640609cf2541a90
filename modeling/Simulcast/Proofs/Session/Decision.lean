import Simulcast.Proofs.Session.Frame

/-!
# The decision about a packet, undisturbed

`accept_quiet` says what deciding about a packet comes to while no layer acts when it is
asked: the threshold is read, the packet is counted for the next layer if it belongs to it
and not to the current one (`heed`), and the packet passes if the roles that stood at the
beginning select it (`selects`) or else if it trickles.
-/

namespace Simulcast.Session

open Switching

variable {s : Session}

/-! ### Reading the threshold -/

/-- Events recorded one after the other end up in front of the journal, the last one first. -/
theorem foldl_note (es : List Journal.Event) (s : Session) :
    es.foldl (fun s e => s.note e) s = { s with journal := es.reverse ++ s.journal } := by
  induction es generalizing s with
  | nil => rfl
  | cons e es ih =>
    rw [List.foldl_cons, ih, List.reverse_cons, List.append_assoc]
    rfl

/-- A threshold that was read is not read again. -/
theorem readThreshold_of_initialized (h : s.initialized = true) : s.readThreshold = s := by
  rw [readThreshold, if_pos h]

/-- The first time, the answer of the settings becomes the threshold, and nothing else is done. -/
theorem readThreshold_of_not_initialized (h : s.initialized = false) :
    s.readThreshold =
      { s with
        minNextSeen := (s.thresholds.lookup minNextSeenKey defaultMinNextSeen).value
        initialized := true
        happenings := .thresholdRead minNextSeenKey defaultMinNextSeen :: s.happenings
        journal :=
          .initializing (s.thresholds.lookup minNextSeenKey defaultMinNextSeen).value ::
            ((s.thresholds.lookup minNextSeenKey defaultMinNextSeen).events.reverse ++
              s.journal) } := by
  rw [readThreshold, if_neg (by simp [h])]
  simp only [foldl_note]
  rfl

/-- A view of a session that recording and a new threshold leave alone is left alone by reading the
threshold. -/
theorem readThreshold_eq_of {α : Type} (view : Session → α)
    (h : ∀ s m hs js, view { s with
      minNextSeen := m, initialized := true, happenings := hs, journal := js } = view s)
    (s : Session) : view s.readThreshold = view s := by
  cases hi : s.initialized with
  | true => rw [readThreshold_of_initialized hi]
  | false =>
    rw [readThreshold_of_not_initialized hi]
    exact h s _ _ _

@[simp] theorem readThreshold_lineup (s : Session) : s.readThreshold.lineup = s.lineup :=
  readThreshold_eq_of (·.lineup) (fun _ _ _ _ => rfl) s

@[simp] theorem readThreshold_roles (s : Session) : s.readThreshold.roles = s.roles :=
  readThreshold_eq_of (·.roles) (fun _ _ _ _ => rfl) s

@[simp] theorem readThreshold_ledger (s : Session) : s.readThreshold.ledger = s.ledger :=
  readThreshold_eq_of (·.ledger) (fun _ _ _ _ => rfl) s

@[simp] theorem readThreshold_initialized (s : Session) : s.readThreshold.initialized = true := by
  cases hi : s.initialized with
  | true => rw [readThreshold_of_initialized hi, hi]
  | false => rw [readThreshold_of_not_initialized hi]

/-! ### What the roles say about a packet -/

/-- No layer acts while it is asked. -/
def quiet : During := fun _ _ s => s

/-- Whether the layer that has a role owns a packet. -/
def claims (role : Role) (p : Packet) (s : Session) : Bool :=
  (s.holder? role).any fun n => (s.lineup.layer n).owns p

/-- Whether the roles select a packet: the layer that overrides the decision, if there is one, or
else the current or the next layer. -/
def selects (p : Packet) (s : Session) : Bool :=
  if s.isOverridden then s.claims .override p else s.claims .current p || s.claims .next p

/-- Whether a packet counts for the next layer: it is its own and not one of the current layer. -/
def counts (p : Packet) (s : Session) : Bool := !s.claims .current p && s.claims .next p

/-- The session after a packet that counts was counted. -/
def heed (p : Packet) (s : Session) : Session :=
  match s.roles.handle? .next with
  | some h => if s.counts p then commit (s.promote h) else s
  | none => s

/-- Who has a role depends on the layers and on the handle that the role holds. -/
theorem holder?_congr {t : Session} {role : Role} (lineup : s.lineup = t.lineup)
    (handle : s.roles.handle? role = t.roles.handle? role) : s.holder? role = t.holder? role := by
  rw [holder?, holder?, Roles.holder?, Roles.holder?, handle, lineup]

/-- So does whether there is an override, -/
theorem isOverridden_congr {t : Session} (lineup : s.lineup = t.lineup)
    (handle : s.roles.handle? .override = t.roles.handle? .override) :
    s.isOverridden = t.isOverridden := by
  rw [isOverridden, isOverridden, holder?_congr lineup handle]

/-- which packets a role claims, -/
theorem claims_congr {t : Session} {role : Role} (p : Packet) (lineup : s.lineup = t.lineup)
    (handle : s.roles.handle? role = t.roles.handle? role) : s.claims role p = t.claims role p := by
  rw [claims, claims, holder?_congr lineup handle, lineup]

/-- and, taken over all roles, which packets are selected. -/
theorem selects_congr {t : Session} (p : Packet) (lineup : s.lineup = t.lineup)
    (handle : ∀ role, s.roles.handle? role = t.roles.handle? role) :
    s.selects p = t.selects p := by
  simp only [selects, isOverridden_congr lineup (handle .override),
    claims_congr p lineup (handle .override), claims_congr p lineup (handle .current),
    claims_congr p lineup (handle .next)]

/-- Reading the threshold selects no other packets. -/
@[simp] theorem selects_readThreshold (p : Packet) (s : Session) :
    s.readThreshold.selects p = s.selects p :=
  selects_congr p (readThreshold_lineup s) fun _ => by rw [readThreshold_roles]

/-! ### Promotion -/

/-- A packet is counted in vain if the next role does not hold the handle any more. -/
theorem promote_of_ne {h : Handle} (hn : s.roles.handle? .next ≠ some h) :
    s.promote h = ([], s) := by
  rw [promote, if_pos hn]

/-- Nor does it count if the layer has left. -/
theorem promote_of_gone {h : Handle} (hr : s.lineup.resolve h = none) :
    s.promote h = ([], s) := by
  unfold promote
  split
  · rfl
  · rw [hr]

/-- A packet of the next layer is counted, and the layer takes over if that is enough. -/
theorem promote_of_pending {h : Handle} {layer : Nat} (hn : s.roles.handle? .next = some h)
    (hr : s.lineup.resolve h = some layer) :
    s.promote h =
      if exceeds s.countNext.seenNext s.minNextSeen (s.lineup.order layer) then
        (s.countNext.announcementUnlessOverridden .changed layer,
          (s.countNext.note
            (.promoted (s.lineup.order layer) s.countNext.seenNext)).makeCurrent h true)
      else ([], s.countNext) := by
  rw [promote, if_neg (by simp [hn]), hr]
  rfl

/-- Whatever it leads to, counting a packet changes neither the layers, nor the override, nor the
threshold, nor the counters of other packets. -/
theorem promote_keeps (h : Handle) (s : Session) :
    (s.promote h).2.lineup = s.lineup ∧
      (s.promote h).2.roles.handle? .override = s.roles.handle? .override ∧
      (s.promote h).2.minNextSeen = s.minNextSeen ∧
      (s.promote h).2.initialized = s.initialized ∧
      (s.promote h).2.ledger = s.ledger := by
  by_cases hn : s.roles.handle? .next = some h
  · cases hr : s.lineup.resolve h with
    | none => rw [promote_of_gone hr]; exact ⟨rfl, rfl, rfl, rfl, rfl⟩
    | some layer =>
      rw [promote_of_pending hn hr]
      split
      · simp [makeCurrent, dropNext, assign, note, countNext]
      · exact ⟨rfl, rfl, rfl, rfl, rfl⟩
  · rw [promote_of_ne hn]
    exact ⟨rfl, rfl, rfl, rfl, rfl⟩

/-- Counting a packet, or not, keeps the layers and all else that `promote_keeps` lists. -/
theorem heed_keeps (p : Packet) (s : Session) :
    (s.heed p).lineup = s.lineup ∧
      (s.heed p).roles.handle? .override = s.roles.handle? .override ∧
      (s.heed p).minNextSeen = s.minNextSeen ∧
      (s.heed p).initialized = s.initialized ∧
      (s.heed p).ledger = s.ledger := by
  unfold heed
  split
  · split
    · simpa using s.promote_keeps _
    · exact ⟨rfl, rfl, rfl, rfl, rfl⟩
  · exact ⟨rfl, rfl, rfl, rfl, rfl⟩

/-- A packet that does not count changes nothing. -/
theorem heed_of_not_counts {p : Packet} (h : s.counts p = false) : s.heed p = s := by
  unfold heed
  split
  · rw [if_neg (by simp [h])]
  · rfl

/-! ### Asking the layers -/

theorem askCurrent_quiet (p : Packet) (s : Session) :
    s.askCurrent quiet p = (s.claims .current p, s) := by
  rw [askCurrent, claims]
  cases s.holder? .current with
  | none => rfl
  | some layer => rfl

theorem askOverride_quiet (p : Packet) (selected : Bool) (s : Session) :
    s.askOverride quiet p selected =
      (if s.isOverridden then s.claims .override p else selected, s) := by
  rw [askOverride, claims, isOverridden]
  cases s.holder? .override with
  | none => rfl
  | some layer => rfl

/-- If the current layer does not own the packet, the next one is asked and the packet is heeded. -/
theorem askNext_quiet {p : Packet} (h : s.claims .current p = false) :
    s.askNext quiet p = (s.claims .next p, s.heed p) := by
  have asked : s.claims .next p = (s.roles.handle? .next).any fun h =>
      (s.lineup.resolve h).any fun n => (s.lineup.layer n).owns p := by
    rw [claims, holder?, Roles.holder?]
    cases s.roles.handle? .next <;> rfl
  rw [askNext, heed, counts, asked, h]
  cases s.roles.handle? .next with
  | none => rfl
  | some hd =>
    cases hr : s.lineup.resolve hd with
    | none => simp [hr]
    | some layer =>
      simp only [ask, quiet, Option.any_some, hr, Bool.not_false, Bool.true_and]
      rfl

theorem select_quiet (p : Packet) (s : Session) :
    s.select quiet p = (s.selects p, s.heed p) := by
  rw [select, askCurrent_quiet]
  cases hc : s.claims .current p with
  | true =>
    rw [heed_of_not_counts (by simp [counts, hc])]
    simp [askOverride_quiet, selects, hc]
  | false =>
    obtain ⟨lineup, override, -⟩ := s.heed_keeps p
    simp only [Bool.false_eq_true, if_false, askNext_quiet hc, askOverride_quiet, selects, hc,
      Bool.false_or, isOverridden_congr lineup override, claims_congr p lineup override]

/-- **Deciding about a packet**: it is heeded, and passes if the roles that stood before select it
or if it trickles. -/
theorem accept_quiet (p : Packet) (s : Session) :
    s.accept quiet p = (s.readThreshold.heed p).conclude p (s.selects p) := by
  rw [accept, select_quiet, selects_readThreshold]

/-! ### What is counted -/

/-- A decision is counted once: as one that was forwarded or was not, and among the former as one
that trickled if no layer selected the packet. -/
theorem tally_conclude_eq (p : Packet) (selected : Bool) (s : Session) :
    (s.conclude p selected).2.tally =
      s.tally.packet (s.conclude p selected).1 ((s.conclude p selected).1 && !selected) := by
  unfold conclude
  cases selected with
  | true => rfl
  | false =>
    have counters : (s.trickle p.source).2.tally = s.tally := by
      unfold trickle
      simp only
      split <;> rfl
    simp only [Bool.false_eq_true, if_false, record, Bool.not_false, Bool.and_true]
    rw [← counters]
    rfl

end Simulcast.Session
