import Simulcast.Proofs.Session.Course
import Simulcast.Proofs.Switching.Promotion

/-!
# When bridging ends

While the next layer is forwarded beside the current one, the packets that count for it are those
that it owns and the current layer does not. `bridging_ends_exactly` says, for packets of any
kind in any order, that nothing but the count moves up to the packet with which the count exceeds
the threshold, that the layer takes over with just that packet, and that nothing moves any more
after it.
-/

namespace Simulcast.Session

open Switching

variable {s t : Session} {h : Handle} {layer : Nat}

/-- Whether the count exceeds the threshold with the `j`-th packet that counts from now on, both
over the integers but for the count, which stops at the greatest word. -/
def DueAt (s : Session) (layer j : Nat) : Prop :=
  exactThreshold s.minNextSeen (s.lineup.order layer) <
    (min (s.seenNext.toNat + j) greatestCount : Nat)

/-- The course once what a handle names took over as the next layer. -/
def Course.takeOver (c : Course) (h : Handle) : Course :=
  { c with
    current := some h
    next := none
    seenNext := 0
    switches := c.switches + 1
    promotions := c.promotions + 1 }

/-- The session `t` is where `s` was, but that a number of packets more were counted. -/
structure Pending (s t : Session) (counted : Nat) : Prop where
  /-- Of the course only the count moved. -/
  course : t.course =
    { s.course with seenNext := .ofNat (min (s.seenNext.toNat + counted) greatestCount) }
  /-- The override is the same. -/
  override : t.roles.handle? .override = s.roles.handle? .override

/-- The session `t` is where `s` was, but that what the handle names took over. -/
structure Promoted (s t : Session) (h : Handle) : Prop where
  /-- Of the course just that changed. -/
  course : t.course = s.course.takeOver h
  /-- The override is the same. -/
  override : t.roles.handle? .override = s.roles.handle? .override

/-! ### One packet -/

theorem course_promote_of_pending (pending : s.roles.handle? .next = some h)
    (there : s.lineup.resolve h = some layer) :
    (s.promote h).2.course =
      if exactThreshold s.minNextSeen (s.lineup.order layer) < (countUp s.seenNext).toNat then
        s.course.takeOver h
      else { s.course with seenNext := countUp s.seenNext } := by
  have more : s.countNext.seenNext = countUp s.seenNext := rfl
  rw [promote_of_pending pending there, more]
  by_cases enough : exactThreshold s.minNextSeen (s.lineup.order layer) < (countUp s.seenNext).toNat
  · rw [if_pos enough, if_pos ((exceeds_iff _ _ _).2 enough), course_makeCurrent, course_note,
      course_countNext]
    rfl
  · rw [if_neg enough, if_neg (fun exceeds => enough ((exceeds_iff _ _ _).1 exceeds)),
      course_countNext]

theorem heed_of_counts {p : Packet} (pending : s.roles.handle? .next = some h)
    (counts : s.counts p = true) : s.heed p = commit (s.promote h) := by
  rw [heed, pending]
  simp only [counts, if_true]

namespace Pending

variable {i : Nat} (at_i : Pending s t i)
include at_i

theorem seenNext : t.seenNext.toNat = min (s.seenNext.toNat + i) greatestCount := by
  have count : t.seenNext = .ofNat (min (s.seenNext.toNat + i) greatestCount) :=
    congrArg Course.seenNext at_i.course
  have bound : min (s.seenNext.toNat + i) greatestCount < 2 ^ 32 := by
    unfold greatestCount
    omega
  rw [count, UInt32.toNat_ofNat_of_lt' bound]

theorem counts (p : Packet) : t.counts p = s.counts p := by
  have lineup : t.lineup = s.lineup := congrArg Course.lineup at_i.course
  have current : t.roles.handle? .current = s.roles.handle? .current :=
    congrArg Course.current at_i.course
  have next : t.roles.handle? .next = s.roles.handle? .next :=
    congrArg Course.next at_i.course
  rw [Session.counts, Session.counts, claims_congr p lineup current, claims_congr p lineup next]

/-- A packet that does not count moves nothing, -/
theorem idle {p : Packet} (initialized : s.initialized = true) (uncounted : s.counts p = false) :
    Pending s (t.accept quiet p).2 i where
  course := by
    have read : t.initialized = true :=
      (congrArg Course.initialized at_i.course).trans initialized
    rw [course_accept_of_initialized read, heed_of_not_counts (by rw [at_i.counts, uncounted]),
      at_i.course]
  override := by rw [(t.accept_keeps p).2, at_i.override]

/-- The course after a packet that counts. -/
theorem course_accept {p : Packet} (initialized : s.initialized = true)
    (pending : s.roles.handle? .next = some h) (there : s.lineup.resolve h = some layer)
    (counted : s.counts p = true) :
    (t.accept quiet p).2.course =
      if exactThreshold s.minNextSeen (s.lineup.order layer) < (countUp t.seenNext).toNat then
        s.course.takeOver h
      else { s.course with seenNext := countUp t.seenNext } := by
  have read : t.initialized = true :=
    (congrArg Course.initialized at_i.course).trans initialized
  have lineup : t.lineup = s.lineup := congrArg Course.lineup at_i.course
  have next : t.roles.handle? .next = some h :=
    (congrArg Course.next at_i.course).trans pending
  have threshold : t.minNextSeen = s.minNextSeen := congrArg Course.minNextSeen at_i.course
  rw [course_accept_of_initialized read, heed_of_counts next (by rw [at_i.counts, counted]),
    course_commit, course_promote_of_pending next (lineup ▸ there), at_i.course, lineup, threshold]
  rfl

theorem countUp_seenNext :
    (countUp t.seenNext).toNat = min (s.seenNext.toNat + (i + 1)) greatestCount := by
  rw [toNat_countUp, at_i.seenNext]
  omega

/-- one that counts is counted as long as that is not enough, -/
theorem count {p : Packet} (initialized : s.initialized = true)
    (pending : s.roles.handle? .next = some h) (there : s.lineup.resolve h = some layer)
    (counted : s.counts p = true) (early : ¬ s.DueAt layer (i + 1)) :
    Pending s (t.accept quiet p).2 (i + 1) where
  course := by
    have more := at_i.countUp_seenNext
    rw [at_i.course_accept initialized pending there counted, if_neg (by rw [more]; exact early),
      ← more, UInt32.ofNat_toNat]
  override := by rw [(t.accept_keeps p).2, at_i.override]

/-- and with the one that is enough the layer takes over. -/
theorem promote {p : Packet} (initialized : s.initialized = true)
    (pending : s.roles.handle? .next = some h) (there : s.lineup.resolve h = some layer)
    (counted : s.counts p = true) (due : s.DueAt layer (i + 1)) :
    Promoted s (t.accept quiet p).2 h where
  course := by
    have more := at_i.countUp_seenNext
    rw [at_i.course_accept initialized pending there counted, if_pos (by rw [more]; exact due)]
  override := by rw [(t.accept_keeps p).2, at_i.override]

end Pending

/-- Once the layer took over, no packet moves anything. -/
theorem Promoted.idle (promoted : Promoted s t h) (initialized : s.initialized = true)
    (p : Packet) : Promoted s (t.accept quiet p).2 h where
  course := by
    have read : t.initialized = true :=
      (congrArg Course.initialized promoted.course).trans initialized
    have next : t.roles.handle? .next = none := congrArg Course.next promoted.course
    have unclaimed : t.claims .next p = false := by
      rw [claims, holder?, Roles.holder?, next]
      rfl
    rw [course_accept_of_initialized read,
      heed_of_not_counts (by rw [counts, unclaimed, Bool.and_false]), promoted.course]
  override := by rw [(t.accept_keeps p).2, promoted.override]

/-! ### Any number of packets -/

theorem Promoted.run (promoted : Promoted s t h) (initialized : s.initialized = true)
    (ps : List Packet) : Promoted s (t.acceptAll quiet ps).2 h := by
  induction ps generalizing t with
  | nil => exact promoted
  | cons p ps ih => exact ih (promoted.idle initialized p)

/-- From where `i` packets were counted: the layer is still pending as long as none of the packets
that count since was the one it took, and takes over with that one. -/
theorem Pending.run {i : Nat} (at_i : Pending s t i) (initialized : s.initialized = true)
    (pending : s.roles.handle? .next = some h) (there : s.lineup.resolve h = some layer)
    (ps : List Packet) :
    ((∀ j, i < j → j ≤ i + ps.countP (s.counts ·) → ¬ s.DueAt layer j) →
      Pending s (t.acceptAll quiet ps).2 (i + ps.countP (s.counts ·))) ∧
    ((∃ j, i < j ∧ j ≤ i + ps.countP (s.counts ·) ∧ s.DueAt layer j) →
      Promoted s (t.acceptAll quiet ps).2 h) := by
  induction ps generalizing t i with
  | nil =>
    refine ⟨fun _ => at_i, ?_⟩
    rintro ⟨j, after, upto, -⟩
    rw [List.countP_nil] at upto
    omega
  | cons p ps ih =>
    rw [acceptAll, List.countP_cons]
    cases counted : s.counts p with
    | false =>
      simpa using ih (at_i.idle initialized counted)
    | true =>
      have total : i + (ps.countP (s.counts ·) + 1) = i + 1 + ps.countP (s.counts ·) := by omega
      rw [if_pos rfl, total]
      by_cases due : s.DueAt layer (i + 1)
      · have promoted := at_i.promote initialized pending there counted due
        refine ⟨fun none => absurd due (none (i + 1) (by omega) (by omega)), fun _ => ?_⟩
        exact promoted.run initialized ps
      · obtain ⟨still, ended⟩ := ih (at_i.count initialized pending there counted due)
        refine ⟨fun none => still fun j after upto => none j (by omega) upto, ?_⟩
        rintro ⟨j, after, upto, at_j⟩
        have later : j ≠ i + 1 := by
          rintro rfl
          exact due at_j
        exact ended ⟨j, by omega, upto, at_j⟩

/-! ### The packet with which bridging ends -/

theorem Pending.refl (s : Session) : Pending s s 0 where
  course := by
    have bound := toNat_le_greatestCount s.seenNext
    rw [Nat.add_zero, Nat.min_eq_left bound, UInt32.ofNat_toNat]
    rfl
  override := rfl

/-- From a count of zero on, the count exceeds the threshold with the packet after those of the
threshold, -/
theorem dueAt_iff_of_seenNext_eq_zero (none : s.seenNext = 0)
    (low : exactThreshold s.minNextSeen (s.lineup.order layer) < greatestCount) {j : Nat}
    (counted : 1 ≤ j) :
    s.DueAt layer j ↔
      (exactThreshold s.minNextSeen (s.lineup.order layer)).toNat + 1 ≤ j := by
  have zero : s.seenNext.toNat = 0 := by rw [none]; rfl
  unfold DueAt
  rw [zero]
  omega

/-- or with none, if the threshold is out of the reach of the count. -/
theorem not_dueAt_of_greatestCount_le
    (high : greatestCount ≤ exactThreshold s.minNextSeen (s.lineup.order layer)) (j : Nat) :
    ¬ s.DueAt layer j := by
  unfold DueAt
  omega

/-- **Bridging ends at exactly the right packet.** Let the next layer be there once the threshold
was read, and let packets of any kind be decided about, `counted` of which belong to the next and
not to the current layer. As long as the count exceeded the threshold with none of these, nothing
moved but the count. Once it did with one of them, the layer took over with the first of these, and
nothing moved after it. From a count of zero on, the first of these is the one after as many as the
threshold says (after none, if it is negative), and there is none if the threshold is the greatest
count or above. -/
theorem bridging_ends_exactly (initialized : s.initialized = true)
    (pending : s.roles.handle? .next = some h) (there : s.lineup.resolve h = some layer)
    (ps : List Packet) :
    let t := (s.acceptAll quiet ps).2
    let counted := ps.countP (s.counts ·)
    let threshold := exactThreshold s.minNextSeen (s.lineup.order layer)
    ((∀ j, 1 ≤ j → j ≤ counted → ¬ s.DueAt layer j) → Pending s t counted) ∧
    ((∃ j, 1 ≤ j ∧ j ≤ counted ∧ s.DueAt layer j) → Promoted s t h) ∧
    (s.seenNext = 0 → threshold < greatestCount →
      (counted ≤ threshold.toNat → Pending s t counted) ∧
      (threshold.toNat + 1 ≤ counted → Promoted s t h)) ∧
    (s.seenNext = 0 → greatestCount ≤ threshold → Pending s t counted) := by
  intro t counted threshold
  obtain ⟨still, ended⟩ := (Pending.refl s).run initialized pending there ps
  rw [Nat.zero_add] at still ended
  refine ⟨still, ended, fun none low => ⟨fun few => ?_, fun many => ?_⟩, fun none high => ?_⟩
  · refine still fun j after upto due => ?_
    have := (dueAt_iff_of_seenNext_eq_zero none low after).1 due
    omega
  · refine ended ⟨threshold.toNat + 1, by omega, many, ?_⟩
    exact (dueAt_iff_of_seenNext_eq_zero none low (by omega)).2 (Nat.le_refl _)
  · exact still fun j _ _ => not_dueAt_of_greatestCount_le high j

/-- A session with a threshold of one, in which a layer of order zero is the current and one of
order one the next layer. -/
def bridgingSample : Session :=
  (fresh default (.fixed 1)).after
    [.operation (.configure (some (.toOrder ⟨1⟩ false))),
      .operation (.configure (some (.toOrder ⟨0⟩ false))), .operation .readThreshold,
      .operation (.add (.numbered 1)), .operation (.add (.numbered 0))]

/-- Of five packets three are of the next layer, and with the third of them it takes over. -/
theorem bridging_ends_with_third :
    bridgingSample.initialized = true ∧
      bridgingSample.roles.handle? .next = some ⟨1, .first⟩ ∧
      bridgingSample.lineup.resolve ⟨1, .first⟩ = some 1 ∧
      Promoted bridgingSample (bridgingSample.acceptAll quiet
        [.sample 200 0, .sample 100 0, .sample 200 1, .sample 300 0, .sample 200 2]).2
        ⟨1, .first⟩ := by
  have initialized : bridgingSample.initialized = true := by decide
  have pending : bridgingSample.roles.handle? .next = some ⟨1, .first⟩ := by decide
  have there : bridgingSample.lineup.resolve ⟨1, .first⟩ = some 1 := by decide
  refine ⟨initialized, pending, there, ?_⟩
  obtain ⟨-, -, fromZero, -⟩ := bridging_ends_exactly initialized pending there
    [.sample 200 0, .sample 100 0, .sample 200 1, .sample 300 0, .sample 200 2]
  exact (fromZero (by decide) (by decide)).2 (by decide)

end Simulcast.Session
