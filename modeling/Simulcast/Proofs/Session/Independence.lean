import Simulcast.Proofs.Session.Admission
import Simulcast.Proofs.Session.Proclamation

/-!
# Packets of other sources

Packets of other sources that are not selected can be left out of a history (`Thinned`), and the
decisions about a source stay what they are, but for two kinds. A packet with which the engine
reads its threshold must not be left out if a switch is asked for before the threshold would be read
without it; and one that counts for the next layer behind an override decides who the current layer
is once the override is gone. `admission_exact` says which packets pass, and
`decided_by_others` that both kinds matter.
-/

namespace Simulcast.Session

open Switching Trickle

variable {s t : Session} {source : Source} {veiled : Bool} {past thin : List Input}

/-! ### Leaving packets out -/

/-- Whether an operation asks for a switch. -/
def Operation.switches : Operation → Bool
  | .configure _ => true
  | .receiveHigh => true
  | .receiveLow _ => true
  | _ => false

/-- A history and the same one without some packets of other sources than the given one that are not
selected when they come. The flag is a veil: one of these packets may have counted for the next
layer, but there was an override then and there is one ever since. -/
inductive Thinned (s : Session) (source : Source) : Bool → List Input → List Input → Prop where
  /-- Nothing happened. -/
  | nothing : Thinned s source false [] []
  /-- A packet stays. -/
  | packet {veiled : Bool} {past thin : List Input} (p : Packet)
      (before : Thinned s source veiled past thin) :
      Thinned s source veiled (.packet p :: past) (.packet p :: thin)
  /-- An operation stays. Where a switch is asked for, both have read the threshold or neither has,
  unless there is a veil; and a veil stays only with the override. -/
  | operation {veiled : Bool} {past thin : List Input} (o : Operation)
      (before : Thinned s source veiled past thin)
      (read : veiled = false → o.switches = true →
        (s.after past).initialized = (s.after thin).initialized)
      (veil : veiled = true → (s.after (.operation o :: past)).isOverridden = true) :
      Thinned s source veiled (.operation o :: past) (.operation o :: thin)
  /-- A packet is left out that, if there is an override, does not count for the next layer. -/
  | omitted {veiled : Bool} {past thin : List Input} (p : Packet)
      (before : Thinned s source veiled past thin) (other : p.source ≠ source)
      (unselected : (s.after past).selects p = false)
      (uncounted : (s.after past).isOverridden = true → (s.after past).counts p = false) :
      Thinned s source veiled (.packet p :: past) thin
  /-- A packet is left out while there is an override, which leaves a veil. -/
  | hidden {veiled : Bool} {past thin : List Input} (p : Packet)
      (before : Thinned s source veiled past thin) (other : p.source ≠ source)
      (unselected : (s.after past).selects p = false)
      (overridden : (s.after past).isOverridden = true) :
      Thinned s source true (.packet p :: past) thin

/-! ### Steps of both -/

/-- Where operations lead the layers depends on the layers, -/
theorem lineup_perform_congr (o : Operation) (h : s.lineup = t.lineup) :
    (s.perform o).lineup = (t.perform o).lineup := by
  have kept {f : Session → Session} (same : ∀ s, (f s).lineup = s.lineup) :
      (f s).lineup = (f t).lineup := (same s).trans (h.trans (same t).symm)
  cases o with
  | configure r => exact kept (untouched_lineup.configure r)
  | configureOverride r => exact kept (untouched_lineup.configureOverride r)
  | receiveHigh => exact kept untouched_lineup.receiveHigh
  | receiveLow urgent => exact kept (untouched_lineup.receiveLow urgent)
  | readThreshold => exact kept readThreshold_lineup
  | forget other => exact kept fun s => lineup_of_course (course_forget other s)
  | add l => exact congrArg (fun lu => ((lu.introduce l).insert lu.layers.length).2) h
  | insert layer => exact congrArg (fun lu => (lu.insert layer).2) h
  | remove hd =>
    have gone (s : Session) := congrArg Course.lineup (course_remove hd s)
    exact (gone s).trans ((congrArg (fun lu => (lu.remove hd).2) h).trans (gone t).symm)
  | clear => exact congrArg Lineup.clear h
  | alter layer l => exact congrArg (Lineup.alter layer fun _ => l) h
  | alterReceiver e => exact h
  | alterSender e => exact h

/-- and where they lead the override on the layers and the override. -/
theorem override_perform_congr (o : Operation) (lineup : s.lineup = t.lineup)
    (h : s.roles.handle? .override = t.roles.handle? .override) :
    (s.perform o).roles.handle? .override = (t.perform o).roles.handle? .override := by
  by_cases request : ∃ r, o = .configureOverride r
  · obtain ⟨r, rfl⟩ := request
    rw [perform, perform, configureOverride, configureOverride]
    split
    · exact h
    · rename_i target _
      cases layers : t.lineup.hasLayers with
      | false => simpa [setOverride, lineup, layers] using h
      | true =>
        cases target with
        | clear => simp [setOverride, lineup, layers, clearOverride_snd]
        | layer order =>
          cases found : t.lineup.lookup order with
          | none => simpa [setOverride, overrideWith, lineup, layers, found] using h
          | some there => simp [setOverride, overrideWith, lineup, layers, found]
  · have kept (s : Session) : (s.perform o).roles.handle? .override = s.roles.handle? .override :=
      override_of_stride (stride_perform s o) fun r same => request ⟨r, by injection same⟩
    rw [kept s, kept t, h]

/-- Every operation takes equal courses to equal courses, also a request for an override. -/
theorem course_perform_of_eq (o : Operation) (h : s.course = t.course) :
    (s.perform o).course = (t.perform o).course := by
  cases steers : Input.steers (.operation o) with
  | true => exact course_perform_congr steers h
  | false =>
    match o, steers with
    | .configureOverride r, _ =>
      exact (course_configureOverride r s).trans (h.trans (course_configureOverride r t).symm)

/-- Reading the threshold first makes no other difference to an operation that asks for no
switch. -/
theorem course_perform_readThreshold {o : Operation} (still : o.switches = false) (s : Session) :
    (s.readThreshold.perform o).course = (s.perform o).readThreshold.course := by
  rw [course_readThreshold]
  have read := course_readThreshold s
  cases o with
  | configure r => cases still
  | configureOverride r =>
    exact (course_configureOverride r _).trans
      (read.trans (congrArg Course.read (course_configureOverride r s)).symm)
  | receiveHigh => cases still
  | receiveLow urgent => cases still
  | readThreshold => exact course_readThreshold s.readThreshold
  | forget other =>
    exact (course_forget other _).trans
      (read.trans (congrArg Course.read (course_forget other s)).symm)
  | add l =>
    rw [perform, perform, course_add, course_add, Course.read_lineup, read, readThreshold_lineup]
  | insert layer =>
    rw [perform, perform, course_insert, course_insert, Course.read_lineup, read,
      readThreshold_lineup]
  | remove hd =>
    rw [perform, perform, course_remove, course_remove, Course.read_lineup, read,
      readThreshold_lineup]
  | clear =>
    rw [perform, perform, course_alterLineup, course_alterLineup, Course.read_lineup, read,
      readThreshold_lineup]
  | alter layer l =>
    rw [perform, perform, course_alterLineup, course_alterLineup, Course.read_lineup, read,
      readThreshold_lineup]
  | alterReceiver e => exact read
  | alterSender e => exact read

/-! ### Threshold read or not -/

/-- The course of a session is that of another one, which may still have to read its threshold. -/
def Ahead (s t : Session) : Prop := s.course = t.course ∨ s.course = t.readThreshold.course

/-- With a packet that both get the other one catches up, -/
theorem Ahead.accept (h : Ahead s t) (p : Packet) :
    (s.accept quiet p).2.course = (t.accept quiet p).2.course := by
  have late : (t.readThreshold.accept quiet p).2 = (t.accept quiet p).2 := by
    rw [Session.accept, Session.accept, readThreshold_of_initialized (readThreshold_initialized t)]
  obtain same | behind := h
  · exact course_accept_congr p same
  · rw [← late]
    exact course_accept_congr p behind

/-- and with one that it does not get, and that does not count, it falls behind. -/
theorem Ahead.omit (h : Ahead s t) {p : Packet} (uncounted : s.counts p = false) :
    Ahead (s.accept quiet p).2 t := by
  have unheeded : s.readThreshold.counts p = false := by
    rw [← uncounted, counts, counts,
      claims_congr (t := s) p (readThreshold_lineup s) (by rw [readThreshold_roles]),
      claims_congr (t := s) p (readThreshold_lineup s) (by rw [readThreshold_roles])]
  have course : (s.accept quiet p).2.course = s.readThreshold.course := by
    rw [accept_quiet, course_conclude, heed_of_not_counts unheeded]
  refine .inr (course.trans ?_)
  obtain same | behind := h
  · exact course_readThreshold_congr same
  · rw [course_readThreshold_congr behind,
      readThreshold_of_initialized (readThreshold_initialized t)]

/-- Operations keep them where they are, but for a switch that is asked for while one is behind. -/
theorem Ahead.perform (h : Ahead s t) {o : Operation}
    (read : o.switches = true → s.initialized = t.initialized) :
    Ahead (s.perform o) (t.perform o) := by
  obtain same | behind := h
  · exact .inl (course_perform_of_eq o same)
  · have performed := course_perform_of_eq o behind
    cases switches : o.switches with
    | false => exact .inr (performed.trans (course_perform_readThreshold switches t))
    | true =>
      have initialized : t.initialized = true :=
        (read switches).symm.trans
          ((congrArg Course.initialized behind).trans (readThreshold_initialized t))
      rw [readThreshold_of_initialized initialized] at performed
      exact .inl performed

/-! ### The same decisions -/

/-- Two sessions in which packets meet the same decisions, as far as those of a source are
concerned. Behind a veil the current and the next layer have no say. -/
structure SameFor (source : Source) (veiled : Bool) (s t : Session) : Prop where
  /-- The layers are the same. -/
  lineup : s.lineup = t.lineup
  /-- The override is the same. -/
  override : s.roles.handle? .override = t.roles.handle? .override
  /-- There is one behind a veil. -/
  veil : veiled = true → s.isOverridden = true
  /-- Without a veil the courses are the same, but for a threshold that is still to be read. -/
  course : veiled = false → Ahead s t
  /-- The counter of the source stands at the same number. -/
  counted : ∃ d, s.ledger.Counted source d ∧ t.ledger.Counted source d

/-- The same packets are selected. -/
theorem SameFor.selects (h : SameFor source veiled s t) (p : Packet) :
    s.selects p = t.selects p := by
  cases veiled with
  | true =>
    have overridden := h.veil rfl
    rw [Session.selects, Session.selects, ← isOverridden_congr h.lineup h.override, overridden]
    exact claims_congr p h.lineup h.override
  | false =>
    have roles : ∀ role, s.roles.handle? role = t.roles.handle? role := by
      intro role
      obtain same | behind := h.course rfl
      · cases role with
        | current => exact current_of_course same
        | next => exact next_of_course same
        | override => exact h.override
      · rw [← readThreshold_roles t]
        cases role with
        | current => exact current_of_course behind
        | next => exact next_of_course behind
        | override => rw [readThreshold_roles, h.override]
    exact selects_congr p h.lineup roles

/-- Both decide about a packet of the source alike. -/
theorem SameFor.decision (h : SameFor source veiled s t) {p : Packet} (hp : p.source = source) :
    (s.accept quiet p).1 = (t.accept quiet p).1 := by
  subst hp
  obtain ⟨d, hs, ht⟩ := h.counted
  rw [Bool.eq_iff_iff, accept_eq_true_iff hs, accept_eq_true_iff ht, h.selects p]

/-- A packet that both decide about leaves them alike. -/
theorem SameFor.packet (h : SameFor source veiled s t) (p : Packet) :
    SameFor source veiled (s.accept quiet p).2 (t.accept quiet p).2 where
  lineup := by rw [(s.accept_keeps p).1, (t.accept_keeps p).1, h.lineup]
  override := by rw [(s.accept_keeps p).2, (t.accept_keeps p).2, h.override]
  veil hv := (isOverridden_accept p s).trans (h.veil hv)
  course hv := .inl ((h.course hv).accept p)
  counted := by
    obtain ⟨d, hs, ht⟩ := h.counted
    rw [accept_ledger, accept_ledger, h.selects p]
    split
    · exact ⟨d, hs, ht⟩
    · by_cases hp : source = p.source
      · subst hp
        exact ⟨d + 1, Ledger.counted_advance hs, Ledger.counted_advance ht⟩
      · exact ⟨d, (Ledger.counted_advance_of_ne hp).2 hs, (Ledger.counted_advance_of_ne hp).2 ht⟩

/-- A packet of another source that only one of them gets leaves the counter of the source alone. -/
theorem SameFor.counted_omit (h : SameFor source veiled s t) {p : Packet}
    (other : p.source ≠ source) (unselected : s.selects p = false) :
    ∃ d, (s.accept quiet p).2.ledger.Counted source d ∧ t.ledger.Counted source d := by
  obtain ⟨d, hs, ht⟩ := h.counted
  rw [accept_ledger, unselected]
  exact ⟨d, (Ledger.counted_advance_of_ne (Ne.symm other)).2 hs, ht⟩

/-- If it is not selected, and does not count behind an override, they stay alike; -/
theorem SameFor.omit (h : SameFor source veiled s t) {p : Packet} (other : p.source ≠ source)
    (unselected : s.selects p = false)
    (uncounted : s.isOverridden = true → s.counts p = false) :
    SameFor source veiled (s.accept quiet p).2 t where
  lineup := by rw [(s.accept_keeps p).1, h.lineup]
  override := by rw [(s.accept_keeps p).2, h.override]
  veil hv := (isOverridden_accept p s).trans (h.veil hv)
  course hv := by
    refine (h.course hv).omit ?_
    cases free : s.isOverridden with
    | true => exact uncounted free
    | false =>
      -- without an override, a packet that is not selected does not count either
      rw [Session.selects, free, if_neg Bool.false_ne_true, Bool.or_eq_false_iff] at unselected
      rw [counts, unselected.2, Bool.and_false]
  counted := h.counted_omit other unselected

/-- if it counts, they stay alike as long as there is an override. -/
theorem SameFor.hide (h : SameFor source veiled s t) {p : Packet} (other : p.source ≠ source)
    (unselected : s.selects p = false) (overridden : s.isOverridden = true) :
    SameFor source true (s.accept quiet p).2 t where
  lineup := by rw [(s.accept_keeps p).1, h.lineup]
  override := by rw [(s.accept_keeps p).2, h.override]
  veil _ := (isOverridden_accept p s).trans overridden
  course hv := absurd hv.symm Bool.false_ne_true
  counted := h.counted_omit other unselected

/-- Operations on both leave them alike, as long as there is an override behind a veil. -/
theorem SameFor.perform (h : SameFor source veiled s t) {o : Operation}
    (read : veiled = false → o.switches = true → s.initialized = t.initialized)
    (veil : veiled = true → (s.perform o).isOverridden = true) :
    SameFor source veiled (s.perform o) (t.perform o) where
  lineup := lineup_perform_congr o h.lineup
  override := override_perform_congr o h.lineup h.override
  veil := veil
  course hv := (h.course hv).perform (read hv)
  counted := by
    obtain ⟨d, hs, ht⟩ := h.counted
    by_cases forgets : ∃ other, o = .forget other
    · obtain ⟨other, rfl⟩ := forgets
      exact ⟨_, forget_counted other hs, forget_counted other ht⟩
    · have kept (u : Session) : (u.perform o).ledger = u.ledger :=
        perform_ledger fun other same => forgets ⟨other, same⟩
      exact ⟨d, by rwa [kept], by rwa [kept]⟩

/-- A session is led alike by a history and by one that is thinned. -/
theorem sameFor_of_thinned (h : s.ledger.Counted source 0)
    (thinned : s.Thinned source veiled past thin) :
    SameFor source veiled (s.after past) (s.after thin) := by
  induction thinned with
  | nothing => exact ⟨rfl, rfl, fun hv => absurd hv Bool.false_ne_true, fun _ => .inl rfl, 0, h, h⟩
  | packet p _ ih => exact ih.packet p
  | operation o _ read veil ih => exact ih.perform read veil
  | omitted p _ other unselected uncounted ih => exact ih.omit other unselected uncounted
  | hidden p _ other unselected overridden ih => exact ih.hide other unselected overridden

/-! ### Admission -/

/-- **Admission is exact.** After any history a packet passes if and only if the roles, as they
stand then, select it, or the packets of its source that were not selected, since the source was
last forgotten, are at the first eight of a cycle of 2048. Packets of other sources that were not
selected can be left out of the history (`Thinned`); a selected packet leaves all counters alone;
and at most 2040 packets of a source are refused in a row. -/
theorem admission_exact (channel : Announcement.Channel) (thresholds : Thresholds)
    (past : List Input) :
    let start := fresh channel thresholds
    let s := start.after past
    (∀ p, (s.accept quiet p).1 = true ↔
      s.selects p = true ∨ start.missed p.source past % 2048 < 8) ∧
    (∀ p veiled thin, start.Thinned p.source veiled past thin →
      (s.accept quiet p).1 = ((start.after thin).accept quiet p).1) ∧
    (∀ p, s.selects p = true → (s.accept quiet p).2.ledger = s.ledger) ∧
    ∀ source, start.refused source past ≤ 2040 := by
  intro start s
  refine ⟨?_, ?_, ?_, ?_⟩
  · exact fun p => accept_eq_true_iff (counted_after (counted_fresh channel thresholds _) past)
  · intro p veiled thin thinned
    exact (sameFor_of_thinned (counted_fresh channel thresholds _) thinned).decision rfl
  · intro p selected
    rw [accept_ledger, if_pos selected]
  · exact fun source => (refused_le (counted_fresh channel thresholds source) past).1

/-- The layer of order zero is the current one and a packet of it came. -/
def pendingStart : List Input :=
  [.packet (.sample 100 0), .operation (.receiveLow false), .operation (.add (.numbered 2)),
    .operation (.add (.numbered 1)), .operation (.add (.numbered 0))]

/-- Stray packets come before the layer of order one becomes the next one, and some of its own while
the layer of order two overrides the decision. -/
def shelteredSample (strays pending : List Input) : List Input :=
  pending ++ .operation (.configureOverride (some (.ofTarget (.layer ⟨2⟩)))) ::
    .operation (.configure (some (.toOrder ⟨1⟩ false))) :: strays ++ pendingStart

/-- Neither a stray packet nor, as long as there is an override, one of the next layer decides about
a packet of the current layer. -/
theorem sheltered_from_others :
    let start := fresh default (.fixed 5)
    let past := shelteredSample [.packet (.sample 900 0)] [.packet (.sample 200 0)]
    start.Thinned 100 true past (shelteredSample [] []) ∧
      ((start.after past).accept quiet (.sample 100 1)).1 =
        ((start.after (shelteredSample [] [])).accept quiet (.sample 100 1)).1 := by
  intro start past
  have begun : start.Thinned 100 false pendingStart pendingStart :=
    .packet _ (.operation _ (.operation _ (.operation _ (.operation _ .nothing
      (by decide) (by decide)) (by decide) (by decide)) (by decide) (by decide))
      (by decide) (by decide))
  have stray : start.Thinned 100 false (.packet (.sample 900 0) :: pendingStart) pendingStart :=
    begun.omitted _ (by decide) (by decide +kernel) (by decide +kernel)
  have overridden : start.Thinned 100 false
      (shelteredSample [.packet (.sample 900 0)] []) (shelteredSample [] []) :=
    .operation _ (.operation _ stray (by decide +kernel) (by decide)) (by decide) (by decide)
  have pending : start.Thinned 100 true past (shelteredSample [] []) :=
    overridden.hidden _ (by decide) (by decide +kernel) (by decide +kernel)
  obtain ⟨-, independent, -⟩ := admission_exact default (.fixed 5) past
  exact ⟨pending, independent (.sample 100 1) true _ pending⟩

/-- Eight packets of the layer of order zero pass before it is the current one. Some of the layer of
order one, the next one, come while that of order two overrides the decision; then the override is
lifted. -/
def liftedAfter (pending : List Input) : List Input :=
  .operation (.configureOverride (some (.ofTarget .clear))) :: pending ++
    .operation (.configureOverride (some (.ofTarget (.layer ⟨2⟩)))) ::
    .operation (.configure (some (.toOrder ⟨1⟩ false))) :: .operation (.receiveLow false) ::
    .replicate 8 (.packet (.sample 100 0)) ++ [.operation (.add (.numbered 2)),
    .operation (.add (.numbered 1)), .operation (.add (.numbered 0))]

/-- Stray packets come before a switch to the layer of order one is asked for, and eight of that of
order zero after it. -/
def readBefore (strays : List Input) : List Input :=
  .replicate 8 (.packet (.sample 100 0)) ++ .operation (.configure (some (.toOrder ⟨1⟩ false))) ::
    .operation (.receiveLow false) :: strays ++
    [.operation (.add (.numbered 1)), .operation (.add (.numbered 0))]

/-- **Packets of another source that are not selected may decide** about a packet of the layer that
would be the current one without them: behind an override they make the next layer the current
one, and a stray packet makes the engine read a threshold with which the switch takes place at
once. -/
theorem decided_by_others :
    (let start := fresh default (.fixed 1)
     let past := liftedAfter (.replicate 3 (.packet (.sample 200 0)))
     start.heard 200 past = [false, false, false] ∧
      ((start.after past).accept quiet (.sample 100 0)).1 = false ∧
      ((start.after (liftedAfter [])).accept quiet (.sample 100 0)).1 = true) ∧
    (let start := fresh default (.fixed 0)
     let past := readBefore [.packet (.sample 900 0)]
     start.heard 900 past = [false] ∧
      ((start.after past).accept quiet (.sample 100 0)).1 = false ∧
      ((start.after (readBefore [])).accept quiet (.sample 100 0)).1 = true) := by
  decide +kernel

end Simulcast.Session
