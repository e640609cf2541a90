import Simulcast.Proofs.Session.Bridging
import Simulcast.Proofs.Session.Revolution

/-!
# What was read may be stale

Before a packet counts for the next layer, the handle of the next role is read and the layer is
asked. Whatever happens while layers are asked, the packet counts at most once, and only for the
handle that was read: `stale_read_counts_for_no_other` says that a decision does what the layers do
that are asked, one after the other, and counts the packet before the layer that overrides the
decision is asked, if all that `Attested` lists holds; what was read in vain changes nothing. As
long as generations do not start over, the handle that was read names the layer that was asked or
none, so the packet counts for no other layer either.

The engine compares handles, and not how the next role came to hold one: a layer that is given up
and made the next one again while it is asked has the packet counted (`counted_for_next_again`).
-/

namespace Simulcast.Session

open Switching

variable {s t : Session} (during : During) (p : Packet)

/-! ### Asking layers that act -/

/-- The session once the layer that has a role was asked, if there is one. -/
def consult (role : Role) (s : Session) : Session :=
  match s.holder? role with
  | some layer => during role layer s
  | none => s

/-- Whether there is a layer that has the role and answers, once it has acted, that it owns the
packet. -/
def assents (role : Role) (s : Session) : Bool :=
  (s.holder? role).any fun layer => ((during role layer s).lineup.layer layer).owns p

/-- The session once the current layer was asked, and then the next one unless the current one owns
the packet. -/
def consulted (s : Session) : Session :=
  if s.assents during p .current then s.consult during .current
  else (s.consult during .current).consult during .next

/-- The packet counts for a handle. -/
structure Attested (s : Session) (h : Handle) : Prop where
  /-- The current layer does not own the packet. -/
  other : s.assents during p .current = false
  /-- The next role held the handle once the current layer was asked. -/
  read : (s.consult during .current).roles.handle? .next = some h
  /-- The layer that the handle named then owns the packet. -/
  owned : (s.consult during .current).assents during p .next = true
  /-- The next role still holds the handle once that layer was asked, -/
  held : (s.consulted during p).roles.handle? .next = some h
  /-- and the handle still names a layer. -/
  there : ((s.consulted during p).lineup.resolve h).isSome = true

theorem askCurrent_eq (s : Session) :
    s.askCurrent during p = (s.assents during p .current, s.consult during .current) := by
  rw [askCurrent, assents, consult]
  cases s.holder? .current with
  | none => rfl
  | some layer => rfl

theorem askOverride_eq (selected : Bool) (s : Session) :
    (s.askOverride during p selected).2 = s.consult during .override := by
  rw [askOverride, consult]
  cases s.holder? .override with
  | none => rfl
  | some layer => rfl

/-- Where no layer is the next one, none is asked. -/
theorem askNext_of_none (held : s.roles.handle? .next = none) :
    (s.askNext during p).2 = s.consult during .next := by
  rw [askNext, held, consult, holder?, Roles.holder?, held]
  rfl

/-- Where one is, the packet is counted for the handle that was read, if the layer owns it. -/
theorem askNext_of_some {h : Handle} (held : s.roles.handle? .next = some h) :
    (s.askNext during p).2 =
      if s.assents during p .next then commit ((s.consult during .next).promote h)
      else s.consult during .next := by
  rw [askNext, held, assents, consult, holder?, Roles.holder?, held, Option.bind_some]
  cases there : s.lineup.resolve h with
  | none => simp [there]
  | some layer =>
    simp only [there, ask]
    rfl

/-! ### Counting at most once -/

/-- A packet is enough for the next layer to take over if the count exceeds the threshold with
it. -/
theorem exceeds_countNext_iff (layer : Nat) (s : Session) :
    exceeds s.countNext.seenNext s.minNextSeen (s.lineup.order layer) = true ↔
      s.DueAt layer 1 := by
  rw [exceeds_iff, DueAt, ← toNat_countUp]
  rfl

/-- When the next layer takes over, its handle passes from the next role to the current one, and the
count starts over. -/
theorem promote_of_due {h : Handle} {layer : Nat} (held : s.roles.handle? .next = some h)
    (there : s.lineup.resolve h = some layer) (due : s.DueAt layer 1) :
    (commit (s.promote h)).roles = (s.roles.set .current (some h)).set .next none ∧
      (commit (s.promote h)).seenNext = 0 ∧
      (commit (s.promote h)).minNextSeen = s.minNextSeen := by
  rw [commit_roles, commit_seenNext, commit_minNextSeen, promote_of_pending held there,
    if_pos ((exceeds_countNext_iff layer s).2 due)]
  simp only [makeCurrent, dropNext, assign, note, countNext, and_self]

/-- What counting the packet comes to, after the current and the next layer were asked. -/
inductive Credited (s : Session) : Session → Prop
  /-- The packet counts for no handle. -/
  | stale (none : ∀ h, ¬ s.Attested during p h) : Credited s (s.consulted during p)
  /-- It counts for one, and that is not enough. -/
  | counted {h : Handle} {layer : Nat} (attested : s.Attested during p h)
    (there : (s.consulted during p).lineup.resolve h = some layer)
    (early : ¬ (s.consulted during p).DueAt layer 1) :
    Credited s (s.consulted during p).countNext
  /-- It counts for one, which the current role holds from now on. -/
  | promoted {h : Handle} {layer : Nat} (attested : s.Attested during p h)
    (there : (s.consulted during p).lineup.resolve h = some layer)
    (due : (s.consulted during p).DueAt layer 1) :
    Credited s (commit ((s.consulted during p).promote h))

/-- Asking the next layer counts the packet so. -/
theorem credited_askNext (other : s.assents during p .current = false) :
    Credited during p s ((s.consult during .current).askNext during p).2 := by
  have consulted : s.consulted during p = (s.consult during .current).consult during .next := by
    rw [Session.consulted, other]
    rfl
  cases read : (s.consult during .current).roles.handle? .next with
  | none =>
    rw [askNext_of_none during p read, ← consulted]
    refine .stale fun h attested => ?_
    rw [attested.read] at read
    cases read
  | some h =>
    rw [askNext_of_some during p read, ← consulted]
    cases owned : (s.consult during .current).assents during p .next with
    | false =>
      refine .stale fun h attested => ?_
      rw [attested.owned] at owned
      cases owned
    | true =>
      rw [if_pos rfl]
      by_cases held : (s.consulted during p).roles.handle? .next = some h
      · cases there : (s.consulted during p).lineup.resolve h with
        | none =>
          rw [promote_of_gone there]
          refine .stale fun h' attested => ?_
          obtain rfl : h = h' := Option.some_inj.1 (read.symm.trans attested.read)
          have still := attested.there
          rw [there] at still
          cases still
        | some layer =>
          have attested : s.Attested during p h :=
            ⟨other, read, owned, held, by rw [there]; rfl⟩
          by_cases due : (s.consulted during p).DueAt layer 1
          · exact .promoted attested there due
          · rw [promote_of_pending held there,
              if_neg fun e => due ((exceeds_countNext_iff _ _).1 e)]
            exact .counted attested there due
      · rw [promote_of_ne held]
        refine .stale fun h' attested => ?_
        obtain rfl : h = h' := Option.some_inj.1 (read.symm.trans attested.read)
        exact held attested.held

/-- **What the layers do that are asked** is done one after the other, and the packet is counted
before the layer that overrides the decision is asked. -/
theorem credited_select (s : Session) :
    ∃ c, Credited during p s c ∧ (s.select during p).2 = c.consult during .override := by
  rw [select, askCurrent_eq]
  cases other : s.assents during p .current with
  | true =>
    have consulted : s.consulted during p = s.consult during .current := by
      rw [Session.consulted, other]
      rfl
    refine ⟨s.consulted during p, .stale fun h attested => ?_, ?_⟩
    · rw [attested.other] at other
      cases other
    · simp only [if_true]
      rw [askOverride_eq, consulted]
  | false =>
    refine ⟨_, credited_askNext during p other, ?_⟩
    simp only [Bool.false_eq_true, if_false]
    rw [askOverride_eq]

variable {during p} in
/-- A packet that counts for a handle is counted, and that is all if it is not enough and the layer
that overrides the decision does nothing. -/
theorem course_accept_of_attested {h : Handle} {layer : Nat} (initialized : s.initialized = true)
    (attested : s.Attested during p h)
    (there : (s.consulted during p).lineup.resolve h = some layer)
    (early : ¬ (s.consulted during p).DueAt layer 1)
    (still : ∀ s : Session, s.consult during .override = s) :
    (s.accept during p).2.course = (s.consulted during p).countNext.course := by
  obtain ⟨c, credited, selected⟩ := credited_select during p s
  have counted : c = (s.consulted during p).countNext := by
    cases credited with
    | stale none => exact absurd attested (none h)
    | counted => rfl
    | promoted attested' there' due =>
      obtain rfl := Option.some_inj.1 (attested'.read.symm.trans attested.read)
      obtain rfl := Option.some_inj.1 (there'.symm.trans there)
      exact absurd due early
  rw [still, counted] at selected
  rw [accept, readThreshold_of_initialized initialized, ← selected]
  exact course_conclude p _ _

/-- A decision is counted once, as one for the packet or against it, and nothing else is. -/
theorem packet_eq (accepted trickled : Bool) (t : Tally) :
    t.packet accepted trickled = { t with
      accepted := t.accepted + if accepted then 1 else 0
      dropped := t.dropped + if accepted then 0 else 1
      trickled := t.trickled + if trickled then 1 else 0 } := by
  cases accepted <;> cases trickled <;> simp [Tally.packet]

/-! ### What a handle names -/

/-- If a scene has room for more moves, it had room for those before them. -/
theorem Scene.room_of_append {sc : Scene} {past later : List Move}
    (room : ∀ i, sc.vacated i (later ++ past) < greatestGeneration) (i : Nat) :
    sc.vacated i past < greatestGeneration := by
  induction later with
  | nil => exact room i
  | cons m later ih => exact ih (Scene.room_before room)

/-- What was issued stays issued in a move, as long as generations do not start over. -/
theorem issued_play (channel : Announcement.Channel) (thresholds : Thresholds) {past : List Move}
    {m : Move}
    (room : ∀ i, (Scene.opening channel thresholds).vacated i (m :: past) < greatestGeneration)
    {h : Handle} :
    let opening := Scene.opening channel thresholds
    (opening.after perform past).session.lineup.roster.Issued h →
      (opening.after perform (m :: past)).session.lineup.roster.Issued h := by
  intro opening issued
  exact (Scene.moved_play (opening.after perform past) m).issued
    (fun i => Scene.age_lt_of_leaves (fun _ => rfl) room) issued

/-- A handle that was issued names, after any more moves, the layer that it named or none. -/
theorem resolve_append (channel : Announcement.Channel) (thresholds : Thresholds)
    {past later : List Move}
    (room : ∀ i, (Scene.opening channel thresholds).vacated i (later ++ past) < greatestGeneration)
    {h : Handle} :
    let opening := Scene.opening channel thresholds
    (opening.after perform past).session.lineup.roster.Issued h →
      (opening.after perform (later ++ past)).session.lineup.roster.Issued h ∧
        ((opening.after perform (later ++ past)).session.lineup.resolve h =
            (opening.after perform past).session.lineup.resolve h ∨
          (opening.after perform (later ++ past)).session.lineup.resolve h = none) := by
  intro opening issued
  induction later with
  | nil => exact ⟨issued, .inl rfl⟩
  | cons m later ih =>
    obtain ⟨still, named⟩ := ih (Scene.room_before room)
    refine ⟨issued_play channel thresholds room still, ?_⟩
    obtain same | gone := (stride_play (opening.after perform (later ++ past)) m).resolve still
    · rw [List.cons_append, Scene.after, same]
      exact named
    · exact .inr gone

/-! ### Stale reads -/

/-- **A packet counts for no other layer than the one that was asked.** Let layers do anything while
they are asked, also have the engine decide about other packets. Then the roles, the count and the
threshold are as the layer that overrides the decision leaves them, which is asked after the current
and the next layer have done what they do and the packet was counted. The packet counts for no
handle, and nothing is done about it, unless it counts for the handle that the next role held before
the next layer was asked: the current layer does not own the packet, the layer that the handle named
does, and the next role holds the handle once that layer was asked, which still names a layer. Then
the count goes up by one or stays at the greatest one, or the handle passes to the current role. In
the statistics the decision is one more packet that passed or one more that did not, among the
former one more that trickled if no layer selected it, and nothing else. In a scene, the handle that
was read names, as long as no slot is vacated so often that its generations start over, the layer
that it named or none, whatever moves are made in between. -/
theorem stale_read_counts_for_no_other :
    (∀ (s : Session) (during : During) (p : Packet), s.initialized = true →
      let b := s.consulted during p
      ∃ c,
        ((∀ h, ¬ s.Attested during p h) ∧ c = b ∨
          ∃ h layer, s.Attested during p h ∧ b.lineup.resolve h = some layer ∧
            (¬ b.DueAt layer 1 ∧ c = { b with seenNext := c.seenNext } ∧
                c.seenNext.toNat = min (b.seenNext.toNat + 1) greatestCount ∨
              b.DueAt layer 1 ∧ c = commit (b.promote h) ∧
                c.roles = (b.roles.set .current (some h)).set .next none ∧
                c.seenNext = 0 ∧ c.minNextSeen = b.minNextSeen)) ∧
        let d := c.consult during .override
        let out := s.accept during p
        out.2.roles = d.roles ∧ out.2.seenNext = d.seenNext ∧ out.2.minNextSeen = d.minNextSeen ∧
          out.2.tally = { d.tally with
            accepted := d.tally.accepted + if out.1 then 1 else 0
            dropped := d.tally.dropped + if out.1 then 0 else 1
            trickled := d.tally.trickled + if out.1 && !(s.select during p).1 then 1 else 0 }) ∧
    ∀ (channel : Announcement.Channel) (thresholds : Thresholds) (past later : List Move),
      let opening := Scene.opening channel thresholds
      (∀ i, opening.vacated i (later ++ past) < 2 ^ 32 - 1) →
        ∀ h, (opening.after perform past).session.roles.handle? .next = some h →
          (opening.after perform (later ++ past)).session.lineup.resolve h =
              (opening.after perform past).session.lineup.resolve h ∨
            (opening.after perform (later ++ past)).session.lineup.resolve h = none := by
  constructor
  · intro s during p initialized b
    obtain ⟨c, credited, selected⟩ := credited_select during p s
    refine ⟨c, ?_, ?_⟩
    · cases credited with
      | stale none => exact .inl ⟨none, rfl⟩
      | @counted h layer attested there early =>
        have one_more := toNat_countUp b.seenNext
        exact .inr ⟨h, layer, attested, there, .inl ⟨early, rfl, one_more⟩⟩
      | @promoted h layer attested there due =>
        have passed := promote_of_due attested.held there due
        exact .inr ⟨h, layer, attested, there, .inr ⟨due, rfl, passed⟩⟩
    · intro d out
      have decided : out = d.conclude p (s.select during p).1 := by
        rw [show out = s.accept during p from rfl, accept,
          readThreshold_of_initialized initialized]
        exact congrArg (Session.conclude p (s.select during p).1) selected
      rw [decided]
      exact ⟨conclude_roles p _ d, (Blind.conclude p _).seenNext d,
        minNextSeen_of_course (course_conclude p _ d),
        (tally_conclude_eq p _ d).trans (packet_eq _ _ _)⟩
  · intro channel thresholds past later opening room h held
    have issued := rooted_after channel thresholds (Scene.room_of_append room) .next h held
    exact (resolve_append channel thresholds room issued).2

/-- The layer of order zero is the current one and the layer of order one the next one; there is
also one of order two. -/
def staleStart : List Move :=
  [.operation (.configure (some (.toOrder ⟨1⟩ false))),
    .operation (.configure (some (.toOrder ⟨0⟩ false))), .operation .readThreshold,
    .operation (.add (.numbered 2)), .operation (.add (.numbered 1)),
    .operation (.add (.numbered 0))]

/-- When the next layer is asked, the engine is asked to switch to the layer of order two. -/
def replacing : During := fun role _ s =>
  match role with
  | .next => s.configure (some (.toOrder ⟨2⟩ false))
  | _ => s

/-- A packet of the layer of order one does not count for the layer of order two that becomes the
next one meanwhile; nor would it for one that takes its slot. -/
theorem stale_read_of_replaced :
    let s := ((Scene.opening default (.fixed 5)).after perform staleStart).session
    let reused : List Move := [.operation (.add (.numbered 3)), .operation (.remove ⟨1, .first⟩)]
    s.initialized = true ∧
      (s.accept replacing (.sample 200 0)).2.roles.handle? .next = some ⟨2, .first⟩ ∧
      (s.accept replacing (.sample 200 0)).2.seenNext = 0 ∧
      (s.accept replacing (.sample 200 0)).2.tally.accepted = 1 ∧
      (∀ i, (Scene.opening default (.fixed 5)).vacated i (reused ++ staleStart) < 2 ^ 32 - 1) ∧
      s.roles.handle? .next = some ⟨1, .first⟩ ∧ s.lineup.resolve ⟨1, .first⟩ = some 1 ∧
      ((Scene.opening default (.fixed 5)).after perform
        (reused ++ staleStart)).session.lineup.resolve ⟨1, .first⟩ = none := by
  intro s reused
  obtain ⟨decided, named⟩ := stale_read_counts_for_no_other
  have initialized : s.initialized = true := by decide +kernel
  have room : ∀ i,
      (Scene.opening default (.fixed 5)).vacated i (reused ++ staleStart) < 2 ^ 32 - 1 :=
    (Scene.opening default (.fixed 5)).room_of_length (by decide)
  have held : s.roles.handle? .next = some ⟨1, .first⟩ := by decide +kernel
  have there : s.lineup.resolve ⟨1, .first⟩ = some 1 := by decide +kernel
  have vain : ∀ h, ¬ s.Attested replacing (.sample 200 0) h := by
    intro h attested
    have read : (s.consult replacing .current).roles.handle? .next = some ⟨1, .first⟩ := by
      decide +kernel
    have replaced : (s.consulted replacing (.sample 200 0)).roles.handle? .next =
        some ⟨2, .first⟩ := by decide +kernel
    have both := (attested.read.symm.trans read).symm.trans (attested.held.symm.trans replaced)
    exact absurd both (by decide)
  obtain ⟨c, credited, roles, seenNext, -, tally⟩ :=
    decided s replacing (.sample 200 0) initialized
  obtain ⟨-, rfl⟩ | ⟨h, -, attested, -⟩ := credited
  · refine ⟨initialized, ?_, ?_, ?_, room, held, there, ?_⟩
    · rw [roles]
      decide +kernel
    · rw [seenNext]
      decide +kernel
    · rw [tally]
      decide +kernel
    · have other : ¬ ((Scene.opening default (.fixed 5)).after perform
          (reused ++ staleStart)).session.lineup.resolve ⟨1, .first⟩ = some 1 := by decide +kernel
      obtain same | gone := named default (.fixed 5) staleStart reused room _ held
      · exact absurd (same.trans there) other
      · exact gone
  · exact absurd attested (vain h)

/-- When the next layer is asked, it is given up and made the next one again, and two of its packets
are decided about. -/
def reproposing : During := fun role _ s =>
  match role with
  | .next =>
    let s := (s.receiveLow false).configure (some (.toOrder ⟨1⟩ false))
    ((s.accept quiet (.sample 200 1)).2.accept quiet (.sample 200 2)).2
  | _ => s

/-- The layers are in their first generation, the first one is the current one and the second the
next one, and the threshold was read. -/
def revolvingStart : Session :=
  (bridgingStart.foldl perform (Scene.opening default (.fixed 5)).session).readThreshold

/-- Layers leave and come until the generations start over, and two others take the places of the
two. -/
def revolved (k : Nat) (s : Session) : Session :=
  (revolve k [0, 1] [.numbered 2, .numbered 3]).foldl perform s

/-- This happens when the next layer is asked. -/
def revolving (k : Nat) : During := fun role _ s =>
  match role with
  | .next => revolved k s
  | _ => s

theorem consult_revolving (k : Nat) {role : Role} (other : role ≠ .next) (s : Session) :
    s.consult (revolving k) role = s := by
  unfold consult
  cases role with
  | next => exact absurd rfl other
  | current => split <;> rfl
  | override => split <;> rfl

/-- Then the handle of the second layer, which has the next role, names the fourth one. -/
theorem revolved_facts {k : Nat} (turns : k + 1 = greatestGeneration) {t : Session}
    (led : revolved k revolvingStart = t) :
    t.roles.handle? .next = some ⟨1, .first⟩ ∧ t.lineup.resolve ⟨1, .first⟩ = some 3 ∧
      (t.lineup.layer 1).owns (.sample 200 0) = true ∧
      (t.lineup.layer 3).owns (.sample 200 0) = false ∧ t.seenNext = 0 ∧ ¬ t.DueAt 3 1 := by
  have full : Full .first [0, 1] revolvingStart := ⟨by decide +kernel, by decide +kernel⟩
  obtain ⟨new, layers, undisturbed⟩ := revolution turns full [.numbered 2, .numbered 3] rfl
  rw [revolved] at led
  rw [led] at new layers undisturbed
  refine ⟨?_, new.resolve 1, ?_, ?_, ?_, ?_⟩
  · rw [undisturbed.roles]
    decide +kernel
  · rw [Lineup.layer, layers]
    decide +kernel
  · rw [Lineup.layer, layers]
    decide +kernel
  · rw [undisturbed.seenNext]
    decide +kernel
  · rw [DueAt, Lineup.order, Lineup.layer, layers, undisturbed.seenNext, undisturbed.minNextSeen]
    decide +kernel

/-- A packet of the second layer counts, if that happens when the layer is asked. -/
theorem accept_revolving {k : Nat} (turns : k + 1 = greatestGeneration) :
    let out := revolvingStart.accept (revolving k) (.sample 200 0)
    out.2.holder? .next = some 3 ∧ (out.2.lineup.layer 3).owns (.sample 200 0) = false ∧
      out.2.seenNext = 1 := by
  intro out
  have unmoved := consult_revolving k (by decide : Role.current ≠ .next) revolvingStart
  have current : revolvingStart.assents (revolving k) (.sample 200 0) .current = false := by
    have claims : revolvingStart.assents (revolving k) (.sample 200 0) .current =
        revolvingStart.claims .current (.sample 200 0) := rfl
    rw [claims]
    decide +kernel
  have holder : revolvingStart.holder? .next = some 1 := by decide +kernel
  generalize led : revolved k revolvingStart = t
  obtain ⟨held, named, owned, disowned, seen, early⟩ := revolved_facts turns led
  have asked : revolvingStart.consult (revolving k) .next = t := by
    rw [consult, holder]
    exact led
  have next : revolvingStart.assents (revolving k) (.sample 200 0) .next = true := by
    rw [assents, holder]
    exact (congrArg (fun t : Session => (t.lineup.layer 1).owns _) led).trans owned
  have consulted : revolvingStart.consulted (revolving k) (.sample 200 0) = t := by
    rw [Session.consulted, current, if_neg Bool.false_ne_true, unmoved, asked]
  have attested : revolvingStart.Attested (revolving k) (.sample 200 0) ⟨1, .first⟩ := by
    refine ⟨current, ?_, unmoved.symm ▸ next, consulted.symm ▸ held, ?_⟩
    · rw [unmoved]
      decide +kernel
    · rw [consulted, named]
      rfl
  have course : out.2.course = t.countNext.course := by
    rw [← consulted] at named early ⊢
    exact course_accept_of_attested (by decide +kernel) attested named early
      (consult_revolving k (by decide))
  have lineup : out.2.lineup = t.countNext.lineup := lineup_of_course course
  refine ⟨?_, lineup ▸ disowned, ?_⟩
  · rw [(holder?_of_course course).2, holder?, Roles.holder?]
    exact (congrArg (·.bind t.lineup.resolve) held).trans named
  · rw [seenNext_of_course course]
    exact congrArg countUp seen

/-- **A packet may make a layer the current one that was given up while it was asked**, if it is the
next one again, and may count for another layer that took its handle because generations started
over. -/
theorem counted_for_next_again :
    (let s := ((Scene.opening default (.fixed 1)).after perform staleStart).session
     let b := s.consulted reproposing (.sample 200 0)
     let out := s.accept reproposing (.sample 200 0)
     s.initialized = true ∧ s.roles.handle? .next = some ⟨1, .first⟩ ∧
      (s.receiveLow false).roles.handle? .next = none ∧
      b.roles.handle? .current = some ⟨0, .first⟩ ∧ b.seenNext = 2 ∧
      out.2.roles.handle? .current = some ⟨1, .first⟩) ∧
      ∃ k, let out := revolvingStart.accept (revolving k) (.sample 200 0)
        out.2.holder? .next = some 3 ∧ (out.2.lineup.layer 3).owns (.sample 200 0) = false ∧
          out.2.seenNext = 1 := by
  obtain ⟨k, turns⟩ : ∃ k, k + 1 = greatestGeneration := ⟨2 ^ 32 - 2, by decide⟩
  exact ⟨by decide +kernel, k, accept_revolving turns⟩

end Simulcast.Session
