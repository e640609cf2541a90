import Simulcast.Proofs.Session.Grants
import Simulcast.Proofs.Session.Outcome

/-!
# The order of announcements

As long as no override is asked for, announcements keep step with the next role. Where the next role
holds a handle, the last thing that was announced is that the layer of this handle is about to be
forwarded (`Proclaimed`); so a next layer that takes over, or is given up, is announced right after
that. `announcements_in_order` says so of every run.
-/

namespace Simulcast.Session

open Switching

variable {s t : Session}

/-! ### Announcements -/

/-- What an effect announces, and about which layer. -/
def Effect.announced? : Effect → Option (Announcement.Kind × Nat)
  | .keyframe _ => none
  | .announcement kind layer => some (kind, layer)

/-- What was announced, whatever became of it, the newest first. -/
def announcements (s : Session) : List (Announcement.Kind × Nat) :=
  s.deeds.filterMap Effect.announced?

theorem aside_announcements : Aside announcements := fun _ _ _ _ _ _ => rfl

theorem announcements_of_deeds (deeds : t.deeds = s.deeds) : t.announcements = s.announcements :=
  congrArg (List.filterMap Effect.announced?) deeds

theorem announcements_commit (c : List Effect × Session) :
    (commit c).announcements =
      (c.1.filterMap Effect.announced?).reverse ++ c.2.announcements := by
  rw [announcements, deeds_commit, List.filterMap_append, List.filterMap_reverse]
  rfl

/-- Without an override a switch announces the layer, as one that is forwarded or is about to be. -/
theorem announcements_switchTo (free : s.isOverridden = false) (r : Request) (o : Layer.Order)
    (h : Handle) (layer : Nat) :
    (commit (s.switchTo r o h layer)).announcements =
      (if s.isImmediate r then .changed else .changing, layer) :: s.announcements := by
  rw [announcements_commit, aside_announcements.apart.switchTo, switchTo_fst,
    announcementUnlessOverridden, free]
  cases s.needsKeyframe r h <;> rfl

/-! ### No override -/

theorem override_abandonNext (s : Session) :
    s.abandonNext.2.roles.handle? .override = s.roles.handle? .override := by
  obtain idle | ⟨layer, e, gone⟩ := abandonNext_eq s
  · rw [idle]
  · rw [gone]
    simp

/-- Only operations on the override touch its role. -/
theorem override_of_stride {m : Move} (stride : Stride s m t)
    (other : ∀ r, m ≠ .operation (.configureOverride r)) :
    t.roles.handle? .override = s.roles.handle? .override := by
  cases stride with
  | rest roles deeds resolve => rw [roles]
  | leave leaves roles deeds resolve => rw [roles]
  | follow asked => exact override_configure _ s
  | followLow asked => rw [commit_roles, override_abandonNext, override_configure]
  | lift => exact absurd rfl (other _)
  | force found => exact absurd rfl (other _)
  | promote still =>
    obtain ⟨-, override, -⟩ := promote_keeps _ s
    rw [still.roles, commit_roles, override]

/-- Whether a move asks for an override, or for the end of one. -/
def Move.overrides : Move → Bool
  | .operation (.configureOverride r) => (r.bind (·.target)).isSome
  | _ => false

/-- A request without a target is no concern of the override. -/
theorem configureOverride_of_plain {r : Option Request}
    (plain : Move.overrides (.operation (.configureOverride r)) = false) (s : Session) :
    s.configureOverride r = s := by
  have target : r.bind (·.target) = none := by simpa [Move.overrides] using plain
  rw [configureOverride, target]

/-- A move that asks for no override does not touch its role. -/
theorem override_play (sc : Scene) {m : Move} (plain : m.overrides = false) :
    (sc.play perform m).session.roles.handle? .override =
      sc.session.roles.handle? .override := by
  by_cases request : ∃ r, m = .operation (.configureOverride r)
  · obtain ⟨r, rfl⟩ := request
    exact congrArg (·.roles.handle? .override) (configureOverride_of_plain plain sc.session)
  · exact override_of_stride (stride_play sc m) fun r same => request ⟨r, same⟩

/-- As long as none is asked for, there is no override. -/
theorem free_after (channel : Announcement.Channel) (thresholds : Thresholds) {past : List Move}
    (plain : ∀ m ∈ past, m.overrides = false) :
    ((Scene.opening channel thresholds).after perform past).session.isOverridden = false := by
  suffices none : ((Scene.opening channel thresholds).after perform
      past).session.roles.handle? .override = none by
    rw [isOverridden, holder?, Roles.holder?, none]
    rfl
  induction past with
  | nil => exact handle?_unset .override
  | cons m past ih =>
    have before := ih fun m' here => plain m' (List.mem_cons_of_mem m here)
    rw [Scene.after, override_play _ (plain m List.mem_cons_self), before]

/-! ### What is announced last -/

variable {given given' : List (Handle × Nat)}

/-- Where the next role holds a handle, it was announced last that the layer that the handle was
given out for is about to be forwarded, and the handle names no other. -/
def Proclaimed (given : List (Handle × Nat)) (s : Session) : Prop :=
  ∀ h, s.roles.handle? .next = some h →
    ∃ layer, (h, layer) ∈ given ∧ s.announcements.head? = some (.changing, layer) ∧
      ∀ n, s.lineup.resolve h = some n → n = layer

/-- A layer that is given up was announced right before as one that is about to be forwarded. -/
def Orderly (l : List (Announcement.Kind × Nat)) : Prop :=
  ∀ layer newer older, l = newer ++ (.stopped, layer) :: older →
    older.head? = some (.changing, layer)

theorem Orderly.cons {l : List (Announcement.Kind × Nat)} (orderly : Orderly l)
    {x : Announcement.Kind × Nat}
    (follows : ∀ layer, x = (.stopped, layer) → l.head? = some (.changing, layer)) :
    Orderly (x :: l) := by
  intro layer newer older split
  cases newer with
  | nil =>
    obtain ⟨here, rfl⟩ := List.cons.inj split
    exact follows layer here
  | cons y newer => exact orderly layer newer older (List.cons.inj split).2

/-- Announcements keep step with the next role. -/
structure InStep (given : List (Handle × Nat)) (s : Session) : Prop where
  /-- The next layer was announced last. -/
  proclaimed : Proclaimed given s
  /-- The layers that were given up had been announced right before. -/
  orderly : Orderly s.announcements

/-- Where nothing is announced and the next role keeps its handle, the announcements keep step. -/
theorem InStep.of_same (step : InStep given s) (more : given ⊆ given')
    (roles : t.roles.handle? .next = s.roles.handle? .next) (deeds : t.deeds = s.deeds)
    (resolve : ∀ h, s.roles.handle? .next = some h →
      t.lineup.resolve h = s.lineup.resolve h ∨ t.lineup.resolve h = none) :
    InStep given' t := by
  have announced := announcements_of_deeds deeds
  refine ⟨fun h next => ?_, announced ▸ step.orderly⟩
  rw [roles] at next
  obtain ⟨layer, here, last, names⟩ := step.proclaimed h next
  refine ⟨layer, more here, announced ▸ last, fun n now => ?_⟩
  obtain same | gone := resolve h next
  · exact names n (same ▸ now)
  · rw [gone] at now
    cases now

/-- Without a next handle it is enough that what was announced is in order. -/
theorem InStep.of_no_next (none : t.roles.handle? .next = none)
    (orderly : Orderly t.announcements) : InStep given t := by
  refine ⟨fun h next => ?_, orderly⟩
  rw [none] at next
  cases next

/-! ### Requests -/

theorem inStep_switchTo (step : InStep given s) (free : s.isOverridden = false)
    (known : ∀ h layer, s.lineup.resolve h = some layer → (h, layer) ∈ given)
    (r : Request) (o : Layer.Order) {h : Handle} {layer : Nat}
    (there : s.lineup.resolve h = some layer) :
    InStep given (commit (s.switchTo r o h layer)) := by
  have announced := announcements_switchTo free r o h layer
  have orderly : Orderly (commit (s.switchTo r o h layer)).announcements := by
    rw [announced]
    refine step.orderly.cons fun n stopped => ?_
    split at stopped <;> cases stopped
  cases immediate : s.isImmediate r with
  | true =>
    refine .of_no_next ?_ orderly
    rw [commit_roles, switchTo_snd, immediate]
    exact handle?_makeCurrent .next h false _
  | false =>
    refine ⟨fun h' next => ?_, orderly⟩
    rw [commit_roles, switchTo_snd, immediate] at next
    obtain rfl : h = h' := by simpa using next
    refine ⟨layer, known h layer there, ?_, fun n names => ?_⟩
    · rw [announced, immediate]
      rfl
    · rw [commit_lineup, aside_lineup.apart.switchTo, there] at names
      exact (Option.some_inj.1 names).symm

theorem inStep_configure (step : InStep given s) (free : s.isOverridden = false)
    (known : ∀ h layer, s.lineup.resolve h = some layer → (h, layer) ∈ given) (r : Request) :
    InStep given (s.configure (some r)) := by
  have threshold : InStep given (s.setThreshold r) := ⟨step.proclaimed, step.orderly⟩
  have followed := followed_transition r s
  rw [configure]
  generalize s.transition r = c at followed ⊢
  cases followed with
  | idle => exact threshold
  | refused e => exact ⟨step.proclaimed, step.orderly⟩
  | stays order found held => exact .of_no_next (handle?_dropNext .next _) step.orderly
  | switches order found other =>
    exact inStep_switchTo threshold free known r _ (resolve_of_lookup found)

/-- A next layer that is given up is the one that was announced last. -/
theorem inStep_abandonNext (step : InStep given s) : InStep given (commit s.abandonNext) := by
  unfold abandonNext
  cases next : s.holder? .next with
  | none => exact step
  | some layer =>
    simp only
    split
    · exact step
    · obtain ⟨h, held, there⟩ := Option.bind_eq_some_iff.1 next
      obtain ⟨layer', -, last, names⟩ := step.proclaimed h held
      obtain rfl := names layer there
      refine .of_no_next ?_ ?_
      · rw [commit_roles]
        exact handle?_dropNext .next _
      · rw [announcements_commit]
        refine step.orderly.cons fun n stopped => ?_
        cases stopped
        exact last

/-- A next layer that takes over is the one that was announced last. -/
theorem announcements_promote (proclaimed : Proclaimed given s) (free : s.isOverridden = false)
    (h : Handle) :
    (commit (s.promote h)).announcements = s.announcements ∧
        (commit (s.promote h)).tally.promotions = s.tally.promotions ∨
      ∃ layer older, s.announcements = (.changing, layer) :: older ∧
        (commit (s.promote h)).announcements = (.changed, layer) :: s.announcements ∧
        (commit (s.promote h)).tally.promotions = s.tally.promotions + 1 := by
  rw [commit_promotions]
  have heeded := heeded_promote h s
  generalize s.promote h = c at heeded ⊢
  cases heeded with
  | vain => exact .inl ⟨rfl, rfl⟩
  | counted => exact .inl ⟨rfl, rfl⟩
  | @takesOver layer pending there e =>
    obtain ⟨layer', -, last, names⟩ := proclaimed h pending
    obtain rfl := names layer there
    obtain ⟨older, announced⟩ := List.head?_eq_some_iff.1 last
    have quiet : ((s.countNext.note e).makeCurrent h true).announcements = s.announcements := by
      rw [aside_announcements.apart.makeCurrent, aside_announcements.apart.note,
        aside_announcements.apart.countNext]
    have still : s.countNext.isOverridden = false := free
    refine .inr ⟨layer, older, announced, ?_, rfl⟩
    rw [announcements_commit, announcementUnlessOverridden, still, quiet]
    rfl

theorem inStep_promote (step : InStep given s) (free : s.isOverridden = false) (h : Handle) :
    InStep given (commit (s.promote h)) := by
  have announced := announcements_promote step.proclaimed free h
  have heeded := heeded_promote h s
  generalize s.promote h = c at heeded announced ⊢
  cases heeded with
  | vain => exact step
  | counted => exact ⟨step.proclaimed, step.orderly⟩
  | @takesOver layer pending there e =>
    refine .of_no_next ?_ ?_
    · rw [commit_roles]
      exact handle?_makeCurrent .next h true _
    · obtain ⟨same, -⟩ | ⟨n, older, -, more, -⟩ := announced
      · exact same ▸ step.orderly
      · rw [more]
        exact step.orderly.cons fun _ stopped => nomatch stopped

/-! ### Every move -/

/-- A stride that is no request for an override keeps the announcements in step. -/
theorem inStep_of_stride {m : Move} (step : InStep given s) (free : s.isOverridden = false)
    (rooted : Rooted s) (more : given ⊆ given')
    (known : ∀ h layer, s.lineup.resolve h = some layer → (h, layer) ∈ given)
    (stride : Stride s m t) (other : ∀ r, m ≠ .operation (.configureOverride r)) :
    InStep given' t := by
  have grown {u : Session} (step : InStep given u) : InStep given' u :=
    step.of_same more rfl rfl fun _ _ => .inl rfl
  cases stride with
  | rest roles deeds resolve =>
    exact step.of_same more (by rw [roles]) deeds fun h held =>
      .inl (resolve h (rooted .next h held))
  | leave leaves roles deeds resolve =>
    exact step.of_same more (by rw [roles]) deeds fun h _ => resolve h
  | follow asked => exact grown (inStep_configure step free known _)
  | followLow asked => exact grown (inStep_abandonNext (inStep_configure step free known _))
  | lift => exact absurd rfl (other _)
  | force found => exact absurd rfl (other _)
  | promote still =>
    exact (inStep_promote step free _).of_same more (by rw [still.roles]) still.deeds fun h _ =>
      .inl (by rw [still.lineup])

/-- **Announcements keep step with the next role** after any moves that ask for no override. -/
theorem inStep_after (channel : Announcement.Channel) (thresholds : Thresholds) {past : List Move}
    (plain : ∀ m ∈ past, m.overrides = false)
    (room : ∀ i, (Scene.opening channel thresholds).vacated i past < greatestGeneration) :
    InStep ((Scene.opening channel thresholds).granted past)
      ((Scene.opening channel thresholds).after perform past).session := by
  induction past with
  | nil =>
    refine .of_no_next (handle?_unset .next) fun layer newer older split => ?_
    cases newer <;> cases split
  | cons m past ih =>
    have before : ∀ m' ∈ past, m'.overrides = false :=
      fun m' here => plain m' (List.mem_cons_of_mem m here)
    have step := ih before (Scene.room_before room)
    have more := (Scene.opening channel thresholds).granted_subset m past
    by_cases request : ∃ r, m = .operation (.configureOverride r)
    · -- without a target the request does nothing
      obtain ⟨r, rfl⟩ := request
      have same := configureOverride_of_plain (plain _ List.mem_cons_self)
        ((Scene.opening channel thresholds).after perform past).session
      have stays : ((Scene.opening channel thresholds).after perform
          (.operation (.configureOverride r) :: past)).session =
            ((Scene.opening channel thresholds).after perform past).session := same
      rw [stays]
      exact step.of_same more rfl rfl fun _ _ => .inl rfl
    · exact inStep_of_stride step (free_after channel thresholds before)
        (rooted_after channel thresholds (Scene.room_before room)) more
        (fun h layer => Scene.mem_granted_of_resolve rfl) (stride_play _ m)
        fun r same => request ⟨r, same⟩

/-! ### Decisions -/

theorem steady_announcements : Steady announcements :=
  ⟨fun s => announcements_of_deeds (deeds_readThreshold s),
    fun p selected s => announcements_of_deeds (deeds_conclude p selected s)⟩

theorem steady_promotions : Steady (·.tally.promotions) :=
  ⟨readThreshold_eq_of (·.tally.promotions) fun _ _ _ _ => rfl,
    fun p selected s => congrArg Course.promotions (course_conclude p selected s)⟩

/-- What is announced in an answer. -/
theorem announcements_answer (proclaimed : Proclaimed given s) (free : s.isOverridden = false)
    (q : Inquiry) :
    (s.answer q).2.announcements = s.announcements ∧
        (s.answer q).2.tally.promotions = s.tally.promotions ∨
      ∃ layer older, s.announcements = (.changing, layer) :: older ∧
        (s.answer q).2.announcements = (.changed, layer) :: s.announcements ∧
        (s.answer q).2.tally.promotions = s.tally.promotions + 1 := by
  rw [steady_announcements.answer_eq_credited, steady_promotions.answer_eq_credited]
  rcases credited_eq q s with same | ⟨h, counted⟩
  · rw [same]
    exact .inl ⟨rfl, rfl⟩
  · rw [counted]
    exact announcements_promote proclaimed free h

/-- What is announced in a move of a decision. -/
theorem announcements_play {sc : Scene} (proclaimed : Proclaimed given sc.session)
    (free : sc.session.isOverridden = false) {m : Move} (decides : ∀ o, m ≠ .operation o) :
    (sc.play perform m).session.announcements = sc.session.announcements ∧
        (sc.play perform m).session.tally.promotions = sc.session.tally.promotions ∨
      ∃ layer older, sc.session.announcements = (.changing, layer) :: older ∧
        (sc.play perform m).session.announcements =
          (.changed, layer) :: sc.session.announcements ∧
        (sc.play perform m).session.tally.promotions = sc.session.tally.promotions + 1 := by
  have advance := sc.advance_play m
  generalize (sc.play perform m).session = t at advance ⊢
  cases advance with
  | performs o => exact absurd rfl (decides o)
  | begins p => exact .inl ⟨steady_announcements.begin p _, steady_promotions.begin p _⟩
  | idles unasked => exact .inl ⟨rfl, rfl⟩
  | answers asked => exact announcements_answer proclaimed free _

/-- **Announcements come in order** as long as no override is asked for. Take any moves of a scene,
the newest first, in which no slot is vacated so often that its generations start over. If the next
role holds a handle, then the last thing that was announced, whatever became of it, is that the
layer which the handle was given out for is about to be forwarded; there is one such layer, as
long as fewer layers are there at once than a handle has indices. A part of a decision announces
nothing, or that a layer took over, right after the same layer was announced as the one that is
about to be forwarded. And a layer that is given up was announced as that one right before. -/
theorem announcements_in_order (channel : Announcement.Channel) (thresholds : Thresholds)
    (past : List Move) (plain : ∀ m ∈ past, m.overrides = false)
    (room : ∀ i, (Scene.opening channel thresholds).vacated i past < 2 ^ 32 - 1) :
    let opening := Scene.opening channel thresholds
    let s := (opening.after perform past).session
    (∀ h, s.roles.handle? .next = some h →
        ∃ layer, (h, layer) ∈ opening.granted past ∧
          s.announcements.head? = some (.changing, layer) ∧
          (Roster.peak (opening.changes past) < 2 ^ 32 →
            ∀ layer', (h, layer') ∈ opening.granted past → layer' = layer)) ∧
      (∀ m, (∀ o, m ≠ .operation o) →
        let t := (opening.after perform (m :: past)).session
        t.announcements = s.announcements ∧ t.tally.promotions = s.tally.promotions ∨
          ∃ layer older, s.announcements = (.changing, layer) :: older ∧
            t.announcements = (.changed, layer) :: s.announcements ∧
            t.tally.promotions = s.tally.promotions + 1) ∧
      ∀ layer newer older, s.announcements = newer ++ (.stopped, layer) :: older →
        older.head? = some (.changing, layer) := by
  intro opening s
  have step : InStep (opening.granted past) s := inStep_after channel thresholds plain room
  have free : s.isOverridden = false := free_after channel thresholds plain
  refine ⟨fun h next => ?_, fun m decides => ?_, step.orderly⟩
  · obtain ⟨layer, given, last, -⟩ := step.proclaimed h next
    refine ⟨layer, given, last, fun small layer' given' => ?_⟩
    exact Scene.granted_unique rfl room small given' given
  · exact announcements_play step.proclaimed free decides

/-- The layer of order two becomes the next one beside the layer of order one, and its packets stop;
then the engine is asked for the lowest layer, and there is none of order zero. -/
def stoppedSample : List Move :=
  [.operation (.receiveLow false),
    .operation (.alter 1 { Layer.numbered 2 with streaming := false }),
    .operation (.configure (some (.toOrder ⟨2⟩ false))),
    .operation (.configure (some (.toOrder ⟨1⟩ false))), .operation (.add (.numbered 2)),
    .operation (.add (.numbered 1))]

/-- The layer of order two is given up, right after it was announced as about to be forwarded. -/
theorem stopped_after_changing :
    let s := ((Scene.opening default (.fixed 5)).after perform stoppedSample).session
    (∀ m ∈ stoppedSample, m.overrides = false) ∧
      (∀ i, (Scene.opening default (.fixed 5)).vacated i stoppedSample < 2 ^ 32 - 1) ∧
      ∃ older, s.announcements = (.stopped, 1) :: older ∧
        older.head? = some (.changing, 1) := by
  intro s
  have plain : ∀ m ∈ stoppedSample, m.overrides = false := by
    simp [stoppedSample, Move.overrides]
  have room := (Scene.opening default (.fixed 5)).room_of_length
    (show stoppedSample.length < greatestGeneration by decide)
  obtain ⟨-, -, stopped⟩ := announcements_in_order default (.fixed 5) stoppedSample plain room
  have announced : s.announcements = (.stopped, 1) :: s.announcements.tail := by decide +kernel
  exact ⟨plain, room, s.announcements.tail, announced,
    stopped 1 [] s.announcements.tail announced⟩

end Simulcast.Session
