import Simulcast.Proofs.Session.Deeds

/-!
# What the receiver was told last

The receiver gets the layer that overrides the decision, or else the current one. While there is an
override the current layer changes without a word, and when the override is lifted the receiver is
told which layer it gets again. `last_changed_is_effective` says that this is enough: after any
moves of a scene, the last announcement of a change is about the layer that the receiver gets. It
would not be if a layer left while it overrides the decision, for nobody is told then.
-/

namespace Simulcast.Session

open Switching

variable {s t : Session}

/-! ### The layer that the receiver gets -/

/-- The layer that the receiver gets: the one that overrides the decision, or else the current
one. -/
def effective? (s : Session) : Option Nat := (s.holder? .override).or (s.holder? .current)

/-- The layer that an effect announces as the one that is forwarded from now on. -/
def Effect.changed? : Effect → Option Nat
  | .announcement .changed layer => some layer
  | _ => none

/-- The layer that was announced last as the one that is forwarded from then on. -/
def lastChanged? (s : Session) : Option Nat := s.deeds.findSome? Effect.changed?

/-- The receiver was told last about the layer that it gets. -/
def Told (s : Session) : Prop :=
  ∀ layer, s.effective? = some layer → s.lastChanged? = some layer

theorem lastChanged?_commit (c : List Effect × Session) :
    (commit c).lastChanged? = (c.1.reverse.findSome? Effect.changed?).or c.2.lastChanged? := by
  rw [lastChanged?, deeds_commit, List.findSome?_append]
  rfl

theorem aside_lastChanged : Aside lastChanged? := fun _ _ _ _ _ _ => rfl

/-- A session in which the receiver gets nothing new and is told nothing. -/
theorem Told.of_same (told : Told s)
    (effective : ∀ layer, t.effective? = some layer → s.effective? = some layer)
    (last : t.lastChanged? = s.lastChanged?) : Told t := by
  intro layer gets
  rw [last]
  exact told layer (effective layer gets)

/-! ### Switching -/

/-- A layer that becomes the current one is announced, unless there is an override, in which case
the receiver gets what it got before. -/
theorem told_takeOver (es : List Effect) (unsaid : es.reverse.findSome? Effect.changed? = none)
    (e : Journal.Event) {h : Handle} {layer : Nat} (promoted : Bool) (told : Told s)
    (there : s.lineup.resolve h = some layer) :
    Told (commit (es ++ s.announcementUnlessOverridden .changed layer,
      (s.note e).makeCurrent h promoted)) := by
  intro n gets
  rw [effective?, holder?_commit, holder?_commit, holder?_makeCurrent, holder?_makeCurrent,
    holder?_note] at gets
  rw [lastChanged?_commit, aside_lastChanged.apart.makeCurrent, aside_lastChanged.apart.note,
    List.reverse_append, List.findSome?_append, unsaid, announcementUnlessOverridden, isOverridden]
  cases override : s.holder? .override with
  | none =>
    rw [override] at gets
    exact congrArg some (Option.some_inj.1 (there.symm.trans gets))
  | some m =>
    rw [override] at gets
    refine told n ?_
    rw [effective?, override]
    exact gets

theorem told_switchTo (r : Request) (o : Layer.Order) {h : Handle} {layer : Nat} (told : Told s)
    (there : s.lineup.resolve h = some layer) : Told (commit (s.switchTo r o h layer)) := by
  unfold switchTo
  simp only
  split
  · refine told_takeOver _ ?_ _ false told there
    split <;> rfl
  · -- the next layer is no concern of the receiver
    refine told.of_same (fun n gets => ?_) ?_
    · simpa [effective?] using gets
    · rw [lastChanged?_commit, announcementUnlessOverridden]
      cases s.needsKeyframe r h <;> cases s.isOverridden <;> rfl

/-- Giving up the next layer does not matter to the receiver. -/
theorem effective?_dropNext (s : Session) : s.dropNext.effective? = s.effective? := by
  simp [effective?]

theorem told_configure (r : Request) (told : Told s) : Told (s.configure (some r)) := by
  have threshold : Told (s.setThreshold r) := told
  have followed := followed_transition r s
  rw [configure]
  generalize s.transition r = c at followed ⊢
  cases followed with
  | idle => exact threshold
  | refused e => exact threshold
  | stays order found held =>
    exact threshold.of_same (fun n gets => (effective?_dropNext _).symm.trans gets) rfl
  | switches order found other => exact told_switchTo r _ threshold (resolve_of_lookup found)

theorem told_abandonNext (told : Told s) : Told (commit s.abandonNext) := by
  obtain idle | ⟨layer, e, gone⟩ := abandonNext_eq s
  · rw [idle]
    exact told
  · rw [gone]
    exact told.of_same (fun n gets => (effective?_dropNext _).symm.trans gets) rfl

/-- The next layer takes over as one does to which the engine switches at once. -/
theorem told_promote (h : Handle) (told : Told s) : Told (commit (s.promote h)) := by
  have counted : Told s.countNext := told
  have heeded := heeded_promote h s
  generalize s.promote h = c at heeded ⊢
  cases heeded with
  | vain => exact told
  | counted => exact counted
  | takesOver pending there e => exact told_takeOver [] rfl e true counted there

/-! ### Overriding -/

/-- When the override is lifted, the receiver is told about the current layer. -/
theorem told_clearOverride (s : Session) : Told (commit s.clearOverride) := by
  intro n gets
  have current : (commit s.clearOverride).effective? = s.holder? .current := by
    rw [effective?, holder?_commit, holder?_commit, clearOverride_snd]
    simp
  have again : ((s.assign .override none).note .overrideCleared).holder? .current = some n := by
    rw [← gets, current]
    simp
  rw [lastChanged?_commit]
  simp only [clearOverride, again]
  rfl

theorem told_force {h : Handle} {layer : Nat} (o : Layer.Order)
    (there : s.lineup.resolve h = some layer) :
    Told (commit ([.keyframe layer, .announcement .changed layer],
      (s.assign .override (some h)).note (.overridden o))) := by
  intro n gets
  have override : (s.assign .override (some h)).holder? .override = some layer := by
    simpa using there
  rw [effective?, holder?_commit, holder?_note, override] at gets
  rw [← gets, lastChanged?_commit]
  rfl

/-! ### Every move -/

namespace Scene

/-- No layer leaves the roster while it overrides the decision. -/
def spared (sc : Scene) : List Move → Bool
  | [] => true
  | m :: past => sc.spared past &&
    !((m.leaves && (sc.after perform past).session.isOverridden) &&
      !(sc.after perform (m :: past)).session.isOverridden)

end Scene

/-- If no layer leaves while it overrides the decision, the receiver gets what it got or nothing. -/
theorem told_of_stride {m : Move} (told : Told s) (rooted : Rooted s) (stride : Stride s m t)
    (spared : m.leaves = true → s.isOverridden = true → t.isOverridden = true) : Told t := by
  cases stride with
  | rest roles deeds resolve =>
    have holder := rooted.holder?_of_rest roles resolve
    refine told.of_same (fun n gets => ?_) (congrArg (List.findSome? Effect.changed?) deeds)
    rw [effective?, holder, holder] at gets
    exact gets
  | leave leaves roles deeds resolve =>
    refine told.of_same (fun n gets => ?_) (congrArg (List.findSome? Effect.changed?) deeds)
    have override : t.holder? .override = s.holder? .override := by
      obtain same | gone := holder?_of_leave roles resolve .override
      · exact same
      · cases forced : s.holder? .override with
        | none => exact gone
        | some m =>
          have lost := spared leaves (by rw [isOverridden, forced]; rfl)
          rw [isOverridden, gone] at lost
          cases lost
    rw [effective?, override] at gets
    rw [effective?]
    obtain same | gone := holder?_of_leave roles resolve .current
    · rw [← same]
      exact gets
    · rw [gone, Option.or_none] at gets
      rw [gets]
      rfl
  | follow asked => exact told_configure _ told
  | followLow asked => exact told_abandonNext (told_configure _ told)
  | lift => exact told_clearOverride s
  | force found => exact told_force _ (resolve_of_lookup found)
  | promote still =>
    refine (told_promote _ told).of_same (fun n gets => ?_)
      (congrArg (List.findSome? Effect.changed?) still.deeds)
    rw [effective?, still.holder?, still.holder?] at gets
    exact gets

/-- **The receiver was told last about the layer that it gets.** Take any moves of a scene, the
newest first, in which no layer leaves while it overrides the decision and no slot is vacated so
often that its generations start over. If there is a layer that the receiver gets, the last
announcement of a change that was handed over, whatever became of it, is about that layer. -/
theorem last_changed_is_effective (channel : Announcement.Channel) (thresholds : Thresholds)
    (past : List Move)
    (room : ∀ i, (Scene.opening channel thresholds).vacated i past < 2 ^ 32 - 1)
    (spared : (Scene.opening channel thresholds).spared past = true) (layer : Nat) :
    let s := ((Scene.opening channel thresholds).after perform past).session
    s.effective? = some layer → s.lastChanged? = some layer := by
  suffices told : Told ((Scene.opening channel thresholds).after perform past).session from
    told layer
  induction past with
  | nil =>
    intro n gets
    simp [Scene.opening, Scene.after, fresh, effective?, holder?, Roles.holder?,
      handle?_unset] at gets
  | cons m past ih =>
    rw [Scene.spared, Bool.and_eq_true] at spared
    obtain ⟨before, now⟩ := spared
    have told := ih (Scene.room_before room) before
    have rooted := rooted_after channel thresholds (Scene.room_before room)
    refine told_of_stride told rooted (stride_play _ m) fun leaves forced => ?_
    simpa [leaves, forced] using now

/-- While a layer of order two overrides the decision, one of order one becomes the next layer and
takes over with its third packet, and the current layer is removed; then the override is lifted. -/
def silentSample : List Move :=
  [.operation (.configureOverride (some (.ofTarget .clear))), .answer,
    .operation (.remove ⟨0, .first⟩), .answer, .answer, .packet (.sample 200 2), .answer, .answer,
    .answer, .packet (.sample 200 1), .answer, .answer, .answer, .packet (.sample 200 0),
    .operation (.configure (some (.toOrder ⟨1⟩ false))),
    .operation (.configureOverride (some (.ofTarget (.layer ⟨2⟩)))),
    .operation (.configure (some (.toOrder ⟨0⟩ false))), .operation .readThreshold,
    .operation (.add (.numbered 2)), .operation (.add (.numbered 1)),
    .operation (.add (.numbered 0))]

/-- In the end the receiver gets the layer that took over without a word, and was told so. -/
theorem told_after_silence :
    (∀ i, (Scene.opening default (.fixed 1)).vacated i silentSample < 2 ^ 32 - 1) ∧
      (Scene.opening default (.fixed 1)).spared silentSample = true ∧
      ((Scene.opening default (.fixed 1)).after perform silentSample).session.effective? =
        some 1 ∧
      ((Scene.opening default (.fixed 1)).after perform silentSample).session.lastChanged? =
        some 1 := by
  have room := (Scene.opening default (.fixed 1)).room_of_length
    (show silentSample.length < greatestGeneration by decide)
  have spared : (Scene.opening default (.fixed 1)).spared silentSample = true := by
    decide +kernel
  have gets : ((Scene.opening default (.fixed 1)).after perform
      silentSample).session.effective? = some 1 := by decide +kernel
  exact ⟨room, spared, gets,
    last_changed_is_effective default (.fixed 1) silentSample room spared 1 gets⟩

end Simulcast.Session
