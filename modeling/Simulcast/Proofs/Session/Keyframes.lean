import Simulcast.Proofs.Session.Outcome
import Simulcast.Proofs.Session.Revolution

/-!
# Keyframes of hard switches

A hard switch needs a keyframe of its layer. It is asked for with the switch, unless the layer is
the next one already: then it is taken to have been asked for when the layer became the next one.
`hard_switch_has_keyframe` says when this is so: it was, if the request by which the layer became
the next one was a hard one and if there was no override at that time.
-/

namespace Simulcast.Session

open Switching

variable {s t : Session}

/-! ### The keyframe of a switch -/

/-- What the effects of a change ask a layer for is added to what it was asked for before. -/
theorem keyframes_commit (c : List Effect × Session) (layer : Nat) :
    (commit c).keyframes layer = c.1.count (.keyframe layer) + c.2.keyframes layer := by
  rw [keyframes_eq_count, deeds_commit, List.count_append, List.count_reverse,
    keyframes_eq_count]

/-- A hard switch without an override needs a keyframe unless the layer is the next one. -/
theorem needsKeyframe_iff {r : Request} (hard : r.hardSwitch = true)
    (free : s.isOverridden = false) (h : Handle) :
    s.needsKeyframe r h = true ↔ s.roles.handle? .next ≠ some h := by
  simp [needsKeyframe, hard, free]

/-- A switch asks for one keyframe if it needs one. -/
theorem keyframes_switchTo (r : Request) (o : Layer.Order) (h : Handle) (layer : Nat)
    (s : Session) :
    (commit (s.switchTo r o h layer)).keyframes layer =
      (if s.needsKeyframe r h then 1 else 0) + s.keyframes layer := by
  have changed : (s.switchTo r o h layer).2.keyframes layer = s.keyframes layer := by
    rw [keyframes_eq_count, keyframes_eq_count, aside_deeds.apart.switchTo]
  have announcement : ∀ kind,
      (s.announcementUnlessOverridden kind layer).count (.keyframe layer) = 0 := by
    intro kind
    unfold announcementUnlessOverridden
    split <;> simp
  rw [keyframes_commit, changed, switchTo_fst, List.count_append, announcement]
  split <;> simp

/-! ### Hard switches -/

/-- An operation asks for a hard switch to a layer, which the handle names; there is no override,
the layer can be switched to, and it is not the current one. -/
structure HardSwitch (s : Session) (o : Operation) (h : Handle) (layer : Nat) : Prop where
  /-- There is no override. -/
  free : s.isOverridden = false
  /-- The layer is the one that the request finds. -/
  found : ∃ r order, o.request? s = some r ∧ r.hardSwitch = true ∧ r.nextOrder = some order ∧
    s.lineup.lookup order = some (h, layer)
  /-- It can be switched to. -/
  ready : s.ready layer = true
  /-- It is not the current one. -/
  other : s.roles.handle? .current ≠ some h

/-- A request that an operation makes is followed, and what else the operation does takes no
keyframe back. -/
theorem keyframes_le_perform {o : Operation} {r : Request} (asked : o.request? s = some r)
    (layer : Nat) : (s.configure (some r)).keyframes layer ≤ (s.perform o).keyframes layer := by
  cases o with
  | configure r' =>
    obtain rfl : r' = some r := asked
    exact Nat.le_refl _
  | receiveHigh =>
    obtain ⟨o, highest, rfl⟩ := Option.map_eq_some_iff.1 asked
    simp [perform, receiveHigh, highest]
  | receiveLow urgent =>
    obtain rfl : Request.toOrder .lowest urgent = r := Option.some_inj.1 asked
    exact keyframes_le_of_suffix (deeds_suffix_abandonNext _) layer
  | _ => cases asked

theorem keyframes_configure {r : Request} {o : Layer.Order} {h : Handle} {layer : Nat}
    (free : s.isOverridden = false) (hard : r.hardSwitch = true) (order : r.nextOrder = some o)
    (found : s.lineup.lookup o = some (h, layer)) (ready : s.ready layer = true)
    (other : s.roles.handle? .current ≠ some h) :
    (s.configure (some r)).keyframes layer =
      (if s.roles.handle? .next = some h then 0 else 1) + s.keyframes layer := by
  have switches : s.transition r = (s.setThreshold r).switchTo r o h layer := by
    rw [transition_of_leads ⟨order, found, ready⟩, if_neg other]
  have needs : (s.setThreshold r).needsKeyframe r h = true ↔
      s.roles.handle? .next ≠ some h := needsKeyframe_iff hard free h
  rw [configure, switches, keyframes_switchTo]
  by_cases next : s.roles.handle? .next = some h
  · rw [if_pos next, if_neg fun needed => needs.1 needed next]
    rfl
  · rw [if_neg next, if_pos (needs.2 next)]
    rfl

/-- A hard switch asks for a keyframe unless the layer is the next one. -/
theorem HardSwitch.keyframes_lt {o : Operation} {h : Handle} {layer : Nat}
    (switch : HardSwitch s o h layer) (fresh : s.roles.handle? .next ≠ some h) :
    s.keyframes layer < (s.perform o).keyframes layer := by
  obtain ⟨r, order, asked, hard, next, found⟩ := switch.found
  have one := keyframes_configure switch.free hard next found switch.ready switch.other
  rw [if_neg fresh] at one
  have kept := keyframes_le_perform asked layer
  omega

/-! ### Coming to the next role -/

/-- Whether a move is a request for a switch that needs no keyframe. -/
def Move.isSoft (s : Session) : Move → Bool
  | .operation o => (o.request? s).any fun r => !r.hardSwitch
  | _ => false

theorem isSoft_of_request {o : Operation} {r : Request} (asked : o.request? s = some r)
    (soft : r.hardSwitch = false) : Move.isSoft s (.operation o) = true := by
  simp [Move.isSoft, asked, soft]

/-- If a layer becomes the next one by a hard switch, and there is no override, it is asked for a
keyframe. -/
theorem next_of_configure {r : Request} {h : Handle} {layer : Nat}
    (there : s.lineup.resolve h = some layer) (new : s.roles.handle? .next ≠ some h)
    (next : (s.configure (some r)).roles.handle? .next = some h) :
    r.hardSwitch = false ∨ s.isOverridden = true ∨
      s.keyframes layer < (s.configure (some r)).keyframes layer := by
  have followed := followed_transition r s
  rw [configure] at next ⊢
  generalize s.transition r = c at followed next ⊢
  cases followed with
  | idle => exact absurd next new
  | refused e => exact absurd next new
  | stays order found held =>
    simp at next
  | @switches o h' layer' order found other =>
    rw [commit_roles, switchTo_snd] at next
    split at next
    · -- a switch at once leaves no next layer
      simp at next
    · obtain rfl : h' = h := by simpa using next
      obtain rfl : layer' = layer :=
        Option.some_inj.1 ((resolve_of_lookup found).symm.trans there)
      cases hard : r.hardSwitch with
      | false => exact .inl rfl
      | true =>
        cases forced : s.isOverridden with
        | true => exact .inr (.inl rfl)
        | false =>
          right
          right
          have needs : (s.setThreshold r).needsKeyframe r h' = true :=
            (needsKeyframe_iff (s := s.setThreshold r) hard forced h').2 new
          rw [keyframes_switchTo, needs]
          show s.keyframes layer' < 1 + s.keyframes layer'
          omega

theorem next_abandonNext {h : Handle} (next : s.abandonNext.2.roles.handle? .next = some h) :
    s.roles.handle? .next = some h := by
  obtain idle | ⟨layer, e, gone⟩ := abandonNext_eq s
  · rwa [idle] at next
  · rw [gone] at next
    simp at next

/-- The next layer takes over or stays the next one, but no layer becomes the next one. -/
theorem next_promote {h h' : Handle} (next : (s.promote h').2.roles.handle? .next = some h) :
    s.roles.handle? .next = some h := by
  have heeded := heeded_promote h' s
  generalize s.promote h' = c at heeded next
  cases heeded with
  | vain => exact next
  | counted => exact next
  | takesOver pending there e => simp at next

/-- **If a layer becomes the next one by a move**, it is asked for a keyframe, or the move is a
request that needs none, or there is an override. -/
theorem next_of_stride {m : Move} (stride : Stride s m t) {h : Handle} {layer : Nat}
    (there : t.lineup.resolve h = some layer) (new : s.roles.handle? .next ≠ some h)
    (next : t.roles.handle? .next = some h) :
    m.isSoft s = true ∨ s.isOverridden = true ∨ s.keyframes layer < t.keyframes layer := by
  cases stride with
  | rest roles deeds resolve => exact absurd (roles ▸ next) new
  | leave leaves roles deeds resolve => exact absurd (roles ▸ next) new
  | follow asked =>
    rw [untouched_lineup.configure] at there
    exact (next_of_configure there new next).imp_left (isSoft_of_request asked)
  | @followLow o r asked =>
    rw [commit_lineup, aside_lineup.apart.abandonNext, untouched_lineup.configure] at there
    rw [commit_roles] at next
    obtain soft | forced | more := next_of_configure there new (next_abandonNext next)
    · exact .inl (isSoft_of_request asked soft)
    · exact .inr (.inl forced)
    · have kept := keyframes_le_of_suffix (deeds_suffix_abandonNext (s.configure (some r))) layer
      exact .inr (.inr (Nat.lt_of_lt_of_le more kept))
  | lift =>
    rw [commit_roles, clearOverride_snd] at next
    exact absurd (by simpa using next) new
  | force found =>
    exact absurd (by simpa using next) new
  | promote still =>
    rw [still.roles, commit_roles] at next
    exact absurd (next_promote next) new

/-! ### Since a layer became the next one -/

namespace Scene

/-- The moves up to the one, which is the first of them, by which the next role came to hold a
handle that it has held since. -/
def onset (sc : Scene) (h : Handle) : List Move → List Move
  | [] => []
  | m :: past =>
    if (sc.after perform past).session.roles.handle? .next = some h then sc.onset h past
    else m :: past

end Scene

/-- A layer that is the next one was asked for a keyframe since it became the next one, or became it
by a request that needs none or while there was an override. -/
theorem keyframes_since_onset (channel : Announcement.Channel) (thresholds : Thresholds)
    {past : List Move}
    (room : ∀ i, (Scene.opening channel thresholds).vacated i past < greatestGeneration)
    {h : Handle} {layer : Nat} :
    let sc := Scene.opening channel thresholds
    let s := (sc.after perform past).session
    s.roles.handle? .next = some h → s.lineup.resolve h = some layer →
      ∃ m before, sc.onset h past = m :: before ∧
        (m.isSoft (sc.after perform before).session = true ∨
          (sc.after perform before).session.isOverridden = true ∨
          (sc.after perform before).session.keyframes layer < s.keyframes layer) := by
  intro sc s next there
  induction past with
  | nil => simp [s, sc, Scene.opening, Scene.after, fresh, handle?_unset] at next
  | cons m past ih =>
    have stride : Stride (sc.after perform past).session m s := stride_play _ m
    by_cases held : (sc.after perform past).session.roles.handle? .next = some h
    · -- the layer was the next one before, and the handle named the same layer
      have rooted := rooted_after channel thresholds (Scene.room_before room)
      have same : (sc.after perform past).session.lineup.resolve h = some layer := by
        obtain same | gone := stride.resolve (rooted .next h held)
        · rw [← same, there]
        · rw [gone] at there
          cases there
      obtain ⟨m', before, onset, asked⟩ := ih (Scene.room_before room) held same
      refine ⟨m', before, (if_pos held).trans onset, ?_⟩
      exact asked.imp_right fun rest => rest.imp_right fun more =>
        Nat.lt_of_lt_of_le more (keyframes_le_of_suffix stride.deeds_suffix layer)
    · exact ⟨m, past, if_neg held, next_of_stride stride there held next⟩

/-- **A hard switch is not left without a keyframe.** Take any moves of a scene, the newest first,
in which no slot is vacated so often that its generations start over, and an operation that asks for
a hard switch after them. It asks the layer for a keyframe; or the layer is the next one and was
asked for one since it became the next one, unless that was by a request that needs none or while
there was an override. -/
theorem hard_switch_has_keyframe (channel : Announcement.Channel) (thresholds : Thresholds)
    (past : List Move)
    (room : ∀ i, (Scene.opening channel thresholds).vacated i past < 2 ^ 32 - 1)
    (o : Operation) (h : Handle) (layer : Nat)
    (switch : HardSwitch ((Scene.opening channel thresholds).after perform past).session
      o h layer) :
    let sc := Scene.opening channel thresholds
    let s := (sc.after perform past).session
    s.keyframes layer < (s.perform o).keyframes layer ∨
      s.roles.handle? .next = some h ∧
        ∃ m before, sc.onset h past = m :: before ∧
          (m.isSoft (sc.after perform before).session = true ∨
            (sc.after perform before).session.isOverridden = true ∨
            (sc.after perform before).session.keyframes layer < s.keyframes layer) := by
  intro sc s
  by_cases next : s.roles.handle? .next = some h
  · right
    obtain ⟨r, order, -, -, -, found⟩ := switch.found
    exact ⟨next, keyframes_since_onset channel thresholds room next (resolve_of_lookup found)⟩
  · exact .inl (switch.keyframes_lt next)

/-- The layer of order one becomes the next one by a hard switch, and a packet of it arrives. -/
def pendingSample : List Move :=
  [.packet (.sample 200 0), .operation (.configure (some (.toOrder ⟨1⟩ false))),
    .operation (.receiveLow false), .operation (.add (.numbered 1)),
    .operation (.add (.numbered 0))]

/-- Asking for the highest layer now asks for no keyframe, as one was asked for since the layer
became the next one. -/
theorem keyframe_while_pending :
    (∀ i, (Scene.opening default (.fixed 5)).vacated i pendingSample < 2 ^ 32 - 1) ∧
      HardSwitch ((Scene.opening default (.fixed 5)).after perform pendingSample).session
        .receiveHigh ⟨1, .first⟩ 1 ∧
      (Scene.opening default (.fixed 5)).onset ⟨1, .first⟩ pendingSample =
        pendingSample.drop 1 ∧
      ((Scene.opening default (.fixed 5)).after perform (pendingSample.drop 2)).session.keyframes
        1 <
        ((Scene.opening default (.fixed 5)).after perform pendingSample).session.keyframes 1 := by
  have room := (Scene.opening default (.fixed 5)).room_of_length
    (show pendingSample.length < greatestGeneration by decide)
  have switch : HardSwitch ((Scene.opening default (.fixed 5)).after perform
      pendingSample).session .receiveHigh ⟨1, .first⟩ 1 := by
    refine ⟨by decide +kernel, ⟨.toOrder ⟨1⟩ false, ⟨1⟩, ?_⟩, by decide +kernel, by decide +kernel⟩
    decide +kernel
  have began : (Scene.opening default (.fixed 5)).onset ⟨1, .first⟩ pendingSample =
      pendingSample.drop 1 :=
    (if_pos (by decide +kernel)).trans (if_neg (by decide +kernel))
  refine ⟨room, switch, began, ?_⟩
  obtain more | ⟨-, m, before, onset, asked⟩ :=
    hard_switch_has_keyframe default (.fixed 5) pendingSample room .receiveHigh _ _ switch
  · exact absurd more (by decide +kernel)
  · obtain ⟨rfl, rfl⟩ := List.cons.inj (began.symm.trans onset)
    obtain soft | forced | more := asked
    · exact absurd soft (by decide +kernel)
    · exact absurd forced (by decide +kernel)
    · exact more

/-- The layer of order one becomes the next one by a switch that needs no keyframe. -/
def softSample : List Move :=
  [.operation (.configure (some { nextOrder := some ⟨1⟩ })), .operation (.receiveLow false),
    .operation (.add (.numbered 1)), .operation (.add (.numbered 0))]

/-- The layer of order one becomes the next one by a hard switch while the one of order two
overrides the decision; then the override is lifted. -/
def forcedSample : List Move :=
  [.operation (.configureOverride (some (.ofTarget .clear))),
    .operation (.configure (some (.toOrder ⟨1⟩ false))),
    .operation (.configureOverride (some (.ofTarget (.layer ⟨2⟩)))),
    .operation (.receiveLow false), .operation (.add (.numbered 2)),
    .operation (.add (.numbered 1)), .operation (.add (.numbered 0))]

/-- The layer that came to the next role because generations started over is found and could be
switched to, but is not asked for a keyframe. -/
theorem hardSwitch_of_superseded (full : Full .first [2, 3] s)
    (layers : s.lineup.layers = [.numbered 0, .numbered 1, .numbered 2, .numbered 3])
    (current : s.roles.handle? .current = some ⟨0, .first⟩)
    (override : s.roles.handle? .override = none) :
    HardSwitch s (.configure (some (.toOrder ⟨3⟩ false))) ⟨1, .first⟩ 3 := by
  have found : s.lineup.find? ⟨3⟩ = some ⟨1, .first⟩ := by
    rw [Lineup.find?, Roster.find?, full.slots]
    simp [Roster.findFrom?, Lineup.order, Lineup.layer, layers, Layer.numbered]
  have named : s.lineup.resolve ⟨1, .first⟩ = some 3 := full.resolve 1
  refine ⟨?_, ⟨.toOrder ⟨3⟩ false, ⟨3⟩, rfl, rfl, rfl, ?_⟩, ?_, ?_⟩
  · rw [isOverridden, holder?, Roles.holder?, override]
    rfl
  · simp [Lineup.lookup, found, named]
  · simp [ready, Lineup.layer, layers, Layer.numbered]
  · rw [current]
    decide

/-- **A hard switch may be left without a keyframe**: if the layer became the next one by a request
that needed none, or while there was an override, or because generations started over. -/
theorem hard_switch_without_keyframe :
    (let s := ((Scene.opening default (.fixed 5)).after perform softSample).session
     HardSwitch s .receiveHigh ⟨1, .first⟩ 1 ∧ (s.perform .receiveHigh).keyframes 1 = 0) ∧
      (let s := ((Scene.opening default (.fixed 5)).after perform forcedSample).session
       let o : Operation := .configure (some (.toOrder ⟨1⟩ false))
       HardSwitch s o ⟨1, .first⟩ 1 ∧ (s.perform o).keyframes 1 = 0) ∧
      ∃ past, (∀ r, Move.operation (.configureOverride r) ∉ past) ∧
        (∀ r, Move.operation (.configure (some r)) ∈ past → r.hardSwitch = true) ∧
        let s := ((Scene.opening default (.fixed 5)).after perform past).session
        let o : Operation := .configure (some (.toOrder ⟨3⟩ false))
        HardSwitch s o ⟨1, .first⟩ 3 ∧ (s.perform o).keyframes 3 = 0 := by
  refine ⟨⟨⟨by decide +kernel, ⟨.toOrder ⟨1⟩ false, ⟨1⟩, by decide +kernel⟩, by decide +kernel,
      by decide +kernel⟩, by decide +kernel⟩,
    ⟨⟨by decide +kernel, ⟨.toOrder ⟨1⟩ false, ⟨1⟩, by decide +kernel⟩, by decide +kernel,
      by decide +kernel⟩, by decide +kernel⟩, ?_⟩
  obtain ⟨k, turns⟩ : ∃ k, k + 1 = greatestGeneration := ⟨2 ^ 32 - 2, by decide⟩
  refine ⟨superseding k, not_mem_superseding k, hard_of_mem_superseding k, ?_⟩
  have facts := superseded turns
  generalize ((Scene.opening default (.fixed 5)).after perform (superseding k)).session = s
    at facts ⊢
  obtain ⟨full, layers, current, next, override, deeds⟩ := facts
  have switch := hardSwitch_of_superseded full layers current override
  refine ⟨switch, ?_⟩
  have never : s.keyframes 3 = 0 := by
    rw [keyframes_eq_count, deeds]
    rfl
  obtain ⟨r, order, asked, hard, orders, found⟩ := switch.found
  obtain rfl : Request.toOrder ⟨3⟩ false = r := Option.some_inj.1 asked
  have followed := keyframes_configure switch.free hard orders found switch.ready switch.other
  rwa [if_pos next, never] at followed

end Simulcast.Session
