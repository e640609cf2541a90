import Simulcast.Proofs.Session.Revolution

/-!
# Layers that are announced before they are forwarded

A packet that a role selects belongs to a layer that has a role. A layer comes to a role by a
request, by an override or by the packets that make the next layer take over, and each of these
announces it, or finds it announced already. Only a request that is followed while there is an
override gives roles without a word, and when the override is lifted the receiver is told about the
current layer and not about the next one. `selected_layer_was_announced` says that no layer is
forwarded unannounced but for such requests.
-/

namespace Simulcast.Session

open Switching

variable {s t : Session} {n : Nat}

/-! ### The layer that selects a packet -/

/-- The layer that has a role, if it owns a packet. -/
def claimant? (role : Role) (p : Packet) (s : Session) : Option Nat :=
  (s.holder? role).filter fun layer => (s.lineup.layer layer).owns p

/-- The layer by which the roles select a packet, if they do. -/
def selector? (p : Packet) (s : Session) : Option Nat :=
  if s.isOverridden then s.claimant? .override p
  else (s.claimant? .current p).or (s.claimant? .next p)

theorem isSome_claimant? (role : Role) (p : Packet) (s : Session) :
    (s.claimant? role p).isSome = s.claims role p := by
  unfold claimant? claims
  cases s.holder? role with
  | none => rfl
  | some layer => cases owned : (s.lineup.layer layer).owns p <;> simp [owned]

/-- There is one if the packet is selected. -/
theorem isSome_selector? (p : Packet) (s : Session) : (s.selector? p).isSome = s.selects p := by
  unfold selector? selects
  split
  · exact isSome_claimant? .override p s
  · rw [Option.isSome_or, isSome_claimant?, isSome_claimant?]

/-! ### Layers with a role -/

/-- Whether a layer has a role. -/
def engages (s : Session) (layer : Nat) : Bool :=
  [Role.current, .next, .override].any fun role => s.holder? role == some layer

theorem engages_iff : s.engages n = true ↔ ∃ role, s.holder? role = some n := by
  constructor
  · intro engaged
    obtain ⟨role, -, holds⟩ := List.any_eq_true.1 engaged
    exact ⟨role, by simpa using holds⟩
  · rintro ⟨role, holds⟩
    refine List.any_eq_true.2 ⟨role, ?_, by simpa using holds⟩
    cases role <;> simp

theorem engages_of_selector? {p : Packet} (selects : s.selector? p = some n) :
    s.engages n = true := by
  have holds : ∀ {role}, s.claimant? role p = some n → s.engages n = true := by
    intro role claims
    exact engages_iff.2 ⟨role, (Option.filter_eq_some_iff.1 claims).1⟩
  unfold selector? at selects
  split at selects
  · exact holds selects
  · obtain current | ⟨-, next⟩ := Option.or_eq_some_iff.1 selects
    · exact holds current
    · exact holds next

/-- If no role is given to another layer, no other layer has a role. -/
theorem engages_of_holder?
    (kept : ∀ role, t.holder? role = s.holder? role ∨ t.holder? role = none)
    (engaged : t.engages n = true) : s.engages n = true := by
  obtain ⟨role, holds⟩ := engages_iff.1 engaged
  obtain same | none := kept role
  · exact engages_iff.2 ⟨role, same ▸ holds⟩
  · simp [none] at holds

/-- Taking a role from its layer gives no role to another one. -/
theorem holder?_assign_none (role other : Role) (s : Session) :
    (s.assign role none).holder? other = s.holder? other ∨
      (s.assign role none).holder? other = none := by
  rw [holder?_assign]
  split
  · exact .inr rfl
  · exact .inl rfl

/-! ### Layers that were announced -/

/-- Whether an effect announces a layer as one that is forwarded from now on or is about to be. -/
def Effect.heralds (layer : Nat) : Effect → Bool
  | .announcement .changed m => m == layer
  | .announcement .changing m => m == layer
  | _ => false

/-- Whether a layer was announced as one that is forwarded from then on or was about to be, whatever
became of the announcement. -/
def heralded (s : Session) (layer : Nat) : Bool := s.deeds.any (Effect.heralds layer)

theorem heralded_commit (c : List Effect × Session) (n : Nat) :
    (commit c).heralded n = (c.1.any (Effect.heralds n) || c.2.heralded n) := by
  rw [heralded, deeds_commit, List.any_append, List.any_reverse]
  rfl

/-- A layer that was announced stays one that was. -/
theorem Stride.heralded {m : Move} (stride : Stride s m t) (before : s.heralded n = true) :
    t.heralded n = true := by
  obtain ⟨e, done, heralds⟩ := List.any_eq_true.1 before
  exact List.any_eq_true.2 ⟨e, stride.deeds_suffix.subset done, heralds⟩

/-! ### Coming to a role -/

/-- A layer that gets a role by a request is announced, unless there is an override. -/
theorem engages_switchTo (r : Request) (o : Layer.Order) {h : Handle} {layer : Nat}
    (there : s.lineup.resolve h = some layer)
    (engaged : (commit (s.switchTo r o h layer)).engages n = true) :
    s.engages n = true ∨ (commit (s.switchTo r o h layer)).heralded n = true ∨
      s.isOverridden = true := by
  cases forced : s.isOverridden with
  | true => exact .inr (.inr rfl)
  | false =>
    obtain ⟨role, holds⟩ := engages_iff.1 engaged
    rw [holder?_commit, switchTo_snd] at holds
    -- the layer of the request, or one that had the role before
    have whose : n = layer ∨ s.holder? role = some n := by
      split at holds
      · rw [holder?_makeCurrent, aside_lineup.apart.note, there, holder?_note] at holds
        split at holds
        · cases holds
        · split at holds
          · exact .inl (Option.some_inj.1 holds).symm
          · exact .inr holds
      · rw [holder?_makeNext, aside_lineup.apart.note, there, holder?_note] at holds
        split at holds
        · exact .inl (Option.some_inj.1 holds).symm
        · exact .inr holds
    obtain rfl | before := whose
    · -- announced as the current layer or as the next one
      right
      left
      rw [heralded_commit, switchTo_fst, announcementUnlessOverridden, forced]
      cases s.isImmediate r <;> simp [Effect.heralds]
    · exact .inl (engages_iff.2 ⟨role, before⟩)

theorem engages_configure (r : Request) (engaged : (s.configure (some r)).engages n = true) :
    s.engages n = true ∨ (s.configure (some r)).heralded n = true ∨ s.isOverridden = true := by
  have followed := followed_transition r s
  rw [configure] at engaged ⊢
  generalize s.transition r = c at followed engaged ⊢
  cases followed with
  | idle => exact .inl engaged
  | refused e => exact .inl engaged
  | stays order found held =>
    exact .inl (engages_of_holder? (fun role => holder?_assign_none .next role _) engaged)
  | switches order found other => exact engages_switchTo r _ (resolve_of_lookup found) engaged

theorem holder?_abandonNext (s : Session) (role : Role) :
    s.abandonNext.2.holder? role = s.holder? role ∨ s.abandonNext.2.holder? role = none := by
  obtain idle | ⟨layer, e, gone⟩ := abandonNext_eq s
  · rw [idle]
    exact .inl rfl
  · rw [gone]
    exact holder?_assign_none .next role s

/-- When the next layer takes over, no other layer gets a role. -/
theorem engages_promote (h : Handle) (engaged : (commit (s.promote h)).engages n = true) :
    s.engages n = true := by
  have heeded := heeded_promote h s
  generalize s.promote h = c at heeded engaged
  cases heeded with
  | vain => exact engaged
  | counted => exact engaged
  | @takesOver layer pending there e =>
    obtain ⟨role, holds⟩ := engages_iff.1 engaged
    rw [holder?_commit, holder?_makeCurrent] at holds
    split at holds
    · cases holds
    · split at holds
      · refine engages_iff.2 ⟨.next, ?_⟩
        rw [holder?, Roles.holder?, pending]
        exact holds
      · exact engages_iff.2 ⟨role, holds⟩

/-! ### Every move -/

/-- Whether a request that is followed while there is an override gives a role to a layer that had
none. -/
def hushes (s t : Session) (layer : Nat) : Move → Bool
  | .operation o =>
    s.isOverridden && (o.request? s).isSome && t.engages layer && !s.engages layer
  | _ => false

theorem hushes_of_request {o : Operation} {r : Request} (asked : o.request? s = some r)
    (forced : s.isOverridden = true) (gains : t.engages n = true) (had : s.engages n = false) :
    hushes s t n (.operation o) = true := by
  simp [hushes, asked, forced, gains, had]

/-- **A layer that has a role after a move** had one before, was announced, or gets it by a request
while there is an override. -/
theorem engages_of_stride {m : Move} (rooted : Rooted s) (stride : Stride s m t)
    (engaged : t.engages n = true) :
    s.engages n = true ∨ t.heralded n = true ∨ hushes s t n m = true := by
  cases had : s.engages n with
  | true => exact .inl rfl
  | false =>
    right
    have gains : ¬ s.engages n = true := by simp [had]
    cases stride with
    | rest roles deeds resolve =>
      refine absurd (engages_of_holder? (fun role => ?_) engaged) gains
      exact .inl (rooted.holder?_of_rest roles resolve role)
    | leave leaves roles deeds resolve =>
      exact absurd (engages_of_holder? (holder?_of_leave roles resolve) engaged) gains
    | follow asked =>
      obtain before | heralded | forced := engages_configure _ engaged
      · exact absurd before gains
      · exact .inl heralded
      · exact .inr (hushes_of_request asked forced engaged had)
    | @followLow o r asked =>
      have kept : (s.configure (some r)).engages n = true := by
        refine engages_of_holder? (fun role => ?_) engaged
        rw [holder?_commit]
        exact holder?_abandonNext _ role
      obtain before | heralded | forced := engages_configure _ kept
      · exact absurd before gains
      · -- what was announced stays so while the next layer is given up
        left
        rw [heralded_commit, Session.heralded, aside_deeds.apart.abandonNext, ← Session.heralded,
          heralded, Bool.or_true]
      · exact .inr (hushes_of_request asked forced engaged had)
    | lift =>
      refine absurd (engages_of_holder? (fun role => ?_) engaged) gains
      rw [holder?_commit, clearOverride_snd, holder?_note]
      exact holder?_assign_none .override role s
    | @force _ o h layer found =>
      obtain ⟨role, holds⟩ := engages_iff.1 engaged
      rw [holder?_commit, holder?_note, holder?_assign] at holds
      split at holds
      · -- the layer that overrides the decision is announced
        obtain rfl : layer = n :=
          Option.some_inj.1 ((resolve_of_lookup found).symm.trans holds)
        left
        simp [heralded_commit, Effect.heralds]
      · exact absurd (engages_iff.2 ⟨role, holds⟩) gains
    | @promote h _ still =>
      refine absurd (engages_promote h (engages_of_holder? (fun role => ?_) engaged)) gains
      exact .inl (still.holder? role)

/-! ### Questions -/

theorem engages_of_proceeds {p : Packet} {selected : Bool} {c : Progress × Session} {q : Inquiry}
    (proceeds : Proceeds p selected s c) (asks : c.1 = .asking q) :
    c.2.engages q.layer = true := by
  cases proceeds with
  | asks q' about holds =>
    obtain rfl := Progress.asking.inj asks
    exact engages_iff.2 ⟨q'.role, holds⟩
  | settles => cases asks

theorem asks_begin {p : Packet} {q : Inquiry} (asks : (s.begin p).1 = .asking q) :
    (s.begin p).2.engages q.layer = true :=
  engages_of_proceeds (proceeds_begin p s) asks

/-- Only layers with a role are asked whether they own a packet. -/
theorem asks_answer {q q' : Inquiry} (asks : (s.answer q).1 = .asking q') :
    (s.answer q).2.engages q'.layer = true :=
  engages_of_proceeds (proceeds_answer q s) asks

/-! ### Every run -/

namespace Scene

/-- Whether a layer has a role or is being asked whether it owns a packet. -/
def attends (sc : Scene) (layer : Nat) : Bool :=
  sc.session.engages layer || sc.asked.any (·.layer == layer)

theorem attends_of_engages {sc : Scene} (engaged : sc.session.engages n = true) :
    sc.attends n = true := Bool.or_eq_true_iff.2 (.inl engaged)

theorem attends_of_mem_asked {sc : Scene} {q : Inquiry} (here : q ∈ sc.asked) :
    sc.attends q.layer = true :=
  Bool.or_eq_true_iff.2 (.inr (List.any_eq_true.2 ⟨q, here, beq_self_eq_true _⟩))

/-- Whether a layer that had no role got one by a request that was followed while there was an
override, and has had one or has been asked since. -/
def hushed (sc : Scene) (layer : Nat) : List Move → Bool
  | [] => false
  | m :: past =>
    let after := sc.after perform (m :: past)
    after.attends layer &&
      (sc.hushed layer past || hushes (sc.after perform past).session after.session layer m)

/-- After some moves a layer was announced or got the role that it has without a word. -/
def named (sc : Scene) (past : List Move) (layer : Nat) : Prop :=
  (sc.after perform past).session.heralded layer = true ∨ sc.hushed layer past = true

/-- Once it was, it stays so as long as it has a role or is asked. -/
theorem named_cons {sc : Scene} {past : List Move} {m : Move}
    (attends : (sc.after perform (m :: past)).attends n = true) (before : sc.named past n) :
    sc.named (m :: past) n := by
  obtain heralded | hushed := before
  · exact .inl ((stride_play _ m).heralded heralded)
  · exact .inr (Bool.and_eq_true_iff.2 ⟨attends, Bool.or_eq_true_iff.2 (.inl hushed)⟩)

theorem mem_asked_proceed {sc : Scene} {r : Progress × Session} {q : Inquiry}
    (here : q ∈ (sc.proceed r).asked) : q ∈ sc.asked ∨ r.1 = .asking q := by
  obtain ⟨progress, s⟩ := r
  cases progress with
  | asking q' =>
    obtain rfl | old := List.mem_cons.1 here
    · exact .inr rfl
    · exact .inl old
  | decided p accepted => exact .inl here

/-- A question that is open after a move was open before, or is put to a layer that has a role. -/
theorem mem_asked_play {sc : Scene} {m : Move} {q : Inquiry}
    (here : q ∈ (sc.play perform m).asked) :
    q ∈ sc.asked ∨ (sc.play perform m).session.engages q.layer = true := by
  cases m with
  | operation o => exact .inl here
  | packet p =>
    refine (mem_asked_proceed here).imp_right fun asks => ?_
    rw [play, proceed_session]
    exact asks_begin asks
  | answer =>
    cases asked : sc.asked with
    | nil =>
      simp only [play, asked] at here
      exact absurd here List.not_mem_nil
    | cons q' others =>
      simp only [play, asked] at here ⊢
      rw [proceed_session]
      exact (mem_asked_proceed here).imp (List.mem_cons_of_mem q') asks_answer

/-- All layers that have a role, and all that are asked, were announced or got this role without a
word. -/
structure Named (sc : Scene) (past : List Move) : Prop where
  /-- The layers that have a role. -/
  engaged : ∀ n, (sc.after perform past).session.engages n = true → sc.named past n
  /-- The layers that are asked. -/
  asked : ∀ q ∈ (sc.after perform past).asked, sc.named past q.layer

/-- A move keeps it so. -/
theorem Named.play {sc : Scene} {past : List Move} (before : Named sc past) (m : Move)
    (rooted : Rooted (sc.after perform past).session) : Named sc (m :: past) := by
  have engaged : ∀ n, (sc.after perform (m :: past)).session.engages n = true →
      sc.named (m :: past) n := by
    intro n engaged
    obtain had | heralded | hushes := engages_of_stride rooted (stride_play _ m) engaged
    · exact named_cons (attends_of_engages engaged) (before.engaged n had)
    · exact .inl heralded
    · refine .inr (Bool.and_eq_true_iff.2 ⟨attends_of_engages engaged, ?_⟩)
      exact Bool.or_eq_true_iff.2 (.inr hushes)
  refine ⟨engaged, fun q here => ?_⟩
  obtain old | asks := mem_asked_play here
  · exact named_cons (attends_of_mem_asked here) (before.asked q old)
  · exact engaged q.layer asks

end Scene

theorem named_after (channel : Announcement.Channel) (thresholds : Thresholds)
    {past : List Move}
    (room : ∀ i, (Scene.opening channel thresholds).vacated i past < greatestGeneration) :
    Scene.Named (.opening channel thresholds) past := by
  induction past with
  | nil =>
    refine ⟨fun n engaged => ?_, fun q here => absurd here List.not_mem_nil⟩
    obtain ⟨role, holds⟩ := engages_iff.1 engaged
    simp [Scene.opening, Scene.after, fresh, holder?, Roles.holder?, handle?_unset] at holds
  | cons m past ih =>
    have before := Scene.room_before room
    exact (ih before).play m (rooted_after channel thresholds before)

/-- **The layer that selects a packet was announced.** Take any moves of a scene, the newest first,
in which no slot is vacated so often that its generations start over. Whichever layer is asked
whether it owns a packet, and whichever layer selects one, was announced as the one that is
forwarded or is about to be, whatever became of the announcement; or else it got a role by a request
that was followed while there was an override, and has had one or has been asked since. -/
theorem selected_layer_was_announced (channel : Announcement.Channel) (thresholds : Thresholds)
    (past : List Move)
    (room : ∀ i, (Scene.opening channel thresholds).vacated i past < 2 ^ 32 - 1) :
    let opening := Scene.opening channel thresholds
    let sc := opening.after perform past
    (∀ q ∈ sc.asked,
        sc.session.heralded q.layer = true ∨ opening.hushed q.layer past = true) ∧
      ∀ p, sc.session.selects p = true → ∃ layer, sc.session.selector? p = some layer ∧
        (sc.session.heralded layer = true ∨ opening.hushed layer past = true) := by
  intro opening sc
  have named := named_after channel thresholds room
  refine ⟨named.asked, fun p selects => ?_⟩
  rw [← isSome_selector?] at selects
  obtain ⟨layer, selector⟩ := Option.isSome_iff_exists.1 selects
  exact ⟨layer, selector, named.engaged layer (engages_of_selector? selector)⟩

/-- The layer of order one is about to be forwarded, and a packet of it arrives. -/
def heraldedSample : List Move :=
  [.packet (.sample 200 0), .operation (.configure (some (.toOrder ⟨1⟩ false))),
    .operation (.configure (some (.toOrder ⟨0⟩ false))), .operation (.add (.numbered 1)),
    .operation (.add (.numbered 0))]

/-- The next packet of the layer is selected by it, and it was announced. -/
theorem announced_while_bridging :
    (∀ i, (Scene.opening default (.fixed 5)).vacated i heraldedSample < 2 ^ 32 - 1) ∧
      ((Scene.opening default (.fixed 5)).after perform heraldedSample).session.selector?
        (.sample 200 1) = some 1 ∧
      ((Scene.opening default (.fixed 5)).after perform heraldedSample).session.heralded 1 =
        true := by
  have room := (Scene.opening default (.fixed 5)).room_of_length
    (show heraldedSample.length < greatestGeneration by decide)
  have selector : ((Scene.opening default (.fixed 5)).after perform
      heraldedSample).session.selector? (.sample 200 1) = some 1 := by decide +kernel
  have loud : (Scene.opening default (.fixed 5)).hushed 1 heraldedSample = false := by
    decide +kernel
  obtain ⟨-, selected⟩ := selected_layer_was_announced default (.fixed 5) heraldedSample room
  obtain ⟨layer, found, named⟩ := selected (.sample 200 1) (by
    rw [← isSome_selector?, selector]
    rfl)
  obtain rfl : 1 = layer := Option.some_inj.1 (selector.symm.trans found)
  refine ⟨room, selector, ?_⟩
  obtain heralded | hushed := named
  · exact heralded
  · simp [loud] at hushed

/-- While the layer of order two overrides the decision, the one of order one becomes the next one;
then the override is lifted. -/
def overriddenSample : List Move :=
  [.operation (.configureOverride (some (.ofTarget .clear))),
    .operation (.configure (some { nextOrder := some ⟨1⟩ })),
    .operation (.configureOverride (some (.ofTarget (.layer ⟨2⟩)))),
    .operation (.receiveLow false), .operation (.add (.numbered 2)),
    .operation (.add (.numbered 1)), .operation (.add (.numbered 0))]

/-- **A layer may be forwarded that was not announced**: the next one that got its role while there
was an override, and one that comes to a role because generations started over. -/
theorem forwarded_without_a_word :
    (let s := ((Scene.opening default (.fixed 5)).after perform overriddenSample).session
     (s.accept quiet (.sample 200 0)).1 = true ∧ s.selector? (.sample 200 0) = some 1 ∧
      s.heralded 1 = false) ∧
      ∃ past, (∀ r, Move.operation (.configureOverride r) ∉ past) ∧
        let s := ((Scene.opening default (.fixed 5)).after perform past).session
        s.selector? (.sample 300 0) = some 2 ∧ s.heralded 2 = false := by
  refine ⟨by decide +kernel, ?_⟩
  obtain ⟨k, turns⟩ : ∃ k, k + 1 = greatestGeneration := ⟨2 ^ 32 - 2, by decide⟩
  refine ⟨superseding k, not_mem_superseding k, ?_⟩
  have facts := superseded turns
  generalize ((Scene.opening default (.fixed 5)).after perform (superseding k)).session = s
    at facts ⊢
  obtain ⟨full, layers, current, -, override, deeds⟩ := facts
  have holder : s.holder? .current = some 2 := by
    rw [holder?, Roles.holder?, current]
    exact full.resolve 0
  have free : s.isOverridden = false := by
    rw [isOverridden, holder?, Roles.holder?, override]
    rfl
  have owned : (s.lineup.layer 2).owns (.sample 300 0) = true := by
    rw [Lineup.layer, layers]
    decide
  have claims : s.claimant? .current (.sample 300 0) = some 2 := by
    rw [claimant?, holder, Option.filter_some, owned]
    rfl
  constructor
  · rw [selector?, free, claims]
    rfl
  · rw [heralded, deeds]
    rfl

end Simulcast.Session
