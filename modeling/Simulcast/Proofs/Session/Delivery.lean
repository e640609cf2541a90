import Simulcast.Proofs.Session.Deeds

/-!
# Delivery does not matter to forwarding

Announcements are handed over, and whether they arrive is counted and recorded; the engine does not
look at it again. `bare` is a session without the endpoints, the journal and what became of the
announcements. Every part of the engine is `Deaf`: in sessions that are bare the same it decides the
same, and leaves them bare the same. So two runs in which the same is done to the engine and to the
layers, but in which the endpoints fail and leave as they like, come to the same decisions, roles
and keyframes (`delivery_does_not_matter`).
-/

namespace Simulcast

namespace Switching.Tally

/-- The announcements that were handed over, whatever became of them. -/
def handedOver (t : Tally) : UInt64 := t.sent + t.skipped + t.failed

/-- The counts without what became of the announcements. -/
def bare (t : Tally) : Tally := { t with sent := t.handedOver, skipped := 0, failed := 0 }

/-- Whatever becomes of an announcement, one more was handed over. -/
theorem bare_announcement (d : Announcement.Delivery) (t : Tally) :
    (t.announcement d).bare = { t.bare with sent := t.bare.sent + 1 } := by
  cases d with
  | sent payload =>
    simp only [announcement, bare, handedOver, mk.injEq, true_and, and_true]
    ac_rfl
  | failed payload cause =>
    simp only [announcement, bare, handedOver, mk.injEq, true_and, and_true]
    ac_rfl
  | skipped =>
    simp only [announcement, bare, handedOver, mk.injEq, true_and, and_true]
    ac_rfl

end Switching.Tally

namespace Session

open Switching

variable {s t : Session}

/-! ### Sessions without their endpoints -/

/-- What happened, without what became of it if it is an announcement. -/
def Happening.bare : Happening → Happening
  | .announced kind layer _ => .announced kind layer .skipped
  | h => h

/-- The session without the endpoints, the journal and what became of the announcements. -/
def bare (s : Session) : Session :=
  { s with
    channel := default
    tally := s.tally.bare
    happenings := s.happenings.map Happening.bare
    journal := [] }

theorem lineup_of_bare (h : s.bare = t.bare) : s.lineup = t.lineup := (congrArg Session.lineup h :)

theorem roles_of_bare (h : s.bare = t.bare) : s.roles = t.roles := (congrArg Session.roles h :)

theorem seenNext_of_bare (h : s.bare = t.bare) : s.seenNext = t.seenNext :=
  (congrArg Session.seenNext h :)

theorem minNextSeen_of_bare (h : s.bare = t.bare) : s.minNextSeen = t.minNextSeen :=
  (congrArg Session.minNextSeen h :)

theorem initialized_of_bare (h : s.bare = t.bare) : s.initialized = t.initialized :=
  (congrArg Session.initialized h :)

theorem ledger_of_bare (h : s.bare = t.bare) : s.ledger = t.ledger := (congrArg Session.ledger h :)

theorem holder?_of_bare (h : s.bare = t.bare) (role : Role) : s.holder? role = t.holder? role :=
  holder?_congr (lineup_of_bare h) (by rw [roles_of_bare h])

theorem isOverridden_of_bare (h : s.bare = t.bare) : s.isOverridden = t.isOverridden :=
  isOverridden_congr (lineup_of_bare h) (by rw [roles_of_bare h])

/-- What was done does not depend on what became of it. -/
theorem deeds_bare (s : Session) : s.bare.deeds = s.deeds := by
  rw [deeds, bare, List.filterMap_map]
  congr 1
  funext h
  cases h <;> rfl

theorem deeds_of_bare (h : s.bare = t.bare) : s.deeds = t.deeds := by
  rw [← deeds_bare s, h, deeds_bare]

/-- An announcement is handed over, whatever becomes of it. -/
theorem bare_announce (kind : Announcement.Kind) (layer : Nat) (s : Session) :
    (s.announce kind layer).bare =
      { s.bare with
        happenings := .announced kind layer .skipped :: s.bare.happenings
        tally := { s.bare.tally with sent := s.bare.tally.sent + 1 } } := by
  have counted := s.tally.bare_announcement
    (s.channel.announceLayer kind (s.lineup.layer layer)).delivery
  exact congrArg (fun tally => { s.bare with
    happenings := .announced kind layer .skipped :: s.bare.happenings
    tally := tally }) counted

/-! ### Steps that do not listen -/

/-- The step leaves sessions bare the same that were. -/
def Deaf (f : Session → Session) : Prop := ∀ ⦃s t⦄, s.bare = t.bare → (f s).bare = (f t).bare

/-- In sessions that are bare the same the step comes to the same result, and leaves them so. -/
def DeafWith {α : Type} (f : Session → α × Session) : Prop :=
  ∀ ⦃s t⦄, s.bare = t.bare → (f s).1 = (f t).1 ∧ (f s).2.bare = (f t).2.bare

namespace Deaf

/-! ### Roles, count and records -/

theorem note (e : Journal.Event) : Deaf (·.note e) := fun _ _ h => h

theorem setThreshold (r : Request) : Deaf (·.setThreshold r) := fun _ _ h =>
  congrArg (Session.setThreshold r) h

theorem assign (role : Role) (hd : Option Handle) : Deaf (·.assign role hd) := fun _ _ h =>
  congrArg (Session.assign role hd) h

theorem dropNext : Deaf dropNext := fun _ _ h => congrArg Session.dropNext h

theorem makeCurrent (hd : Handle) (promoted : Bool) : Deaf (·.makeCurrent hd promoted) :=
  fun _ _ h => congrArg (Session.makeCurrent hd promoted) h

theorem makeNext (hd : Handle) : Deaf (·.makeNext hd) := fun _ _ h =>
  congrArg (Session.makeNext hd) h

theorem countNext : Deaf countNext := fun _ _ h => congrArg Session.countNext h

theorem record (p : Packet) (accepted trickled : Bool) : Deaf (·.record p accepted trickled) :=
  fun _ _ h => congrArg (fun s => { s with tally := s.tally.packet accepted trickled }) h

theorem alterLineup (f : Lineup → Lineup) : Deaf (·.alterLineup f) := fun _ _ h =>
  congrArg (Session.alterLineup f) h

/-! ### Effects -/

theorem apply (e : Effect) : Deaf (·.apply e) := by
  intro s t h
  cases e with
  | keyframe layer =>
    exact congrArg (fun s : Session => { s with
      happenings := .keyframe layer :: s.happenings
      tally := s.tally.keyframe }) h
  | announcement kind layer =>
    show (s.announce kind layer).bare = (t.announce kind layer).bare
    rw [bare_announce, bare_announce, h]

theorem commit (es : List Effect) : Deaf fun s => Session.commit (es, s) := by
  intro s t h
  induction es generalizing s t with
  | nil => exact h
  | cons e es ih => exact ih (apply e h)

end Deaf

/-- A change that is the same has the same effects. -/
theorem DeafWith.commit {f : Session → List Effect × Session} (hf : DeafWith f) :
    Deaf fun s => Session.commit (f s) := by
  intro s t h
  obtain ⟨effects, after⟩ := hf h
  have carried := Deaf.commit (f s).1 after
  show (Session.commit ((f s).1, (f s).2)).bare = (Session.commit ((f t).1, (f t).2)).bare
  rw [← effects]
  exact carried

/-! ### Switching -/

theorem needsKeyframe_of_bare (r : Request) (hd : Handle) (h : s.bare = t.bare) :
    s.needsKeyframe r hd = t.needsKeyframe r hd := by
  rw [needsKeyframe, needsKeyframe, roles_of_bare h, isOverridden_of_bare h]

theorem isImmediate_of_bare (r : Request) (h : s.bare = t.bare) :
    s.isImmediate r = t.isImmediate r := by
  rw [isImmediate, isImmediate, holder?_of_bare h, minNextSeen_of_bare h]

theorem announcementUnlessOverridden_of_bare (kind : Announcement.Kind) (layer : Nat)
    (h : s.bare = t.bare) :
    s.announcementUnlessOverridden kind layer = t.announcementUnlessOverridden kind layer := by
  rw [announcementUnlessOverridden, announcementUnlessOverridden, isOverridden_of_bare h]

namespace DeafWith

theorem switchTo (r : Request) (o : Layer.Order) (hd : Handle) (layer : Nat) :
    DeafWith (·.switchTo r o hd layer) := by
  intro s t h
  simp only [switchTo_fst, switchTo_snd, needsKeyframe_of_bare r hd h, isImmediate_of_bare r h,
    announcementUnlessOverridden_of_bare _ layer h, true_and]
  split
  · exact Deaf.makeCurrent hd false h
  · exact Deaf.makeNext hd h

theorem switchToOrder (r : Request) (o : Layer.Order) : DeafWith (·.switchToOrder r o) := by
  intro s t h
  simp only [Session.switchToOrder, lineup_of_bare h, roles_of_bare h]
  split
  · exact ⟨rfl, h⟩
  · cases t.lineup.lookup o with
    | none => exact ⟨rfl, h⟩
    | some found =>
      simp only
      split
      · exact ⟨rfl, h⟩
      · split
        · exact ⟨rfl, Deaf.dropNext h⟩
        · exact switchTo r o found.1 found.2 h

theorem transition (r : Request) : DeafWith (·.transition r) := by
  intro s t h
  have threshold := Deaf.setThreshold r h
  unfold Session.transition
  cases r.nextOrder with
  | none => exact ⟨rfl, threshold⟩
  | some o => exact switchToOrder r o threshold

theorem abandonNext : DeafWith abandonNext := by
  intro s t h
  simp only [Session.abandonNext, holder?_of_bare h, lineup_of_bare h]
  split
  · exact ⟨rfl, h⟩
  · split
    · exact ⟨rfl, h⟩
    · exact ⟨rfl, Deaf.dropNext h⟩

theorem clearOverride : DeafWith clearOverride := by
  intro s t h
  have cleared := Deaf.assign .override none h
  simp only [Session.clearOverride, holder?_note, holder?_of_bare cleared]
  split
  · exact ⟨rfl, cleared⟩
  · exact ⟨rfl, cleared⟩

theorem overrideWith (o : Layer.Order) : DeafWith (·.overrideWith o) := by
  intro s t h
  simp only [Session.overrideWith, lineup_of_bare h]
  cases t.lineup.lookup o with
  | none => exact ⟨rfl, h⟩
  | some found =>
    have forced := Deaf.assign .override (some found.1) h
    exact ⟨rfl, forced⟩

/-- Whether the next layer takes over depends on the packets seen and not on what was said. -/
theorem promote (hd : Handle) : DeafWith (·.promote hd) := by
  intro s t h
  have counted := Deaf.countNext h
  simp only [Session.promote, roles_of_bare h, lineup_of_bare h]
  split
  · exact ⟨rfl, h⟩
  · split
    · exact ⟨rfl, h⟩
    · have lineup : s.countNext.lineup = t.countNext.lineup := lineup_of_bare counted
      simp only [seenNext_of_bare counted, minNextSeen_of_bare counted, lineup,
        announcementUnlessOverridden_of_bare _ _ counted]
      split
      · exact ⟨rfl, Deaf.makeCurrent hd true counted⟩
      · exact ⟨rfl, counted⟩

end DeafWith

/-! ### Operations -/

namespace Deaf

theorem configure (r : Option Request) : Deaf (·.configure r) := by
  cases r with
  | none => exact note .requestMissing
  | some r => exact (DeafWith.transition r).commit

theorem receiveHigh : Deaf receiveHigh := by
  intro s t h
  simp only [Session.receiveHigh, lineup_of_bare h]
  split
  · exact h
  · exact configure _ h

theorem receiveLow (urgent : Bool) : Deaf (·.receiveLow urgent) := fun _ _ h =>
  DeafWith.abandonNext.commit (configure _ h)

theorem configureOverride (r : Option Request) : Deaf (·.configureOverride r) := by
  intro s t h
  unfold Session.configureOverride
  cases r.bind (·.target) with
  | none => exact h
  | some target =>
    simp only [setOverride, lineup_of_bare h]
    split
    · exact h
    · cases target with
      | clear => exact DeafWith.clearOverride.commit h
      | layer o => exact (DeafWith.overrideWith o).commit h

theorem readThreshold : Deaf readThreshold := by
  intro s t h
  have same := initialized_of_bare h
  cases hi : t.initialized with
  | true =>
    rw [readThreshold_of_initialized hi, readThreshold_of_initialized (same.trans hi)]
    exact h
  | false =>
    rw [readThreshold_of_not_initialized hi, readThreshold_of_not_initialized (same.trans hi)]
    exact congrArg (fun s : Session => { s with
      minNextSeen := (s.thresholds.lookup minNextSeenKey defaultMinNextSeen).value
      initialized := true
      happenings := .thresholdRead minNextSeenKey defaultMinNextSeen :: s.happenings }) h

theorem forget (source : Source) : Deaf (·.forget source) := by
  intro s t h
  simp only [Session.forget, ledger_of_bare h]
  split
  · exact congrArg (fun s : Session => { s with ledger := t.ledger.erase source }) h
  · exact h

theorem remove (hd : Handle) : Deaf fun s => (s.remove hd).2 := by
  have bare : ∀ s : Session,
      (s.remove hd).2.bare = (s.alterLineup fun u => (u.remove hd).2).bare := by
    intro s
    unfold Session.remove
    split <;> simp_all [Session.bare, Session.alterLineup, Session.note]
  intro s t h
  show (s.remove hd).2.bare = (t.remove hd).2.bare
  rw [bare, bare]
  exact alterLineup _ h

/-- **No operation listens to the endpoints.** -/
theorem perform (o : Operation) : Deaf (·.perform o) := by
  cases o with
  | configure r => exact configure r
  | configureOverride r => exact configureOverride r
  | receiveHigh => exact receiveHigh
  | receiveLow urgent => exact receiveLow urgent
  | readThreshold => exact readThreshold
  | forget source => exact forget source
  | add l => exact alterLineup fun u => (u.add l).2
  | insert layer => exact alterLineup fun u => (u.insert layer).2
  | remove hd => exact remove hd
  | clear => exact alterLineup .clear
  | alter layer l => exact alterLineup (.alter layer fun _ => l)
  | alterReceiver e => exact fun _ _ h => h
  | alterSender e => exact fun _ _ h => h

end Deaf

/-! ### Decisions -/

/-- Whether a packet trickles, and the counters afterwards, depend on the counters before. -/
theorem trickle_eq (source : Source) (s : Session) :
    (s.trickle source).1 = (((s.ledger.ensure source Trickle.cycle).step source).get? source).any
        (fun a => a.counter.value < Trickle.admitted) ∧
      (s.trickle source).2.bare =
        { s.bare with ledger := (s.ledger.ensure source Trickle.cycle).step source } := by
  unfold trickle
  simp only
  split <;> exact ⟨rfl, rfl⟩

namespace DeafWith

theorem trickle (source : Source) : DeafWith (·.trickle source) := by
  intro s t h
  obtain ⟨passes, after⟩ := trickle_eq source s
  obtain ⟨passes', after'⟩ := trickle_eq source t
  rw [passes, passes', after, after', ledger_of_bare h, h]
  exact ⟨rfl, rfl⟩

theorem conclude (p : Packet) (selected : Bool) : DeafWith (·.conclude p selected) := by
  intro s t h
  unfold Session.conclude
  split
  · exact ⟨rfl, Deaf.record p true false h⟩
  · obtain ⟨passes, after⟩ := trickle p.source h
    refine ⟨passes, ?_⟩
    simp only [passes]
    exact Deaf.record p _ _ after

theorem settle (p : Packet) (selected : Bool) : DeafWith (·.settle p selected) := by
  intro s t h
  obtain ⟨accepted, after⟩ := conclude p selected h
  exact ⟨congrArg (Progress.decided p) accepted, after⟩

theorem toOverride (p : Packet) (selected : Bool) : DeafWith (·.toOverride p selected) := by
  intro s t h
  simp only [Session.toOverride, holder?_of_bare h]
  split
  · exact ⟨rfl, h⟩
  · exact settle p selected h

theorem toNext (p : Packet) : DeafWith (·.toNext p) := by
  intro s t h
  simp only [Session.toNext, roles_of_bare h, lineup_of_bare h]
  split
  · exact toOverride p false h
  · split
    · exact toOverride p false h
    · exact ⟨rfl, h⟩

theorem begin (p : Packet) : DeafWith (·.begin p) := by
  intro s t h
  have read := Deaf.readThreshold h
  simp only [Session.begin, toCurrent, holder?_of_bare read]
  split
  · exact ⟨rfl, read⟩
  · exact toNext p read

/-- **No part of a decision listens to the endpoints.** -/
theorem answer (q : Inquiry) : DeafWith (·.answer q) := by
  intro s t h
  cases q with
  | current p layer =>
    simp only [Session.answer, lineup_of_bare h]
    split
    · exact toOverride p true h
    · exact toNext p h
  | next p hd layer =>
    simp only [Session.answer, lineup_of_bare h]
    split
    · exact toOverride p true ((promote hd).commit h)
    · exact toOverride p false h
  | override p layer =>
    simp only [Session.answer, lineup_of_bare h]
    exact settle p _ h

end DeafWith

/-! ### Scenes -/

/-- Whether a move is about an endpoint and nothing else. -/
def Move.isRemote : Move → Bool
  | .operation (.alterReceiver _) => true
  | .operation (.alterSender _) => true
  | _ => false

namespace Scene

/-- The scenes differ at most in the endpoints, the journal and what became of announcements. -/
structure Agree (sc ec : Scene) : Prop where
  /-- The same questions are open. -/
  asked : sc.asked = ec.asked
  /-- The same decisions were made. -/
  decisions : sc.decisions = ec.decisions
  /-- The sessions are bare the same. -/
  session : sc.session.bare = ec.session.bare

theorem Agree.refl (sc : Scene) : Agree sc sc := ⟨rfl, rfl, rfl⟩

theorem Agree.symm {sc ec : Scene} (agree : Agree sc ec) : Agree ec sc :=
  ⟨agree.asked.symm, agree.decisions.symm, agree.session.symm⟩

theorem Agree.trans {sc ec fc : Scene} (agree : Agree sc ec) (agree' : Agree ec fc) :
    Agree sc fc :=
  ⟨agree.asked.trans agree'.asked, agree.decisions.trans agree'.decisions,
    agree.session.trans agree'.session⟩

variable {sc ec : Scene}

theorem Agree.proceed (agree : Agree sc ec) {c d : Progress × Session} (progress : c.1 = d.1)
    (session : c.2.bare = d.2.bare) : Agree (sc.proceed c) (ec.proceed d) := by
  obtain ⟨part, s⟩ := c
  obtain ⟨part', t⟩ := d
  obtain rfl : part = part' := progress
  cases part with
  | asking q => exact ⟨congrArg (q :: ·) agree.asked, agree.decisions, session⟩
  | decided p accepted =>
    exact ⟨agree.asked, congrArg ((p, accepted) :: ·) agree.decisions, session⟩

/-- The same move keeps scenes in agreement. -/
theorem Agree.play (agree : Agree sc ec) (m : Move) :
    Agree (sc.play perform m) (ec.play perform m) := by
  cases m with
  | operation o => exact ⟨agree.asked, agree.decisions, Deaf.perform o agree.session⟩
  | packet p =>
    obtain ⟨progress, session⟩ := DeafWith.begin p agree.session
    exact agree.proceed progress session
  | answer =>
    simp only [Scene.play, agree.asked]
    cases ec.asked with
    | nil => exact agree
    | cons q others =>
      obtain ⟨progress, session⟩ := DeafWith.answer q agree.session
      have rest : Agree { sc with asked := others } { ec with asked := others } :=
        ⟨rfl, agree.decisions, agree.session⟩
      exact rest.proceed progress session

/-- A move that is about an endpoint alone can be left out. -/
theorem agree_of_isRemote {m : Move} (remote : m.isRemote = true) (sc : Scene) :
    Agree (sc.play perform m) sc :=
  match m, remote with
  | .operation (.alterReceiver _), _ => ⟨rfl, rfl, rfl⟩
  | .operation (.alterSender _), _ => ⟨rfl, rfl, rfl⟩

/-- Leaving all of them out of a run leads to a scene that agrees with the one where it led. -/
theorem agree_filter (agree : Agree sc ec) (past : List Move) :
    Agree (sc.after perform past) (ec.after perform (past.filter (!·.isRemote))) := by
  induction past with
  | nil => exact agree
  | cons m past ih =>
    cases remote : m.isRemote with
    | true =>
      rw [List.filter_cons_of_neg (by simp [remote])]
      exact (agree_of_isRemote remote _).trans ih
    | false =>
      rw [List.filter_cons_of_pos (by simp [remote])]
      exact ih.play m

end Scene

/-- **Delivery does not matter to forwarding.** Take any two runs in which the same is done to the
engine and to the layers, in the same order, while the endpoints may differ in any way and at any
time: by moves of their own, and by turns that they take between two announcements of one
operation. The same packets pass and the same questions are open; the roles hold the same handles,
with the same count and threshold; the same keyframes were asked for and the same announcements
handed over, in the same order; and the statistics are the same but for what became of the
announcements, of which as many were handed over. -/
theorem delivery_does_not_matter (channel channel' : Announcement.Channel)
    (thresholds : Thresholds) (past past' : List Move)
    (same : past.filter (!·.isRemote) = past'.filter (!·.isRemote)) :
    let sc := (Scene.opening channel thresholds).after perform past
    let ec := (Scene.opening channel' thresholds).after perform past'
    sc.decisions = ec.decisions ∧
      sc.asked = ec.asked ∧
      sc.session.roles = ec.session.roles ∧
      sc.session.seenNext = ec.session.seenNext ∧
      sc.session.minNextSeen = ec.session.minNextSeen ∧
      sc.session.initialized = ec.session.initialized ∧
      sc.session.deeds = ec.session.deeds ∧
      { sc.session.tally with sent := 0, skipped := 0, failed := 0 } =
        { ec.session.tally with sent := 0, skipped := 0, failed := 0 } ∧
      sc.session.tally.sent + sc.session.tally.skipped + sc.session.tally.failed =
        ec.session.tally.sent + ec.session.tally.skipped + ec.session.tally.failed := by
  intro sc ec
  have start : Scene.Agree (.opening channel thresholds) (.opening channel' thresholds) :=
    ⟨rfl, rfl, rfl⟩
  have left : Scene.Agree sc _ := Scene.agree_filter start past
  have right : Scene.Agree ec _ := Scene.agree_filter (.refl _) past'
  rw [same] at left
  have agree : Scene.Agree sc ec := left.trans right.symm
  have session := agree.session
  have tally : sc.session.tally.bare = ec.session.tally.bare :=
    (congrArg Session.tally session :)
  exact ⟨agree.decisions, agree.asked, roles_of_bare session, seenNext_of_bare session,
    minNextSeen_of_bare session, initialized_of_bare session, deeds_of_bare session,
    (congrArg (fun t : Tally => { t with sent := 0 }) tally :), (congrArg Tally.sent tally :)⟩

/-- The layer of order zero is not streaming when the engine goes down to it: it becomes the next
one and is given up at once, so that one operation leads to two announcements. -/
def steadySample : List Move :=
  [.answer, .packet (.sample 200 0), .operation (.receiveLow false),
    .operation (.alter 0 { Layer.numbered 0 with streaming := false }),
    .operation (.configure (some (.toOrder ⟨1⟩ false))), .operation (.add (.numbered 1)),
    .operation (.add (.numbered 0))]

/-- The same, while the channel of the receiver is closed at first and the sender leaves later. -/
def fitfulSample : List Move :=
  [.answer, .packet (.sample 200 0),
    .operation (.alterSender { Endpoint.named "sender" with present := false }),
    .operation (.receiveLow false),
    .operation (.alter 0 { Layer.numbered 0 with streaming := false }),
    .operation (.configure (some (.toOrder ⟨1⟩ false))),
    .operation (.alterReceiver { Endpoint.named "receiver" with failure := some .channelClosed }),
    .operation (.add (.numbered 1)), .operation (.add (.numbered 0))]

/-- A channel whose receiver comes back after one announcement and leaves after another. -/
def fitfulChannel : Announcement.Channel where
  sender := .named "sender"
  receiver := .named "receiver"
  turns := [{}, { receiverPresent := false }]

/-- Three announcements arrive in the one run, and one of them in the other; the packet passes in
both, and the same was done. -/
theorem delivered_or_not :
    let sc := (Scene.opening default (.fixed 5)).after perform steadySample
    let ec := (Scene.opening fitfulChannel (.fixed 5)).after perform fitfulSample
    steadySample.filter (!·.isRemote) = fitfulSample.filter (!·.isRemote) ∧
      sc.decisions = ec.decisions ∧ sc.session.roles = ec.session.roles ∧
      sc.session.deeds = ec.session.deeds ∧ ec.decisions = [(.sample 200 0, true)] ∧
      ec.session.deeds = [.announcement .stopped 0, .announcement .changing 0, .keyframe 0,
        .announcement .changed 1, .keyframe 1] ∧
      sc.session.tally.sent = 3 ∧ ec.session.tally.sent = 1 ∧ ec.session.tally.failed = 1 ∧
      ec.session.tally.skipped = 1 := by
  intro sc ec
  have same : steadySample.filter (!·.isRemote) = fitfulSample.filter (!·.isRemote) := rfl
  obtain ⟨decisions, -, roles, -, -, -, deeds, -⟩ := delivery_does_not_matter default
    fitfulChannel (.fixed 5) steadySample fitfulSample same
  exact ⟨same, decisions, roles, deeds, by decide +kernel, by decide +kernel, by decide +kernel,
    by decide +kernel, by decide +kernel, by decide +kernel⟩

end Session

end Simulcast
