import Simulcast.Proofs.Session.Fates
import Simulcast.Proofs.Session.Stance

/-!
# The statistics are exact

An engine counts what it decides and does. `statistics_exact` says that after any moves of a scene
each count is how often the thing happened, as far as 64 bits can tell. Decisions are counted by the
list of decisions that a scene keeps, keyframes by what was done, and announcements by what becomes
of them, which is up to the endpoints (`Scene.fates`); that the current role came to hold another
handle, and that a packet passed which no layer selected, is read off each move (`Scene.switches`,
`Scene.trickles`) and counted along the run (`Scene.times`).

A change of the current role is counted where it is made. That every such change is one, and no move
makes two, rests on the rule that a next handle comes beside another one.
-/

namespace Simulcast.Session

open Switching

variable {s t : Session}

/-! ### What operations keep -/

/-- What holds of a session stays true whatever is done to the roles, the layers, the endpoints and
the counters, and whatever effects are carried out. -/
structure Lasting (P : Session → Prop) : Prop extends Carried P where
  /-- Reading the threshold keeps it. -/
  readThreshold : ∀ s : Session, P s → P s.readThreshold
  /-- It does not look at the layers, the endpoints, the counters and the journal. -/
  around : ∀ (s : Session) lineup channel ledger journal, P s →
    P { s with lineup := lineup, channel := channel, ledger := ledger, journal := journal }

/-- **Every operation keeps it.** -/
theorem Lasting.perform {P : Session → Prop} (lasting : Lasting P) (o : Operation) (holds : P s) :
    P (s.perform o) := by
  cases o with
  | configure r => exact lasting.configure r holds
  | configureOverride r => exact lasting.configureOverride r holds
  | receiveHigh => exact lasting.receiveHigh holds
  | receiveLow urgent => exact lasting.receiveLow urgent holds
  | readThreshold => exact lasting.readThreshold s holds
  | forget source =>
    rw [Session.perform, forget]
    split
    · exact lasting.around s _ _ _ _ holds
    · exact holds
  | add l => exact lasting.around s _ _ _ _ holds
  | insert layer => exact lasting.around s _ _ _ _ holds
  | remove h =>
    rw [Session.perform, remove]
    split <;> exact lasting.around s _ _ _ _ holds
  | clear => exact lasting.around s _ _ _ _ holds
  | alter layer l => exact lasting.around s _ _ _ _ holds
  | alterReceiver e => exact lasting.around s _ _ _ _ holds
  | alterSender e => exact lasting.around s _ _ _ _ holds

/-! ### Packets -/

/-- The counts of packets. -/
def verdicts (t : Tally) : UInt64 × UInt64 × UInt64 := (t.accepted, t.dropped, t.trickled)

/-- Whatever is done between packets, no packet is counted. -/
theorem lasting_verdicts (v : UInt64 × UInt64 × UInt64) :
    Lasting fun s => verdicts s.tally = v where
  apart _ _ _ _ _ _ _ := rfl
  apply s e same := by
    cases e with
    | keyframe layer => exact same
    | announcement kind layer =>
      simp only [apply, announce]
      cases (s.channel.announceLayer kind (s.lineup.layer layer)).delivery <;> exact same
  readThreshold s same := by
    rwa [readThreshold_eq_of (fun s => verdicts s.tally) (fun _ _ _ _ => rfl)]
  around _ _ _ _ _ same := same

/-- How far a part of a decision brought it, and which packets were counted: the packet that was
decided about, with whether layers selected it, or none. -/
inductive Ruled (selected : Bool) (s : Session) : Progress × Session → Prop
  /-- Another layer is asked first. -/
  | asks (q : Inquiry) {t : Session} (same : verdicts t.tally = verdicts s.tally) :
    Ruled selected s (.asking q, t)
  /-- The packet is decided about. -/
  | decides (p : Packet) (accepted : Bool) {t : Session}
    (counted : verdicts t.tally = verdicts (s.tally.packet accepted (accepted && !selected))) :
    Ruled selected s (.decided p accepted, t)

theorem ruled_of_proceeds {p : Packet} {selected : Bool} {c : Progress × Session}
    (proceeds : Proceeds p selected s c) : Ruled selected s c := by
  cases proceeds with
  | asks q about holds => exact .asks q rfl
  | settles => exact .decides p _ (congrArg verdicts (tally_conclude_eq p selected s))

/-- Only which packets were counted before matters. -/
theorem Ruled.of_verdicts {selected : Bool} {c : Progress × Session} (ruled : Ruled selected t c)
    (same : verdicts t.tally = verdicts s.tally) : Ruled selected s c := by
  have packet : ∀ accepted trickled, verdicts (t.tally.packet accepted trickled) =
      verdicts (s.tally.packet accepted trickled) := by
    intro accepted trickled
    simp only [verdicts, Tally.packet, Prod.mk.injEq] at same ⊢
    simp only [same, and_self]
  cases ruled with
  | asks q kept => exact .asks q (kept.trans same)
  | decides p accepted counted => exact .decides p accepted (counted.trans (packet _ _))

theorem ruled_begin (p : Packet) (s : Session) : Ruled false s (s.begin p) :=
  (ruled_of_proceeds (proceeds_begin p s)).of_verdicts
    ((lasting_verdicts (verdicts s.tally)).readThreshold s rfl)

/-- The layer that is asked last says whether layers select the packet. -/
theorem ruled_answer (q : Inquiry) (s : Session) : Ruled (s.owned q) s (s.answer q) := by
  refine (ruled_of_proceeds (proceeds_answer q s)).of_verdicts ?_
  rcases credited_eq q s with same | ⟨h, counted⟩
  · rw [same]
  · rw [counted]
    exact (lasting_verdicts (verdicts s.tally)).promote h rfl

/-! ### The current role -/

/-- What the current role holds, and how many changes of it were counted. -/
def post (s : Session) : Option Handle × UInt64 × UInt64 :=
  (s.roles.handle? .current, s.tally.switches, s.tally.promotions)

theorem post_of_course (same : t.course = s.course) : t.post = s.post := by
  obtain ⟨switches, promotions⟩ := switches_of_course same
  rw [post, post, current_of_course same, switches, promotions]

/-- The step leaves the current role alone, or gives it another handle and counts that, as a
promotion or not. -/
def Moves (promoted : Bool) (s t : Session) : Prop :=
  t.post = s.post ∨ ∃ h, s.roles.handle? .current ≠ some h ∧
    t.post = (some h, s.tally.switches + 1,
      if promoted then s.tally.promotions + 1 else s.tally.promotions)

theorem moves_of_course {promoted : Bool} (same : t.course = s.course) : Moves promoted s t :=
  .inl (post_of_course same)

theorem post_commit (c : List Effect × Session) : (commit c).post = c.2.post :=
  post_of_course (course_commit c)

theorem post_dropNext (s : Session) : s.dropNext.post = s.post := by
  rw [post, handle?_dropNext, post]
  rfl

theorem post_makeCurrent (h : Handle) (promoted : Bool) (s : Session) :
    (s.makeCurrent h promoted).post = (some h, s.tally.switches + 1,
      if promoted then s.tally.promotions + 1 else s.tally.promotions) := by
  rw [post, handle?_makeCurrent]
  rfl

theorem post_makeNext (h : Handle) (s : Session) : (s.makeNext h).post = s.post := by
  rw [post, handle?_makeNext, post]
  rfl

theorem moves_configure (r : Option Request) (s : Session) : Moves false s (s.configure r) := by
  cases r with
  | none => exact .inl rfl
  | some r =>
    have followed := followed_transition r s
    rw [Moves, configure, post_commit, show s.post = (s.setThreshold r).post from rfl]
    generalize s.transition r = c at followed ⊢
    cases followed with
    | idle => exact .inl rfl
    | refused e => exact .inl rfl
    | stays order found held => exact .inl (post_dropNext _)
    | switches order found other =>
      rw [switchTo_snd]
      split
      · exact .inr ⟨_, other, post_makeCurrent _ false _⟩
      · exact .inl (post_makeNext _ _)

theorem post_abandonNext (s : Session) : (commit s.abandonNext).post = s.post := by
  rw [post_commit]
  obtain idle | ⟨layer, e, gone⟩ := abandonNext_eq s
  · rw [idle]
  · rw [gone]
    exact post_dropNext _

theorem post_readThreshold (s : Session) : s.readThreshold.post = s.post :=
  readThreshold_eq_of post (fun _ _ _ _ => rfl) s

theorem moves_perform (s : Session) (o : Operation) : Moves false s (s.perform o) := by
  cases o with
  | configure r => exact moves_configure r s
  | configureOverride r => exact moves_of_course (course_configureOverride r s)
  | receiveHigh =>
    rw [perform, receiveHigh]
    split
    · exact .inl rfl
    · exact moves_configure _ s
  | receiveLow urgent =>
    rw [Moves, perform, receiveLow, post_abandonNext]
    exact moves_configure _ s
  | readThreshold => exact .inl (post_readThreshold s)
  | forget source => exact moves_of_course (course_forget source s)
  | add l => exact .inl rfl
  | insert layer => exact .inl rfl
  | remove h =>
    have same := course_remove h s
    have current : (s.remove h).2.roles.handle? .current = s.roles.handle? .current :=
      congrArg Course.current same
    have switches : (s.remove h).2.tally.switches = s.tally.switches :=
      congrArg Course.switches same
    have promotions : (s.remove h).2.tally.promotions = s.tally.promotions :=
      congrArg Course.promotions same
    exact .inl (Prod.ext current (Prod.ext switches promotions))
  | clear => exact .inl rfl
  | alter layer l => exact .inl rfl
  | alterReceiver e => exact .inl rfl
  | alterSender e => exact .inl rfl

theorem steady_post : Steady post :=
  ⟨post_readThreshold, fun p selected s => post_of_course (course_conclude p selected s)⟩

/-- A next layer that takes over was not the current one. -/
theorem moves_promote (sound : s.stance.Sound) (h : Handle) :
    Moves true s (commit (s.promote h)) := by
  have heeded := heeded_promote h s
  rw [Moves, post_commit]
  generalize s.promote h = c at heeded ⊢
  cases heeded with
  | vain => exact .inl rfl
  | counted => exact .inl rfl
  | takesOver pending there e =>
    obtain ⟨h', current, other⟩ := sound.beside h pending
    have other : s.roles.handle? .current ≠ some h := fun same =>
      other (Option.some_inj.1 (current.symm.trans same))
    exact .inr ⟨h, other, post_makeCurrent h true _⟩

theorem moves_answer (sound : s.stance.Sound) (q : Inquiry) : Moves true s (s.answer q).2 := by
  rw [Moves, steady_post.answer_eq_credited]
  rcases credited_eq q s with same | ⟨h, counted⟩
  · rw [same]
    exact .inl rfl
  · rw [counted]
    exact moves_promote sound h

/-! ### Moves -/

/-- Whether a move is something that is done between packets, and no part of a decision. -/
def Move.isOperation : Move → Bool
  | .operation _ => true
  | _ => false

namespace Scene

/-- The number of packets that passed. -/
def passed (sc : Scene) : Nat := sc.decisions.countP (·.2)

/-- The number of packets that did not. -/
def refused (sc : Scene) : Nat := sc.decisions.countP (!·.2)

/-- Whether a layer selects the packet that a move is about: the one that was asked last owns it. -/
def selects (sc : Scene) : Move → Bool
  | .answer =>
    match sc.asked with
    | [] => false
    | q :: _ => sc.session.owned q
  | _ => false

/-- Whether a packet passes by a move that no layer selects. -/
def trickles (sc : Scene) (m : Move) : Bool :=
  decide (sc.passed < (sc.play perform m).passed) && !sc.selects m

/-- Whether the current role holds another handle after a move. -/
def switches (sc : Scene) (m : Move) : Bool :=
  (sc.play perform m).session.roles.handle? .current != sc.session.roles.handle? .current

/-- Whether it does because the engine, deciding about a packet, found that enough were seen. -/
def promotes (sc : Scene) (m : Move) : Bool := !m.isOperation && sc.switches m

/-- How often a move was as `event` says, in the scene before it. -/
def times (event : Scene → Move → Bool) (sc : Scene) : List Move → Nat
  | [] => 0
  | m :: past => sc.times event past + if event (sc.after perform past) m then 1 else 0

/-- What a move comes to for the packets: none is decided about and none counted, or one is. -/
inductive Rules (sc : Scene) (selected : Bool) (ec : Scene) : Prop
  /-- No packet is decided about. -/
  | none (decisions : ec.decisions = sc.decisions)
    (same : verdicts ec.session.tally = verdicts sc.session.tally)
  /-- A packet is decided about. -/
  | one (p : Packet) (accepted : Bool) (decisions : ec.decisions = (p, accepted) :: sc.decisions)
    (counted : verdicts ec.session.tally =
      verdicts (sc.session.tally.packet accepted (accepted && !selected)))

theorem rules_proceed (sc : Scene) {selected : Bool} {c : Progress × Session}
    (ruled : Ruled selected sc.session c) : Rules sc selected (sc.proceed c) := by
  cases ruled with
  | asks q same => exact .none rfl same
  | decides p accepted counted => exact .one p accepted rfl counted

theorem rules_play (sc : Scene) (m : Move) : Rules sc (sc.selects m) (sc.play perform m) := by
  cases m with
  | operation o => exact .none rfl ((lasting_verdicts _).perform o rfl)
  | packet p => exact rules_proceed sc (ruled_begin p sc.session)
  | answer =>
    cases asked : sc.asked with
    | nil =>
      simp only [play, asked]
      exact .none rfl rfl
    | cons q others =>
      have rest := rules_proceed { sc with asked := others } (ruled_answer q sc.session)
      simp only [play, selects, asked]
      cases rest with
      | none decisions same => exact .none decisions same
      | one p accepted decisions counted => exact .one p accepted decisions counted

/-- Counts of packets that were exact before a move are exact after it. -/
theorem Rules.counted {sc ec : Scene} {selected : Bool} (rules : sc.Rules selected ec) {n : Nat}
    (exact : verdicts sc.session.tally = (.ofNat sc.passed, .ofNat sc.refused, .ofNat n)) :
    verdicts ec.session.tally = (.ofNat ec.passed, .ofNat ec.refused,
      .ofNat n + if decide (sc.passed < ec.passed) && !selected then 1 else 0) := by
  simp only [verdicts, Prod.mk.injEq] at exact
  obtain ⟨accepted, dropped, trickled⟩ := exact
  cases rules with
  | none decisions same =>
    rw [same]
    simp [verdicts, passed, refused, decisions, accepted, dropped, trickled]
  | one p ok decisions counted =>
    rw [counted]
    cases ok <;> cases selected <;>
      simp [verdicts, Tally.packet, passed, refused, decisions, accepted, dropped, trickled,
        UInt64.ofNat_add]

theorem ofNat_times_cons (event : Scene → Move → Bool) (sc : Scene) (m : Move)
    (past : List Move) :
    UInt64.ofNat (sc.times event (m :: past)) =
      .ofNat (sc.times event past) + if event (sc.after perform past) m then 1 else 0 := by
  rw [times, UInt64.ofNat_add]
  split <;> rfl

/-- The counts of packets are those of the decisions, and of the packets that trickled. -/
theorem verdicts_after (channel : Announcement.Channel) (thresholds : Thresholds)
    (past : List Move) :
    let opening := Scene.opening channel thresholds
    let sc := opening.after perform past
    verdicts sc.session.tally =
      (.ofNat sc.passed, .ofNat sc.refused, .ofNat (opening.times trickles past)) := by
  intro opening sc
  induction past with
  | nil => rfl
  | cons m past ih =>
    rw [ofNat_times_cons]
    exact (rules_play _ m).counted ih

end Scene

/-- A step that changes the current role counts that once. -/
theorem Moves.counted {promoted : Bool} (moves : Moves promoted s t) :
    let changed := t.roles.handle? .current != s.roles.handle? .current
    t.tally.switches = s.tally.switches + (if changed then 1 else 0) ∧
      t.tally.promotions = s.tally.promotions + (if promoted && changed then 1 else 0) := by
  intro changed
  obtain same | ⟨h, other, moved⟩ := moves
  · simp only [post, Prod.mk.injEq] at same
    simp [changed, same]
  · simp only [post, Prod.mk.injEq] at moved
    obtain ⟨current, switches, promotions⟩ := moved
    have different : changed = true := by
      rw [show changed = (t.roles.handle? .current != s.roles.handle? .current) from rfl, current]
      exact bne_iff_ne.2 (Ne.symm other)
    rw [switches, promotions, different]
    cases promoted <;> simp

theorem moves_play {sc : Scene} (sound : sc.session.stance.Sound) (m : Move) :
    Moves (!m.isOperation) sc.session (sc.play perform m).session := by
  have advance := sc.advance_play m
  generalize (sc.play perform m).session = t at advance ⊢
  cases advance with
  | performs o => exact moves_perform sc.session o
  | begins p => exact .inl (steady_post.begin p sc.session)
  | idles unasked => exact .inl rfl
  | answers asked => exact moves_answer sound _

theorem sound_after (channel : Announcement.Channel) (thresholds : Thresholds)
    (past : List Move) :
    ((Scene.opening channel thresholds).after perform past).session.stance.Sound := by
  have start : (Scene.opening channel thresholds).session.stance.Sound := by
    refine ⟨fun h next => ?_, fun _ => rfl⟩
    simp [Scene.opening, stance, fresh, handle?_unset] at next
  exact start.shifts (shifts_after _ past)

/-- The counts of switches are those of the moves by which the current role changed. -/
theorem switches_after (channel : Announcement.Channel) (thresholds : Thresholds)
    (past : List Move) :
    let opening := Scene.opening channel thresholds
    let tally := (opening.after perform past).session.tally
    tally.switches = .ofNat (opening.times Scene.switches past) ∧
      tally.promotions = .ofNat (opening.times Scene.promotes past) := by
  intro opening tally
  induction past with
  | nil => exact ⟨rfl, rfl⟩
  | cons m past ih =>
    obtain ⟨switches, promotions⟩ := ih
    obtain ⟨more, more'⟩ := (moves_play (sound_after channel thresholds past) m).counted
    rw [Scene.ofNat_times_cons, Scene.ofNat_times_cons, ← switches, ← promotions]
    exact ⟨more, more'⟩

/-! ### All counts -/

/-- **The statistics are exact.** After any moves of a scene, the newest first, and so also while
layers are asked, the counts are, as words of 64 bits: how many packets were decided about that
passed, that did not, and that passed although no layer selected them; by how many moves the current
role came to hold another handle, and by how many of them that are a part of a decision; how many
keyframes were asked for; and, of the announcements that were handed over, how many came while both
endpoints were there and the receiver took the payload, how many while it did not, and how many
while an endpoint was gone. -/
theorem statistics_exact (channel : Announcement.Channel) (thresholds : Thresholds)
    (past : List Move) :
    let opening := Scene.opening channel thresholds
    let sc := opening.after perform past
    let tally := sc.session.tally
    let deeds := sc.session.deeds
    let fates := opening.fates past
    tally.accepted = .ofNat sc.passed ∧
      tally.dropped = .ofNat sc.refused ∧
      tally.trickled = .ofNat (opening.times Scene.trickles past) ∧
      tally.switches = .ofNat (opening.times Scene.switches past) ∧
      tally.promotions = .ofNat (opening.times Scene.promotes past) ∧
      tally.keyframes = .ofNat (deeds.countP (·.isKeyframe)) ∧
      fates.length = deeds.countP (!·.isKeyframe) ∧
      tally.sent = .ofNat (fates.count .arrived) ∧
      tally.failed = .ofNat (fates.count .lost) ∧
      tally.skipped = .ofNat (fates.count .skipped) := by
  intro opening sc tally deeds fates
  have packets := Scene.verdicts_after channel thresholds past
  simp only [verdicts, Prod.mk.injEq] at packets
  obtain ⟨accepted, dropped, trickled⟩ := packets
  obtain ⟨switches, promotions⟩ := switches_after channel thresholds past
  have mail := mail_after channel thresholds past
  simp only [Session.mail, Mail.more, Mail.mk.injEq, UInt64.zero_add] at mail
  obtain ⟨-, keyframes, sent, failed, skipped⟩ := mail
  exact ⟨accepted, dropped, trickled, switches, promotions, keyframes,
    length_fates_after channel thresholds past, sent, failed, skipped⟩

/-- Of two announcements the first one arrives, and then the receiver leaves. -/
example :
    (Scene.opening { (default : Announcement.Channel) with turns := [{ receiverPresent := false }] }
      (.fixed 5)).fates
        [.operation (.configureOverride (some { target := some (.layer ⟨0⟩) })),
          .operation (.receiveLow false), .operation (.add (.numbered 0))] =
      [.skipped, .arrived] := by
  decide +kernel

end Simulcast.Session
