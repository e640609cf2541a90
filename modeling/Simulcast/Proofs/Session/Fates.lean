import Simulcast.Proofs.Session.Deeds

/-!
# What becomes of announcements

An announcement that is handed over arrives, is lost on its way, or is not sent at all, and which of
these it is depends on the endpoints alone, as they are at that moment (`Channel.fate`). They may be
altered between the moves of a scene, and take a turn of their own after each announcement, so that
the announcements of one move need not fare alike (`Channel.fates`).

The engine counts what it is told: `posted_play` says that a move of a scene adds to each of the
three counts the announcements with that fate, and `posted_after` that the counts after a run are
those of the fates of all its announcements.
-/

namespace Simulcast

namespace Announcement

/-- What becomes of an announcement that is handed over. -/
inductive Fate where
  /-- It arrives. -/
  | arrived
  /-- It is lost on its way. -/
  | lost
  /-- It is not sent. -/
  | skipped
  deriving DecidableEq, Repr

/-- The fate that a delivery tells of. -/
def Delivery.fate : Delivery → Fate
  | .sent _ => .arrived
  | .failed _ _ => .lost
  | .skipped => .skipped

namespace Channel

/-- What becomes of a payload while the endpoints are as they are: without one of them it is not
sent, and else the receiver takes it or does not. -/
def fate (payload : String) (c : Channel) : Fate :=
  if c.sender.present && c.receiver.present then
    if (c.receiver.receive payload).isOk then .arrived else .lost
  else .skipped

/-- The channel as if nothing had arrived. -/
def emptied (c : Channel) : Channel := { c with receiver := { c.receiver with inbox := [] } }

/-- The receiver takes messages as long as its channel works. -/
theorem isOk_receive (payload : String) (e : Endpoint) :
    (e.receive payload).isOk = e.failure.isNone := by
  unfold Endpoint.receive
  cases e.failure <;> rfl

/-- What a receiver takes is in its inbox, and that is all. -/
theorem eq_of_receive {payload : String} {e e' : Endpoint} (received : e.receive payload = .ok e') :
    e' = { e with inbox := payload :: e.inbox } := by
  unfold Endpoint.receive at received
  split at received
  · cases received
  · exact (Except.ok.inj received).symm

/-- What arrived before does not matter. -/
theorem fate_emptied (payload : String) (c : Channel) :
    c.emptied.fate payload = c.fate payload := by
  simp only [fate, isOk_receive]
  rfl

theorem turned_emptied (c : Channel) : c.emptied.turned = c.turned.emptied := by
  unfold turned
  cases turns : c.turns <;> simp [emptied, turns]

variable (kind : Kind) (layer : Layer) (c : Channel)

/-- Announcing a layer tells of the fate of the payload, -/
theorem fate_announceLayer :
    (c.announceLayer kind layer).delivery.fate =
      c.fate (Message.about kind c.sender.id layer.description).payload := by
  unfold announceLayer fate
  rw [Bool.and_comm c.receiver.present]
  split
  · simp only
    cases c.receiver.receive (Message.about kind c.sender.id layer.description).payload <;> rfl
  · rfl

/-- and the endpoints take their turn. -/
theorem channel_announceLayer :
    (c.announceLayer kind layer).channel.emptied = c.emptied.turned := by
  unfold announceLayer
  split
  · simp only
    cases received : c.receiver.receive _ with
    | ok receiver =>
      rw [eq_of_receive received]
      exact (turned_emptied _).symm
    | error cause => exact (turned_emptied c).symm
  · exact (turned_emptied c).symm

end Channel

end Announcement

namespace Session

open Announcement Switching

variable {s t : Session} {es : List Effect}

/-! ### Announcements one after the other -/

/-- Whether a layer is asked for a keyframe. -/
def Effect.isKeyframe : Effect → Bool
  | .keyframe _ => true
  | .announcement _ _ => false

/-- The channel once effects were carried out, the last one first: the endpoints take a turn after
each announcement. -/
def turnedBy (c : Channel) : List Effect → Channel
  | [] => c
  | .keyframe _ :: es => turnedBy c es
  | .announcement _ _ :: es => (turnedBy c es).turned

/-- What becomes of the announcements among effects, the last one first. -/
def fates (lineup : Lineup) (c : Channel) : List Effect → List Fate
  | [] => []
  | .keyframe _ :: es => fates lineup c es
  | .announcement kind n :: es =>
    let c' := turnedBy c es
    c'.fate (Message.about kind c'.sender.id (lineup.layer n).description).payload ::
      fates lineup c es

/-- Each announcement has a fate. -/
theorem length_fates (lineup : Lineup) (c : Channel) (es : List Effect) :
    (fates lineup c es).length = es.countP (!·.isKeyframe) := by
  induction es with
  | nil => rfl
  | cons e es ih =>
    cases e with
    | keyframe n => exact ih
    | announcement kind n =>
      rw [fates, List.length_cons, ih]
      exact (List.countP_cons_of_pos rfl).symm

/-! ### Counts of deeds -/

/-- What was done, and how much of it was counted as what. -/
@[ext] structure Mail where
  /-- The deeds, the last one first. -/
  deeds : List Effect
  /-- The keyframes asked for. -/
  keyframes : UInt64
  /-- The announcements that arrived. -/
  sent : UInt64
  /-- Those that were lost on their way. -/
  failed : UInt64
  /-- Those that were not sent. -/
  skipped : UInt64

/-- What a session has done and counted. -/
def mail (s : Session) : Mail where
  deeds := s.deeds
  keyframes := s.tally.keyframes
  sent := s.tally.sent
  failed := s.tally.failed
  skipped := s.tally.skipped

/-- Effects are done, the last one first, and the announcements among them have the fates. -/
def Mail.more (m : Mail) (es : List Effect) (fs : List Fate) : Mail where
  deeds := es ++ m.deeds
  keyframes := m.keyframes + .ofNat (es.countP (·.isKeyframe))
  sent := m.sent + .ofNat (fs.count .arrived)
  failed := m.failed + .ofNat (fs.count .lost)
  skipped := m.skipped + .ofNat (fs.count .skipped)

theorem Mail.more_nil (m : Mail) : m.more [] [] = m := by
  simp [more]

theorem Mail.more_more (m : Mail) (es es' : List Effect) (fs fs' : List Fate) :
    (m.more es fs).more es' fs' = m.more (es' ++ es) (fs' ++ fs) := by
  simp only [more, List.append_assoc, List.countP_append, List.count_append, UInt64.ofNat_add,
    UInt64.add_assoc, UInt64.add_comm (.ofNat (es'.countP _)),
    UInt64.add_comm (.ofNat (fs'.count _))]

/-- Neither reading the threshold nor the end of a decision is a deed. -/
theorem steady_mail : Steady mail where
  readThreshold s := by
    have tally := readThreshold_eq_of (·.tally) (fun _ _ _ _ => rfl) s
    rw [mail, deeds_readThreshold, tally, mail]
  conclude p selected s := by
    unfold conclude
    split
    · rfl
    · unfold trickle
      simp only
      split <;> rfl

/-- A keyframe is counted when it is asked for, -/
theorem mail_requestKeyframe (n : Nat) (s : Session) :
    (s.requestKeyframe n).mail = s.mail.more [.keyframe n] [] := by
  simp [Mail.more, mail, requestKeyframe, witness, note, deeds, Happening.deed?, Tally.keyframe,
    Effect.isKeyframe]

/-- and an announcement by its fate. -/
theorem mail_announce (kind : Kind) (n : Nat) (s : Session) :
    (s.announce kind n).mail = s.mail.more [.announcement kind n]
      [(s.channel.announceLayer kind (s.lineup.layer n)).delivery.fate] := by
  simp only [mail, announce, witness, note]
  cases (s.channel.announceLayer kind (s.lineup.layer n)).delivery <;>
    simp [Mail.more, deeds, Happening.deed?, Tally.announcement, Delivery.fate,
      Effect.isKeyframe]

/-- From the first session to the second one the effects are carried out, the last one first, each
announcement is counted by its fate, and nothing else is done to the layers and the endpoints. -/
def Mailed (s : Session) (es : List Effect) (t : Session) : Prop :=
  t.mail = s.mail.more es (fates s.lineup s.channel es) ∧ t.lineup = s.lineup ∧
    t.channel.emptied = (turnedBy s.channel es).emptied

/-- What an announcement becomes is what the endpoints make of it after their turns. -/
theorem Mailed.fate_eq (mailed : Mailed s es t) (kind : Kind) (n : Nat) :
    (t.channel.announceLayer kind (t.lineup.layer n)).delivery.fate =
      (turnedBy s.channel es).fate (Message.about kind (turnedBy s.channel es).sender.id
        (s.lineup.layer n).description).payload := by
  obtain ⟨-, lineup, channel⟩ := mailed
  have sender : t.channel.sender = (turnedBy s.channel es).sender :=
    (congrArg Channel.sender channel :)
  rw [Channel.fate_announceLayer, lineup, sender, ← Channel.fate_emptied, channel,
    Channel.fate_emptied]

/-- **An effect is counted once, and an announcement by its fate.** -/
theorem Mailed.apply (mailed : Mailed s es t) (e : Effect) : Mailed s (e :: es) (t.apply e) := by
  have fate := mailed.fate_eq
  obtain ⟨mail, lineup, channel⟩ := mailed
  cases e with
  | keyframe n =>
    refine ⟨?_, lineup, channel⟩
    rw [Session.apply, mail_requestKeyframe, mail, Mail.more_more]
    rfl
  | announcement kind n =>
    refine ⟨?_, lineup, ?_⟩
    · rw [Session.apply, mail_announce, mail, Mail.more_more, fate]
      rfl
    · calc (t.announce kind n).channel.emptied
          = t.channel.emptied.turned := Channel.channel_announceLayer kind _ t.channel
        _ = (turnedBy s.channel (.announcement kind n :: es)).emptied := by
            rw [channel, Channel.turned_emptied, turnedBy]

/-! ### Operations -/

/-- What holds of a session stays true whatever is done to the roles, and whatever effects are
carried out. -/
structure Carried (P : Session → Prop) : Prop where
  /-- Changes of the roles leave it alone. -/
  apart : Apart P
  /-- Effects keep it. -/
  apply : ∀ s e, P s → P (s.apply e)

namespace Carried

variable {P : Session → Prop} (carried : Carried P)
include carried

theorem commit {c : List Effect × Session} (holds : P c.2) : P (commit c) := by
  obtain ⟨es, s⟩ := c
  induction es generalizing s with
  | nil => exact holds
  | cons e es ih => exact ih (s.apply e) (carried.apply s e holds)

theorem note (e : Journal.Event) (holds : P s) : P (s.note e) :=
  (carried.apart.note e s).symm ▸ holds

theorem configure (r : Option Request) (holds : P s) : P (s.configure r) := by
  cases r with
  | none => exact carried.note _ holds
  | some r => exact carried.commit (carried.apart.transition r s ▸ holds)

theorem configureOverride (r : Option Request) (holds : P s) : P (s.configureOverride r) := by
  unfold Session.configureOverride
  split
  · exact holds
  · unfold setOverride
    split
    · exact carried.note _ holds
    · split
      · exact carried.commit (carried.apart.clearOverride s ▸ holds)
      · exact carried.commit (carried.apart.overrideWith _ s ▸ holds)

theorem receiveHigh (holds : P s) : P s.receiveHigh := by
  unfold Session.receiveHigh
  split
  · exact carried.note _ holds
  · exact carried.configure _ holds

theorem receiveLow (urgent : Bool) (holds : P s) : P (s.receiveLow urgent) := by
  have asked := carried.configure (some (.toOrder .lowest urgent)) holds
  rw [← carried.apart.abandonNext] at asked
  exact carried.commit asked

theorem promote (h : Handle) (holds : P s) : P (Session.commit (s.promote h)) :=
  carried.commit (carried.apart.promote h s ▸ holds)

end Carried

theorem mailed_refl (s : Session) : Mailed s [] s := ⟨s.mail.more_nil.symm, rfl, rfl⟩

theorem carried_mailed (s : Session) : Carried fun t => ∃ es, Mailed s es t where
  apart _ _ _ _ _ _ _ := rfl
  apply _ e := fun ⟨es, mailed⟩ => ⟨e :: es, mailed.apply e⟩

/-- From the first session to the second one effects are carried out, and each announcement is
counted by its fate. -/
def Posted (s t : Session) : Prop :=
  ∃ es, t.mail = s.mail.more es (fates s.lineup s.channel es)

theorem posted_of_mailed (mailed : ∃ es, Mailed s es t) : Posted s t :=
  let ⟨es, mail, _⟩ := mailed
  ⟨es, mail⟩

theorem posted_of_mail_eq (same : t.mail = s.mail) : Posted s t :=
  ⟨[], same.trans s.mail.more_nil.symm⟩

theorem posted_perform (s : Session) (o : Operation) : Posted s (s.perform o) := by
  have carried := carried_mailed s
  have start : ∃ es, Mailed s es s := ⟨[], mailed_refl s⟩
  cases o with
  | configure r => exact posted_of_mailed (carried.configure r start)
  | configureOverride r => exact posted_of_mailed (carried.configureOverride r start)
  | receiveHigh => exact posted_of_mailed (carried.receiveHigh start)
  | receiveLow urgent => exact posted_of_mailed (carried.receiveLow urgent start)
  | readThreshold => exact posted_of_mail_eq (steady_mail.readThreshold s)
  | forget source =>
    refine posted_of_mail_eq ?_
    rw [perform, forget]
    split <;> rfl
  | remove h =>
    refine posted_of_mail_eq ?_
    rw [perform, remove]
    split <;> rfl
  | add l => exact posted_of_mail_eq rfl
  | insert layer => exact posted_of_mail_eq rfl
  | clear => exact posted_of_mail_eq rfl
  | alter layer l => exact posted_of_mail_eq rfl
  | alterReceiver e => exact posted_of_mail_eq rfl
  | alterSender e => exact posted_of_mail_eq rfl

theorem posted_answer (q : Inquiry) (s : Session) : Posted s (s.answer q).2 := by
  rw [Posted, steady_mail.answer_eq_credited]
  rcases credited_eq q s with same | ⟨h, counted⟩
  · rw [same]
    exact posted_of_mail_eq rfl
  · rw [counted]
    exact posted_of_mailed ((carried_mailed s).promote h ⟨[], mailed_refl s⟩)

/-- **A move adds to the counts the announcements with the fates.** -/
theorem posted_play (sc : Scene) (m : Move) : Posted sc.session (sc.play perform m).session := by
  have advance := sc.advance_play m
  generalize (sc.play perform m).session = t at advance ⊢
  cases advance with
  | performs o => exact posted_perform sc.session o
  | begins p => exact posted_of_mail_eq (steady_mail.begin p sc.session)
  | idles unasked => exact posted_of_mail_eq rfl
  | answers asked => exact posted_answer _ sc.session

/-! ### Runs -/

namespace Scene

/-- What a move does, the last one first. -/
def news (sc : Scene) (m : Move) : List Effect :=
  let done := (sc.play perform m).session.deeds
  done.take (done.length - sc.session.deeds.length)

/-- What becomes of the announcements that moves lead to, the last one first. -/
def fates (sc : Scene) : List Move → List Fate
  | [] => []
  | m :: past =>
    let before := sc.after perform past
    Session.fates before.session.lineup before.session.channel (before.news m) ++ sc.fates past

/-- A move does what it adds to the deeds, and counts it so. -/
theorem mail_play (sc : Scene) (m : Move) :
    (sc.play perform m).session.mail = sc.session.mail.more (sc.news m)
      (Session.fates sc.session.lineup sc.session.channel (sc.news m)) := by
  obtain ⟨es, mail⟩ := posted_play sc m
  have deeds : (sc.play perform m).session.deeds = es ++ sc.session.deeds :=
    congrArg Mail.deeds mail
  have news : sc.news m = es := by
    rw [Scene.news, deeds, List.length_append, Nat.add_sub_cancel, List.take_left]
  rw [news, mail]

end Scene

variable (channel : Channel) (thresholds : Thresholds) (past : List Move)

/-- **The counts after a run are those of the fates of its announcements.** -/
theorem mail_after :
    let opening := Scene.opening channel thresholds
    let s := (opening.after perform past).session
    s.mail = Mail.more ⟨[], 0, 0, 0, 0⟩ s.deeds (opening.fates past) := by
  intro opening s
  induction past with
  | nil => exact (Mail.more_nil _).symm
  | cons m past ih =>
    have played : s.mail = _ := (opening.after perform past).mail_play m
    rw [ih, Mail.more_more] at played
    have deeds : s.deeds = _ ++ [] := congrArg Mail.deeds played
    rw [played, deeds, List.append_nil, Scene.fates]

/-- Each announcement of a run has a fate. -/
theorem length_fates_after :
    let opening := Scene.opening channel thresholds
    (opening.fates past).length =
      (opening.after perform past).session.deeds.countP (!·.isKeyframe) := by
  intro opening
  induction past with
  | nil => rfl
  | cons m past ih =>
    have deeds : (opening.after perform (m :: past)).session.deeds = _ :=
      congrArg Mail.deeds ((opening.after perform past).mail_play m)
    rw [deeds, Mail.more, List.countP_append, Scene.fates, List.length_append, length_fates, ih]
    rfl

end Session

end Simulcast
