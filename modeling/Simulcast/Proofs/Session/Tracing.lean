import Simulcast.Proofs.Journal.Decisions
import Simulcast.Proofs.Session.Statistics
import Simulcast.Proofs.Session.Threshold

/-!
# Packets are traced

Whoever looks for a lost packet has the journal write each decision. `tracing_exact` says that the
journal of a run then has the decisions of the run and no other ones, in the order in which they
were made, and that each entry says what was decided; without the switch there is none of them.

A move of a scene brings at most one ruling (`Scene.ruling?`), and what it adds to the recorded
decisions is this ruling (`recorded_play`): all else that an engine records is no decision, provided
that nothing which the settings record of a look-up is one (`Thresholds.Reticent`).
-/

/-! ### Settings that record no decision -/

namespace Simulcast.Switching.Thresholds

/-- What is recorded of a look-up is no decision about a packet. -/
def Reticent (t : Thresholds) : Prop :=
  ∀ key default, ∀ e ∈ (t.lookup key default).events, e.isDecision = false

theorem reticent_ofSettings (s : Settings.All) : (ofSettings s).Reticent := by
  intro key default e here
  cases here

theorem reticent_ofTree (t : Settings.Tree) : (ofTree t).Reticent := by
  intro key default e here
  simp only [ofTree] at here
  split at here
  · rename_i path _
    cases found : t.get? path with
    | none =>
      rw [found] at here
      cases here
    | some u =>
      simp only [found, Option.map_some, Option.getD_some, answerOf] at here
      split at here
      · split at here
        · cases here
        · rw [List.mem_singleton.1 here]
          rfl
      · rw [List.mem_singleton.1 here]
        rfl
  · rw [List.mem_singleton.1 here]
    rfl

end Simulcast.Switching.Thresholds

namespace Simulcast.Session

open Switching

variable {s t : Session}

/-! ### Rulings -/

/-- What was decided about a packet. -/
structure Ruling where
  /-- The packet. -/
  packet : Packet
  /-- Whether it passes. -/
  accepted : Bool
  /-- Whether it does although no layer selected it. -/
  trickled : Bool
  deriving DecidableEq, Repr

namespace Ruling

/-- The ruling as something that is worth an entry. -/
def event (r : Ruling) : Journal.Event :=
  .decided r.packet.source r.packet.sequence r.accepted r.trickled

/-- The entry of a ruling. -/
def entry (r : Ruling) : Journal.Entry where
  level := .trace
  topic := .engine
  message := "Simulcast admission decision"
  fields :=
    [("ssrc", .number r.packet.source.toNat), ("seq", .number r.packet.sequence.toNat),
      ("accept", .boolean r.accepted), ("trickled", .boolean r.trickled)]

/-- The line that a ruling is written as where entries are lines of text. -/
def line (r : Ruling) : String :=
  "TRACE synctv_simulcast::engine: Simulcast admission decision, ssrc: "
    ++ toString r.packet.source.toNat ++ ", seq: " ++ toString r.packet.sequence.toNat
    ++ ", accept: " ++ toString r.accepted ++ ", trickled: " ++ toString r.trickled

/-- The object that a ruling is written as where entries are documents. -/
def document (r : Ruling) : Json :=
  .object
    [("level", .text "TRACE"), ("target", .text "synctv_simulcast::engine"),
      ("fields", .object
        [("message", .text "Simulcast admission decision"),
          ("ssrc", .natural r.packet.source.toNat), ("seq", .natural r.packet.sequence.toNat),
          ("accept", .boolean r.accepted), ("trickled", .boolean r.trickled)])]

/-- A ruling as it is written in a format. -/
def written (r : Ruling) (format : String) : Json :=
  if format = "json" then r.document else .text r.line

theorem text_number (n : Nat) : Journal.Value.text (.number n) = toString n := by
  rw [Journal.Value.text, Text.Numeral.text, Text.Numeral.signed,
    if_neg (Int.not_lt.2 (Int.natCast_nonneg n)), Int.natAbs_natCast, Text.Numeral.digits,
    Nat.toString_eq_ofList_toDigits]

theorem text_boolean (b : Bool) : Journal.Value.text (.boolean b) = toString b := by
  cases b <;> rfl

/-- The pieces of a line one after the other. -/
theorem join_pieces (source sequence accepted trickled : String) :
    "TRACE" ++ " " ++ "synctv_simulcast::engine" ++ ": " ++ "Simulcast admission decision"
        ++ String.join [", " ++ "ssrc" ++ ": " ++ source, ", " ++ "seq" ++ ": " ++ sequence,
          ", " ++ "accept" ++ ": " ++ accepted, ", " ++ "trickled" ++ ": " ++ trickled] =
      "TRACE synctv_simulcast::engine: Simulcast admission decision, ssrc: " ++ source
        ++ ", seq: " ++ sequence ++ ", accept: " ++ accepted ++ ", trickled: " ++ trickled := by
  have opening : "TRACE" ++ " " ++ "synctv_simulcast::engine" ++ ": "
      ++ "Simulcast admission decision" ++ (", " ++ "ssrc" ++ ": ") =
        "TRACE synctv_simulcast::engine: Simulcast admission decision, ssrc: " := by
    decide +kernel
  have second : ", " ++ "seq" ++ ": " = ", seq: " := by decide +kernel
  have third : ", " ++ "accept" ++ ": " = ", accept: " := by decide +kernel
  have fourth : ", " ++ "trickled" ++ ": " = ", trickled: " := by decide +kernel
  rw [← opening, ← second, ← third, ← fourth]
  simp only [String.join_cons, String.join_nil, String.append_assoc, String.append_empty]

theorem line_entry (r : Ruling) : r.entry.line = r.line := by
  refine (join_pieces (Journal.Value.text (.number r.packet.source.toNat))
    (Journal.Value.text (.number r.packet.sequence.toNat))
    (Journal.Value.text (.boolean r.accepted))
    (Journal.Value.text (.boolean r.trickled))).trans ?_
  rw [text_number, text_number, text_boolean, text_boolean]
  rfl

theorem document_entry (r : Ruling) : r.entry.document = r.document := rfl

/-- What is written of the entry of a ruling tells the packet and what was decided about it. -/
theorem write_entry {u : Journal.Setup} {format : String}
    (asked : u.asDocuments = decide (format = "json")) (r : Ruling) :
    u.write r.entry = r.written format := by
  rw [Journal.Setup.write, asked, written, document_entry, line_entry]
  by_cases json : format = "json"
  · rw [if_pos (decide_eq_true json), if_pos json]
  · rw [if_neg (by rw [decide_eq_false json]; exact Bool.false_ne_true), if_neg json]

/-- The decision in a ruling. -/
def decision (r : Ruling) : Packet × Bool := (r.packet, r.accepted)

end Ruling

/-- The ruling about a packet that layers select or do not, once it is decided about. -/
def Progress.ruling? (selected : Bool) : Progress → Option Ruling
  | .asking _ => none
  | .decided p accepted => some ⟨p, accepted, accepted && !selected⟩

namespace Scene

/-- How far a move brings a decision, if it is a part of one. -/
def progress? (sc : Scene) : Move → Option Progress
  | .operation _ => none
  | .packet p => some (sc.session.begin p).1
  | .answer => sc.asked.head?.map fun q => (sc.session.answer q).1

/-- The ruling that a move brings, if a packet is decided about by it. It trickled if it passes and
the layer that was asked last, if one was, does not own it. -/
def ruling? (sc : Scene) (m : Move) : Option Ruling :=
  (sc.progress? m).bind (·.ruling? (sc.selects m))

/-- The rulings that moves bring, the last one first. -/
def rulings (sc : Scene) : List Move → List Ruling
  | [] => []
  | m :: past => ((sc.after perform past).ruling? m).toList ++ sc.rulings past

end Scene

/-! ### What is recorded besides decisions -/

/-- The decisions that were recorded, the last one first. -/
def recorded (s : Session) : List Journal.Event := s.journal.filter (·.isDecision)

theorem recorded_note {e : Journal.Event} (other : e.isDecision = false) (s : Session) :
    (s.note e).recorded = s.recorded :=
  List.filter_cons_of_neg (by rw [other]; exact Bool.false_ne_true)

theorem recorded_makeCurrent (h : Handle) (promoted : Bool) (s : Session) :
    (s.makeCurrent h promoted).recorded = s.recorded := rfl

theorem recorded_apply (s : Session) (e : Effect) : (s.apply e).recorded = s.recorded := by
  cases e with
  | keyframe layer => rfl
  | announcement kind layer =>
    have other :
        (s.channel.announceLayer kind (s.lineup.layer layer)).event.isDecision = false := by
      unfold Announcement.Channel.announceLayer
      split
      · simp only
        split <;> rfl
      · rfl
    exact recorded_note other s

theorem recorded_commit (c : List Effect × Session) : (commit c).recorded = c.2.recorded :=
  commit_eq_of_apply_eq recorded recorded_apply c

theorem recorded_switchToOrder (r : Request) (o : Layer.Order) (s : Session) :
    (s.switchToOrder r o).2.recorded = s.recorded := by
  unfold switchToOrder
  split
  · rfl
  · split
    · rfl
    · simp only
      split
      · rfl
      · split
        · rfl
        · rw [switchTo_snd]
          split <;> rfl

theorem recorded_transition (r : Request) (s : Session) :
    (s.transition r).2.recorded = s.recorded := by
  unfold transition
  split
  · rfl
  · exact recorded_switchToOrder r _ _

theorem recorded_configure (r : Option Request) (s : Session) :
    (s.configure r).recorded = s.recorded := by
  cases r with
  | none => rfl
  | some r => exact (recorded_commit _).trans (recorded_transition r s)

theorem recorded_abandonNext (s : Session) : (commit s.abandonNext).recorded = s.recorded := by
  rw [recorded_commit]
  unfold abandonNext
  split
  · rfl
  · simp only
    split <;> rfl

theorem recorded_configureOverride (r : Option Request) (s : Session) :
    (s.configureOverride r).recorded = s.recorded := by
  unfold configureOverride
  split
  · rfl
  · unfold setOverride
    split
    · rfl
    · split
      · rw [recorded_commit, clearOverride_snd]
        rfl
      · rw [recorded_commit, overrideWith]
        split <;> rfl

theorem recorded_promote (h : Handle) (s : Session) :
    (commit (s.promote h)).recorded = s.recorded := by
  rw [recorded_commit]
  unfold promote
  split
  · rfl
  · split
    · rfl
    · simp only
      split
      · exact (recorded_makeCurrent h true _).trans (recorded_note rfl s.countNext)
      · rfl

/-- The look-up records what the settings say, and the threshold. -/
theorem recorded_readThreshold (reticent : s.thresholds.Reticent) :
    s.readThreshold.recorded = s.recorded := by
  cases read : s.initialized with
  | true => rw [readThreshold_of_initialized read]
  | false =>
    have none : (s.thresholds.lookup minNextSeenKey defaultMinNextSeen).events.reverse.filter
        (·.isDecision) = [] := by
      rw [List.filter_eq_nil_iff]
      intro e here
      rw [reticent _ _ e (List.mem_reverse.1 here)]
      exact Bool.false_ne_true
    rw [readThreshold_of_not_initialized read, recorded,
      List.filter_cons_of_neg (by simp [Journal.Event.isDecision]), List.filter_append, none]
    rfl

theorem recorded_perform (reticent : s.thresholds.Reticent) (o : Operation) :
    (s.perform o).recorded = s.recorded := by
  cases o with
  | configure r => exact recorded_configure r s
  | configureOverride r => exact recorded_configureOverride r s
  | receiveHigh =>
    rw [perform, receiveHigh]
    split
    · rfl
    · exact recorded_configure _ s
  | receiveLow urgent => exact (recorded_abandonNext _).trans (recorded_configure _ s)
  | readThreshold => exact recorded_readThreshold reticent
  | forget source =>
    rw [perform, forget]
    split <;> rfl
  | remove h =>
    rw [perform, remove]
    split <;> rfl
  | add l => rfl
  | insert layer => rfl
  | clear => rfl
  | alter layer l => rfl
  | alterReceiver e => rfl
  | alterSender e => rfl

/-! ### Decisions -/

/-- The end of a decision records it, and whether the packet trickled. -/
theorem recorded_conclude (p : Packet) (selected : Bool) (s : Session) :
    (s.conclude p selected).2.recorded =
      Ruling.event ⟨p, (s.conclude p selected).1, (s.conclude p selected).1 && !selected⟩ ::
        s.recorded := by
  unfold conclude
  cases selected with
  | true => rfl
  | false =>
    have counted : (s.trickle p.source).2.recorded = s.recorded := by
      unfold trickle
      simp only
      split <;> rfl
    simp only [Bool.false_eq_true, if_false, Bool.not_false, Bool.and_true, ← counted]
    rfl

/-- A decision that is not interrupted records what it answers; the packet trickled if it passes and
the roles do not select it. -/
theorem recorded_accept (reticent : s.thresholds.Reticent) (p : Packet) :
    (s.accept quiet p).2.recorded =
      Ruling.event ⟨p, (s.accept quiet p).1, (s.accept quiet p).1 && !s.selects p⟩ ::
        s.recorded := by
  have heeded : (s.readThreshold.heed p).recorded = s.recorded := by
    rw [← recorded_readThreshold reticent, heed]
    split
    · split
      · exact recorded_promote _ _
      · rfl
    · rfl
  rw [accept_quiet, recorded_conclude, heeded]

theorem recorded_of_proceeds {p : Packet} {selected : Bool} {c : Progress × Session}
    (proceeds : Proceeds p selected s c) :
    c.2.recorded = ((c.1.ruling? selected).map Ruling.event).toList ++ s.recorded := by
  cases proceeds with
  | asks q about holds => rfl
  | settles => exact recorded_conclude p selected s

theorem recorded_begin (reticent : s.thresholds.Reticent) (p : Packet) :
    (s.begin p).2.recorded =
      (((s.begin p).1.ruling? false).map Ruling.event).toList ++ s.recorded := by
  rw [recorded_of_proceeds (proceeds_begin p s), recorded_readThreshold reticent]

theorem recorded_answer (q : Inquiry) (s : Session) :
    (s.answer q).2.recorded =
      (((s.answer q).1.ruling? (s.owned q)).map Ruling.event).toList ++ s.recorded := by
  rw [recorded_of_proceeds (proceeds_answer q s)]
  rcases credited_eq q s with same | ⟨h, counted⟩
  · rw [same]
  · rw [counted, recorded_promote]

/-! ### Moves -/

/-- **What a move adds to the recorded decisions is the ruling that it brings.** -/
theorem recorded_play {sc : Scene} (reticent : sc.session.thresholds.Reticent) (m : Move) :
    (sc.play perform m).session.recorded =
      ((sc.ruling? m).map Ruling.event).toList ++ sc.session.recorded := by
  have advance := sc.advance_play m
  generalize (sc.play perform m).session = t at advance ⊢
  cases advance with
  | performs o => exact recorded_perform reticent o
  | begins p => exact recorded_begin reticent p
  | idles unasked =>
    rw [Scene.ruling?, Scene.progress?, unasked]
    rfl
  | answers asked =>
    simp only [Scene.ruling?, Scene.progress?, Scene.selects, asked]
    exact recorded_answer _ sc.session

theorem decisions_proceed (sc : Scene) (selected : Bool) (c : Progress × Session) :
    (sc.proceed c).decisions =
      ((c.1.ruling? selected).map Ruling.decision).toList ++ sc.decisions := by
  obtain ⟨progress, s⟩ := c
  cases progress with
  | asking q => rfl
  | decided p accepted => rfl

/-- And it is the decision that is made. -/
theorem decisions_play (sc : Scene) (m : Move) :
    (sc.play perform m).decisions =
      ((sc.ruling? m).map Ruling.decision).toList ++ sc.decisions := by
  cases m with
  | operation o => rfl
  | packet p => exact decisions_proceed sc false _
  | answer =>
    cases asked : sc.asked with
    | nil =>
      simp only [Scene.play, Scene.ruling?, Scene.progress?, asked]
      rfl
    | cons q others =>
      simp only [Scene.play, Scene.ruling?, Scene.progress?, Scene.selects, asked]
      exact decisions_proceed _ _ _

/-! ### Runs -/

theorem decisions_after (channel : Announcement.Channel) (thresholds : Thresholds)
    (past : List Move) :
    ((Scene.opening channel thresholds).rulings past).map Ruling.decision =
      ((Scene.opening channel thresholds).after perform past).decisions := by
  induction past with
  | nil => rfl
  | cons m past ih =>
    rw [Scene.rulings, Scene.after, decisions_play, List.map_append, ih, Option.toList_map]

theorem thresholds_after (channel : Announcement.Channel) (thresholds : Thresholds)
    (past : List Move) :
    ((Scene.opening channel thresholds).after perform past).session.thresholds = thresholds :=
  congrArg Footing.thresholds (footing_after channel thresholds past)

/-- **The decisions that a run records are its rulings.** -/
theorem recorded_after (channel : Announcement.Channel) {thresholds : Thresholds}
    (reticent : thresholds.Reticent) (past : List Move) :
    ((Scene.opening channel thresholds).after perform past).session.recorded =
      ((Scene.opening channel thresholds).rulings past).map Ruling.event := by
  induction past with
  | nil => rfl
  | cons m past ih =>
    have reticent : ((Scene.opening channel thresholds).after perform
        past).session.thresholds.Reticent := by rwa [thresholds_after]
    rw [Scene.rulings, Scene.after, recorded_play reticent, ih, List.map_append, Option.toList_map]

/-- **Tracing packets misses no decision.** Take settings that name a level, in whatever format
entries are written, and thresholds whose look-up records no decision. After any moves of a scene,
the newest first, and so also while layers are asked, the rulings are those of the decisions that
were made, in order; one more decision adds the ruling that it answers, which trickled if the packet
passes and the roles do not select it. If the switch for decisions is on, then whatever directives
are given, as long as they ask for no values, what the journal has with the message of decisions are
the rulings, the first one first, each written with its packet, what was decided and whether it
trickled: as an object of these values if documents are asked for, and else as a line with them. If
the switch is off and no directives are given, there is none of them, unless the level is the least
one. -/
theorem tracing_exact (config : Settings.Logging) {level : Journal.Level}
    (named : Journal.settingLevel? config.level = some level) (channel : Announcement.Channel)
    {thresholds : Thresholds} (reticent : thresholds.Reticent) (past : List Move) :
    let opening := Scene.opening channel thresholds
    let sc := opening.after perform past
    let journal := sc.session.journal.reverse
    (opening.rulings past).map Ruling.decision = sc.decisions ∧
      (∀ p, (sc.session.accept quiet p).2.recorded =
        Ruling.event ⟨p, (sc.session.accept quiet p).1,
          (sc.session.accept quiet p).1 && !sc.session.selects p⟩ :: sc.session.recorded) ∧
      (config.packetTrace = true → ∀ directives : Option String,
        (∀ text ∈ directives, Journal.Filter.read? text = none ∨ '[' ∉ text.toList) →
          ∃ u, Journal.setup config directives = .ok u ∧
            (u.lines journal).filter (Journal.bears Journal.decisionMessage) =
              (opening.rulings past).reverse.map (·.written config.format)) ∧
      (config.packetTrace = false → level ≠ .trace →
        ∃ u, Journal.setup config none = .ok u ∧
          (u.lines journal).filter (Journal.bears Journal.decisionMessage) = []) := by
  intro opening sc journal
  have decisions :
      journal.filter (·.isDecision) = (opening.rulings past).reverse.map Ruling.event := by
    rw [List.filter_reverse, List.map_reverse]
    exact congrArg List.reverse (recorded_after channel reticent past)
  have reticent : sc.session.thresholds.Reticent := by rwa [thresholds_after]
  refine ⟨decisions_after channel thresholds past, recorded_accept reticent,
    fun switch directives plain => ?_, fun switch above => ?_⟩
  · obtain ⟨u, made, form, admits⟩ := Journal.exists_setup_of_packetTrace named switch plain
    refine ⟨u, made, ?_⟩
    rw [Journal.lines_of_admits admits, decisions, List.map_map]
    exact List.map_congr_left fun r _ => Ruling.write_entry form r
  · obtain ⟨u, made, refuses⟩ := Journal.exists_setup_of_level named switch above
    exact ⟨u, made, Journal.lines_of_not_admits refuses journal⟩

/-- A packet of the current layer is decided about, and then one of a source that no layer has. -/
def tracedSample : List Move :=
  [.answer, .packet (.sample 300 7), .answer, .packet (.sample 100 0),
    .operation (.receiveLow true), .operation (.add (.numbered 0))]

/-- Both decisions are written although directives turn the journal off, as lines or as objects,
even if the threshold is looked up in a tree that holds no number for it; and neither is without
the switch. -/
theorem traced_although_off :
    let unread := Thresholds.ofTree (.table none
      [("switching", .table none [("min_next_seen", .scalar none (.text "many"))])])
    let journal (thresholds : Thresholds) :=
      ((Scene.opening default thresholds).after perform tracedSample).session.journal.reverse
    (∃ u, Journal.setup { level := "error", format := "pretty", packetTrace := true }
        (some "off,synctv_simulcast::engine=error") = .ok u ∧
      (u.lines (journal unread)).filter (Journal.bears Journal.decisionMessage) =
        [.text ("TRACE synctv_simulcast::engine: Simulcast admission decision, " ++
            "ssrc: 100, seq: 0, accept: true, trickled: false"),
          .text ("TRACE synctv_simulcast::engine: Simulcast admission decision, " ++
            "ssrc: 300, seq: 7, accept: true, trickled: true")]) ∧
    (∃ u, Journal.setup { level := "error", format := "json", packetTrace := true }
        (some "off,synctv_simulcast::engine=error") = .ok u ∧
      (u.lines (journal unread)).filter (Journal.bears Journal.decisionMessage) =
        [Ruling.document ⟨.sample 100 0, true, false⟩,
          Ruling.document ⟨.sample 300 7, true, true⟩]) ∧
    ∃ u, Journal.setup { level := "error", format := "json" } none = .ok u ∧
      (u.lines (journal (.fixed 5))).filter (Journal.bears Journal.decisionMessage) = [] := by
  intro unread journal
  have rulings : (Scene.opening default unread).rulings tracedSample =
      [⟨.sample 300 7, true, true⟩, ⟨.sample 100 0, true, false⟩] := by decide +kernel
  have reticent : unread.Reticent := Thresholds.reticent_ofTree _
  have named : Journal.settingLevel? "error" = some .error := by decide +kernel
  have plain : ∀ text ∈ some "off,synctv_simulcast::engine=error",
      Journal.Filter.read? text = none ∨ '[' ∉ text.toList :=
    fun text here => .inr (by rw [← Option.some_inj.1 here]; decide +kernel)
  refine ⟨?_, ?_, ?_⟩
  · obtain ⟨-, -, traced, -⟩ := tracing_exact
      { level := "error", format := "pretty", packetTrace := true } named default reticent
      tracedSample
    obtain ⟨u, made, lines⟩ := traced rfl _ plain
    rw [rulings] at lines
    exact ⟨u, made, lines⟩
  · obtain ⟨-, -, traced, -⟩ := tracing_exact
      { level := "error", format := "json", packetTrace := true } named default reticent
      tracedSample
    obtain ⟨u, made, lines⟩ := traced rfl _ plain
    rw [rulings] at lines
    exact ⟨u, made, lines⟩
  · obtain ⟨-, -, -, silent⟩ := tracing_exact { level := "error", format := "json" } named default
      (Thresholds.reticent_ofSettings { switching := ⟨5⟩ }) tracedSample
    exact silent rfl (by decide)

end Simulcast.Session
