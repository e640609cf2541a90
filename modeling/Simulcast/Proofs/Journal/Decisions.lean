import Simulcast.Proofs.Journal.Directives

/-!
# What is written of decisions

What is written can be told by its message: `bears` finds it behind the level and the target of a
line, or among the values of an object, and the entries with the message of decisions are those of
decisions (`bears_write`). The switch for them admits them all, whatever else is asked for
(`exists_setup_of_packetTrace`); without it a level alone admits none, unless it is the least one
(`exists_setup_of_level`). Where they are admitted, they are what a journal has with their message
(`lines_of_admits`).
-/

namespace Simulcast.Journal

/-- Whether an event is a decision about a packet. -/
def Event.isDecision : Event → Bool
  | .decided .. => true
  | _ => false

/-- The message of a decision. -/
def decisionMessage : String := "Simulcast admission decision"

/-! ### Messages -/

/-- What stands behind the target of a line. -/
def behindTarget : List Char → List Char
  | [] => []
  | ':' :: ' ' :: cs => cs
  | _ :: cs => behindTarget cs

/-- Whether something that was written has a message. -/
def bears (message : String) : Json → Bool
  | .text line => message.toList.isPrefixOf (behindTarget line.toList)
  | document =>
    match (document.get? "fields").bind (·.get? "message") with
    | some (.text m) => m = message
    | _ => false

theorem behind_label (l : Level) (rest : List Char) :
    behindTarget (l.label.toList ++ ' ' :: rest) = behindTarget (' ' :: rest) := by
  cases l <;> rfl

theorem behind_path (t : Topic) (rest : List Char) :
    behindTarget (' ' :: (t.path.toList ++ ':' :: ' ' :: rest)) = rest := by
  cases t <;> rfl

/-- Behind its target a line has its message, and then its values. -/
theorem behindTarget_line (e : Entry) :
    behindTarget e.line.toList = e.message.toList ++
      (String.join (e.fields.map fun f => ", " ++ f.1 ++ ": " ++ f.2.text)).toList := by
  rw [Entry.line]
  simp only [String.toList_append, List.append_assoc]
  exact (behind_label _ _).trans (behind_path _ _)

/-- An object has its message among its values, of which no other one has that name. -/
theorem message_document (e : Event) :
    (e.entry.document.get? "fields").bind (·.get? "message") = some (.text e.entry.message) := by
  cases e <;> rfl

theorem begins_ofList (cs values : List Char) :
    ['S', 'i'].isPrefixOf ((String.ofList cs).toList ++ values) =
      ['S', 'i'].isPrefixOf (cs ++ values) := by
  rw [String.toList_ofList]

/-- Already the first two letters of its message tell a decision from any other event. -/
theorem begins_message (e : Event) (values : List Char) :
    ['S', 'i'].isPrefixOf (e.entry.message.toList ++ values) = e.isDecision := by
  cases e <;> exact begins_ofList _ values

/-- The events with the message of a decision are decisions. -/
theorem message_eq_iff (e : Event) : e.entry.message = decisionMessage ↔ e.isDecision = true := by
  constructor
  · intro same
    rw [← begins_message e [], same]
    rfl
  · intro decision
    cases e with
    | decided source sequence accepted trickled => rfl
    | _ => cases decision

theorem bears_document (message : String) (e : Event) :
    bears message e.entry.document = decide (e.entry.message = message) := by
  change (match (e.entry.document.get? "fields").bind (·.get? "message") with
    | some (.text m) => decide (m = message)
    | _ => false) = _
  rw [message_document]

/-- **What is written with the message of decisions is written of a decision.** -/
theorem bears_write (u : Setup) (e : Event) :
    bears decisionMessage (u.write e.entry) = e.isDecision := by
  rw [Setup.write, Bool.eq_iff_iff, ← message_eq_iff]
  split
  · rw [bears_document, decide_eq_true_iff]
  · rw [bears, behindTarget_line, List.isPrefixOf_iff_prefix]
    constructor
    · intro begins
      have letters : ['S', 'i'] <+: decisionMessage.toList := List.isPrefixOf_iff_prefix.1 rfl
      rw [message_eq_iff, ← begins_message e _]
      exact List.isPrefixOf_iff_prefix.2 (letters.trans begins)
    · intro same
      rw [same]
      exact List.prefix_append _ _

/-- Of decisions that is written which is admitted. -/
theorem filter_bears_lines (u : Setup) (events : List Event) :
    (u.lines events).filter (bears decisionMessage) =
      (((events.filter (·.isDecision)).map Event.entry).filter u.admits).map u.write := by
  induction events with
  | nil => rfl
  | cons e events ih =>
    rw [Setup.lines] at ih ⊢
    rw [List.map_cons, List.filter_cons, List.filter_cons]
    by_cases admitted : u.admits e.entry = true
    · rw [if_pos admitted, List.map_cons, List.filter_cons, bears_write, ih]
      cases e.isDecision
      · rfl
      · simp [admitted]
    · rw [if_neg admitted, ih]
      cases e.isDecision
      · rfl
      · simp [admitted]

/-! ### Which setups admit them -/

variable {s : Settings.Logging} {level : Level}

/-- A level that has a name is all that it takes to set up the journal. -/
theorem setup_eq (named : settingLevel? s.level = some level) (directives : Option String) :
    setup s directives = .ok
      { filter := if s.packetTrace then (filterFor level directives).add packetDirective
          else filterFor level directives
        asDocuments := s.format = "json" } := by
  rw [setup, named]

/-- **The switch for decisions admits them all**, whatever is asked for besides: its directive is
for the whole target of a decision, and no other one asks for a value. The settings give the form in
which they are written. -/
theorem exists_setup_of_packetTrace (named : settingLevel? s.level = some level)
    (switch : s.packetTrace = true) {directives : Option String}
    (plain : ∀ text ∈ directives, Filter.read? text = none ∨ '[' ∉ text.toList) :
    ∃ u, setup s directives = .ok u ∧ u.asDocuments = decide (s.format = "json") ∧
      ∀ e : Event, e.isDecision = true → u.admits e.entry = true := by
  refine ⟨_, setup_eq named directives, rfl, fun e decision => ?_⟩
  rw [if_pos switch]
  cases e with
  | decided source sequence accepted trickled =>
    exact Filter.admits_add (Filter.plain_filterFor level plain) rfl rfl _ _
  | _ => cases decision

/-- A directive that asks for a value of the entry would be more specific. -/
example : (setup { packetTrace := true } (some "synctv_simulcast::engine[{ssrc}]=off")).toOption.map
    (·.admits (Event.decided 100 0 true false).entry) = some false := by decide +kernel

/-- **A level alone admits none of them**, unless it is the least one. -/
theorem exists_setup_of_level (named : settingLevel? s.level = some level)
    (switch : s.packetTrace = false) (above : level ≠ .trace) :
    ∃ u, setup s none = .ok u ∧ ∀ e : Event, e.isDecision = true → u.admits e.entry = false := by
  refine ⟨_, setup_eq named none, fun e decision => ?_⟩
  rw [switch]
  cases e with
  | decided source sequence accepted trickled =>
    cases level with
    | trace => exact absurd rfl above
    | _ => rfl
  | _ => cases decision

/-! ### What is written of a journal -/

variable {u : Setup}

/-- Where decisions are admitted, each of them is written, and in order. -/
theorem lines_of_admits (admits : ∀ e : Event, e.isDecision = true → u.admits e.entry = true)
    (events : List Event) :
    (u.lines events).filter (bears decisionMessage) =
      (events.filter (·.isDecision)).map (u.write ·.entry) := by
  rw [filter_bears_lines, List.filter_eq_self.2, List.map_map]
  · rfl
  · intro e here
    obtain ⟨event, decision, rfl⟩ := List.mem_map.1 here
    exact admits event (List.mem_filter.1 decision).2

/-- Where they are not, none is. -/
theorem lines_of_not_admits
    (refuses : ∀ e : Event, e.isDecision = true → u.admits e.entry = false) (events : List Event) :
    (u.lines events).filter (bears decisionMessage) = [] := by
  rw [filter_bears_lines, List.filter_eq_nil_iff.2, List.map_nil]
  intro e here
  obtain ⟨event, decision, rfl⟩ := List.mem_map.1 here
  rw [refuses event (List.mem_filter.1 decision).2]
  exact Bool.false_ne_true

end Simulcast.Journal
