import Simulcast.Proofs.Wire.Lawful
import Simulcast.Announcement.Message
import Simulcast.Switching.Snapshot
import Simulcast.Switching.Tally

/-!
# Presentations of records

The records of this library can be presented by other texts than the one that is written: the
members of each object in any order, with members of unknown names and any values between them, with
blanks between all parts, without the members that are absent values, with or without an empty list
of associated sources (`Presents` of each record). The text that is written is a presentation of its
value, and every presentation of a value is parsed as the value (`parse_presentation`). So every
value of the wire is read back from its own text (`wire_round_trip`).
-/

namespace Simulcast

open Json Json.Reader

namespace Wire

/-- The text that is written for a value. -/
def Written {α : Type} [Wire α] (a : α) (t : List Char) : Prop := t = (encode a).write

/-- The text that is written for a value that may be absent. -/
def WrittenOption {α : Type} [Wire α] (o : Option α) (t : List Char) : Prop :=
  t = (Json.ofOption encode o).write

/-- Lists of texts that present the values one after the other. -/
inductive Listed {α : Type} (presents : α → List Char → Prop) (as : List α) : List Char → Prop where
  /-- Blanks may stand around each text. -/
  | intro {ps : List (List Char)} {t : List Char} (items : List.Forall₂ presents as ps)
    (layout : Bracketed '[' ']' ps t) : Listed presents as t

/-- Whole texts that present a value. -/
inductive Presentation {α : Type} (presents : α → List Char → Prop) (a : α) : String → Prop where
  /-- Blanks may stand before and behind it. -/
  | intro {b t b' : List Char} (before : Blanks b) (text : presents a t) (after : Blanks b') :
    Presentation presents a (String.ofList (b ++ (t ++ b')))

end Wire

open Wire

namespace Layer.Description

/-- The texts that present a description. The associated sources may be left out if there are
none. -/
def Presents (d : Description) : List Char → Prop := RecordText
  [⟨primaryName, Written d.primary, False⟩,
    ⟨associatedName, Listed Written d.associated, d.associated = []⟩]

end Layer.Description

namespace Announcement

/-- The texts that present a layer of a sender. -/
def Entry.Presents (e : Entry) : List Char → Prop := RecordText
  [⟨endpointName, Written e.endpoint, False⟩, ⟨layerName, e.layer.Presents, False⟩]

/-- The texts that present a message. -/
def Message.Presents (m : Message) : List Char → Prop := RecordText
  [⟨kindName, Written m.kind, False⟩, ⟨layersName, Listed Entry.Presents m.layers, False⟩]

end Announcement

namespace Switching

/-- The texts that present a snapshot. Orders that are absent may be left out. -/
def Snapshot.Presents (s : Snapshot) : List Char → Prop := RecordText
  [⟨currentName, WrittenOption s.current, s.current = none⟩,
    ⟨nextName, WrittenOption s.next, s.next = none⟩,
    ⟨overrideName, WrittenOption s.override, s.override = none⟩,
    ⟨seenNextName, Written s.seenNext, False⟩, ⟨minNextSeenName, Written s.minNextSeen, False⟩,
    ⟨initializedName, Written s.initialized, False⟩]

/-- The texts that present the counts. -/
def Tally.Presents (t : Tally) : List Char → Prop := RecordText
  (t.members.map fun m => ⟨m.1, Written m.2, False⟩)

end Switching

namespace Wire

/-! ### Reading parts -/

section Parts

variable {α : Type} [Wire α]

theorem written_encode (a : α) : Written a (encode a).write := rfl

theorem reads_of_written [Lawful α] {a : α} {t : List Char} (written : Written a t) :
    Reads (reader α) t (Lawful.document a) := by
  rw [written]
  exact Lawful.reads a

/-- A list of presented values is read if each of them is. -/
theorem reads_of_listed {presents : α → List Char → Prop} {document : α → Json}
    (reads : ∀ a t, presents a t → Reads (reader α) t (document a)) {as : List α} {t : List Char}
    (listed : Listed presents as t) :
    Reads (.list (reader α)) t (.list (as.map document)) := by
  obtain ⟨items, layout⟩ := listed
  exact list_reads (List.forall₂_map_left_iff.mpr (items.imp reads)) layout

/-- The list that is written presents its values, if each text that is written does. -/
theorem listed_write {presents : α → List Char → Prop}
    (written : ∀ a, presents a (encode a).write) (as : List α) :
    Listed presents as (Json.list (as.map encode)).write := by
  have layout := bracketed_list (as.map encode)
  rw [List.map_map] at layout
  exact .intro (List.forall₂_map_right_iff.mpr (List.forall₂_same.mpr fun a _ => written a)) layout

theorem decodeList?_document [Lawful α] (as : List α) :
    decodeList? (.list (as.map Lawful.document)) = some as := by
  rw [decodeList?, List.mapM_map]
  induction as with
  | nil => rfl
  | cons a as ih => simp [Lawful.decode?_document, ih]

end Parts

/-- An object is a text of a record if its members are chosen from the parts. -/
theorem recordText_write {parts : List Part} {ms : List (String × Json)}
    (chosen : Chosen parts (ms.map fun m => (m.1, m.2.write))) :
    RecordText parts (Json.object ms).write := by
  have noOther : ∀ m ∈ ([] : List (String × List Char)), False := fun _ h => nomatch h
  refine .intro chosen (fun m mem => (noOther m mem).elim) (fun m mem => (noOther m mem).elim)
    (.of_eq (List.append_nil _).symm) ?_ (bracketed_object ms)
  exact List.forall₂_map_left_iff.mpr (List.forall₂_map_right_iff.mpr
    (List.forall₂_same.mpr fun m _ => member_writeMember m))

/-- A field that must be there fits its part. -/
theorem fitting_required {α : Type} [Wire α] {name : String} {text : List Char → Prop} {j : Json}
    (reads : ∀ t, text t → Reads (reader α) t j) {fs : List Field} {ps : List Part}
    {js : List Json} (others : Fitting fs ps js) :
    Fitting (required α name :: fs) (⟨name, text, False⟩ :: ps) (j :: js) :=
  .cons rfl reads False.elim others

section Counts

variable {α : Type} [Wire α]

/-- Values with names are chosen as they are written. -/
theorem chosen_written (as : List (String × α)) :
    Chosen (as.map fun m => ⟨m.1, Written m.2, False⟩)
      ((as.map fun m => (m.1, encode m.2)).map fun m => (m.1, m.2.write)) := by
  induction as with
  | nil => exact .nil
  | cons m as ih => exact .written rfl ih

/-- Fields with the names of the values fit them. -/
theorem fitting_written [Lawful α] (as : List (String × α)) :
    Fitting (as.map fun m => required α m.1) (as.map fun m => ⟨m.1, Written m.2, False⟩)
      (as.map fun m => Lawful.document m.2) := by
  induction as with
  | nil => exact .nil
  | cons m as ih => exact fitting_required (fun t => reads_of_written) ih

end Counts

/-- The order of a layer that may be absent fits its part. -/
theorem fitting_order {name : String} (o : Option Layer.Order) {fs : List Field} {ps : List Part}
    {js : List Json} (others : Fitting fs ps js) :
    Fitting (Wire.optional Layer.Order name :: fs) (⟨name, WrittenOption o, o = none⟩ :: ps)
      (Json.ofOption encode o :: js) := by
  refine .cons rfl (fun t written => ?_) (fun absent => by rw [absent]; rfl) others
  rw [written]
  cases o with
  | none => exact optional_null_reads _
  | some o =>
    obtain ⟨c, ds, number, starts⟩ := signed_opens o.rank.toNat
    refine optional_reads (Lawful.reads o) fun head => ?_
    have first : (Json.ofOption encode (some o)).write.head? = some c :=
      congrArg List.head? number
    obtain rfl : c = 'n' := by simpa [first] using head
    cases starts

end Wire

/-! ### The records -/

namespace Layer.Description

theorem presents_write (d : Description) : d.Presents (encode d).write := by
  refine recordText_write (.written rfl ?_)
  unfold associatedMembers
  split
  · next none => exact .omitted none .nil
  · exact .written (listed_write written_encode d.associated) .nil

theorem reads_of_presents {d : Description} {t : List Char} (presents : d.Presents t) :
    Reads (reader Description) t
      (.list [Lawful.document d.primary, .list (d.associated.map Lawful.document)]) := by
  have associated : Fitting [defaulted associatedName (.list (reader Source)) (.list [])]
      [⟨associatedName, Listed Written d.associated, d.associated = []⟩]
      [.list (d.associated.map Lawful.document)] :=
    .cons rfl (fun t => reads_of_listed fun a t => reads_of_written)
      (fun none => by rw [none]; rfl) .nil
  exact record_reads (fitting_required (fun t => reads_of_written) associated) (by decide) presents

instance : Lawful Description where
  document d := .list [Lawful.document d.primary, .list (d.associated.map Lawful.document)]
  decode?_document d := by
    change (do pure (Description.mk (← decode? (Lawful.document d.primary))
      (← decodeList? (.list (d.associated.map Lawful.document))))) = some d
    rw [Lawful.decode?_document, decodeList?_document]
    rfl
  reads d := reads_of_presents d.presents_write

end Layer.Description

namespace Announcement

theorem Entry.presents_write (e : Entry) : e.Presents (encode e).write :=
  recordText_write (.written rfl (.written e.layer.presents_write .nil))

theorem Entry.reads_of_presents {e : Entry} {t : List Char} (presents : e.Presents t) :
    Reads (reader Entry) t (.list [Lawful.document e.endpoint, Lawful.document e.layer]) :=
  record_reads
    (fitting_required (fun t => reads_of_written)
      (fitting_required (fun t => Layer.Description.reads_of_presents) .nil))
    (by decide) presents

instance : Lawful Entry where
  document e := .list [Lawful.document e.endpoint, Lawful.document e.layer]
  decode?_document e := by
    change (do pure (Entry.mk (← decode? (Lawful.document e.endpoint))
      (← decode? (Lawful.document e.layer)))) = some e
    rw [Lawful.decode?_document, Lawful.decode?_document]
    rfl
  reads e := e.reads_of_presents e.presents_write

theorem Message.presents_write (m : Message) : m.Presents (encode m).write :=
  recordText_write (.written rfl (.written (listed_write Entry.presents_write m.layers) .nil))

theorem Message.reads_of_presents {m : Message} {t : List Char} (presents : m.Presents t) :
    Reads (reader Message) t
      (.list [Lawful.document m.kind, .list (m.layers.map Lawful.document)]) := by
  have entry (e : Entry) (t : List Char) (presents : e.Presents t) :
      Reads (reader Entry) t (Lawful.document e) := Entry.reads_of_presents presents
  have layers : Fitting [⟨layersName, .list (reader Entry), none, none⟩]
      [⟨layersName, Listed Entry.Presents m.layers, False⟩]
      [.list (m.layers.map Lawful.document)] :=
    .cons rfl (fun t => reads_of_listed entry) False.elim .nil
  exact record_reads (fitting_required (fun t => reads_of_written) layers) (by decide) presents

instance : Lawful Message where
  document m := .list [Lawful.document m.kind, .list (m.layers.map Lawful.document)]
  decode?_document m := by
    change (do pure (Message.mk (← decode? (Lawful.document m.kind))
      (← decodeList? (.list (m.layers.map Lawful.document))))) = some m
    rw [Lawful.decode?_document, decodeList?_document]
    rfl
  reads m := m.reads_of_presents m.presents_write

end Announcement

namespace Switching

theorem Snapshot.presents_write (s : Snapshot) : s.Presents (encode s).write :=
  recordText_write (.written rfl (.written rfl (.written rfl
    (.written rfl (.written rfl (.written rfl .nil))))))

theorem Snapshot.reads_of_presents {s : Snapshot} {t : List Char} (presents : s.Presents t) :
    Reads (reader Snapshot) t
      (.list [Json.ofOption encode s.current, Json.ofOption encode s.next,
        Json.ofOption encode s.override, Lawful.document s.seenNext,
        Lawful.document s.minNextSeen, Lawful.document s.initialized]) :=
  record_reads
    (fitting_order s.current (fitting_order s.next (fitting_order s.override
      (fitting_required (fun t => reads_of_written) (fitting_required (fun t => reads_of_written)
        (fitting_required (fun t => reads_of_written) .nil))))))
    (by decide) presents

theorem decodeOption?_order (o : Option Layer.Order) :
    decodeOption? (Json.ofOption encode o) = some o := by
  cases o with
  | none => rfl
  | some o => exact congrArg (Option.map some) (Lawful.decode?_document o)

instance : Lawful Snapshot where
  document s := .list [Json.ofOption encode s.current, Json.ofOption encode s.next,
    Json.ofOption encode s.override, Lawful.document s.seenNext,
    Lawful.document s.minNextSeen, Lawful.document s.initialized]
  decode?_document s := by
    change (do pure (Snapshot.mk (← decodeOption? (Json.ofOption encode s.current))
      (← decodeOption? (Json.ofOption encode s.next))
      (← decodeOption? (Json.ofOption encode s.override))
      (← decode? (Lawful.document s.seenNext)) (← decode? (Lawful.document s.minNextSeen))
      (← decode? (Lawful.document s.initialized)))) = some s
    simp only [decodeOption?_order, Lawful.decode?_document]
    rfl
  reads s := s.reads_of_presents s.presents_write

theorem Tally.presents_write (t : Tally) : t.Presents (encode t).write :=
  recordText_write (chosen_written t.members)

theorem Tally.reads_of_presents {t : Tally} {cs : List Char} (presents : t.Presents cs) :
    Reads (reader Tally) cs (.list (t.members.map fun m => Lawful.document m.2)) := by
  have distinct : ((({} : Tally).members.map fun m => required UInt64 m.1).map (·.name)).Nodup := by
    decide
  exact record_reads (fitting_written t.members) distinct presents

instance : Lawful Tally where
  document t := .list (t.members.map fun m => Lawful.document m.2)
  decode?_document t := by
    have counts := decodeList?_document t.counts
    rw [Tally.counts, List.map_map] at counts
    change (decodeList? (.list (t.members.map (Lawful.document ∘ (·.2))))).bind _ = some t
    rw [counts]
    rfl
  reads t := t.reads_of_presents t.presents_write

end Switching

/-! ### All presentations -/

namespace Wire

section Presentations

variable {α : Type} [Wire α] {presents : α → List Char → Prop}

/-- What is written for a value is one of its presentations. -/
theorem presentation_render (write : ∀ a, presents a (encode a).write) (a : α) :
    Presentation presents a (render a) := by
  have presentation := Presentation.intro blanks_nil (write a) blanks_nil
  rwa [List.nil_append, List.append_nil] at presentation

/-- A presentation of a value is parsed as the value, if the texts that present values are read. -/
theorem parse_of_presentation [Lawful α]
    (reads : ∀ {a t}, presents a t → Reads (reader α) t (Lawful.document a)) {a : α} {s : String}
    (presentation : Presentation presents a s) : Wire.parse s = .ok a := by
  obtain ⟨before, text, after⟩ := presentation
  exact parse_of_reads (Lawful.decode?_document a) (reads text) before after

end Presentations

end Wire

open Announcement (Message Entry)

open Layer (Description)

open Switching (Snapshot Tally)

/-- What is written for a value is one of its presentations, and every presentation of a value is
parsed as the value. -/
theorem parse_presentation :
    (∀ m : Message, Presentation Message.Presents m (render m) ∧
      ∀ s, Presentation Message.Presents m s → Wire.parse s = .ok m) ∧
    (∀ e : Entry, Presentation Entry.Presents e (render e) ∧
      ∀ s, Presentation Entry.Presents e s → Wire.parse s = .ok e) ∧
    (∀ d : Description, Presentation Description.Presents d (render d) ∧
      ∀ s, Presentation Description.Presents d s → Wire.parse s = .ok d) ∧
    (∀ p : Snapshot, Presentation Snapshot.Presents p (render p) ∧
      ∀ s, Presentation Snapshot.Presents p s → Wire.parse s = .ok p) ∧
    ∀ t : Tally, Presentation Tally.Presents t (render t) ∧
      ∀ s, Presentation Tally.Presents t s → Wire.parse s = .ok t :=
  ⟨fun m => ⟨presentation_render Message.presents_write m,
      fun _ => parse_of_presentation Message.reads_of_presents⟩,
    fun e => ⟨presentation_render Entry.presents_write e,
      fun _ => parse_of_presentation Entry.reads_of_presents⟩,
    fun d => ⟨presentation_render Description.presents_write d,
      fun _ => parse_of_presentation Description.reads_of_presents⟩,
    fun p => ⟨presentation_render Snapshot.presents_write p,
      fun _ => parse_of_presentation Snapshot.reads_of_presents⟩,
    fun t => ⟨presentation_render Tally.presents_write t,
      fun _ => parse_of_presentation Tally.reads_of_presents⟩⟩

/-- A value with parts inside one another, half of a pair in a name, and a number with all parts. -/
theorem value_nested : Value "[\x7b\"\\ud800\":-0.5e3\x7d]".toList := by
  have number : IsNumber "-0.5e3".toList :=
    @IsNumber.intro ['-'] ['0'] ['.', '5'] ['e', '3'] (by decide) .zero
      (.some ⟨by decide, List.forall_mem_singleton.mpr rfl⟩)
      (@PowerPart.some 'e' [] ['3'] (.inl rfl) (by decide)
        ⟨by decide, List.forall_mem_singleton.mpr rfl⟩)
  have name : IsText "\"\\ud800\"".toList :=
    @IsText.intro ['\\', 'u', 'd', '8', '0', '0'] (.quad (by simp [Text.Numeral.hexDigit?]) .nil)
  have object : Value "\x7b\"\\ud800\":-0.5e3\x7d".toList :=
    @Value.object [("\"\\ud800\"".toList, "-0.5e3".toList)] _ _
      (List.forall_mem_singleton.mpr name) (List.forall_mem_singleton.mpr (.number number))
      (.cons (.intro blanks_nil blanks_nil) .nil) (.filled (.last blanks_nil blanks_nil))
  exact .list (List.forall_mem_singleton.mpr object) (.filled (.last blanks_nil blanks_nil))

/-- A description by its members in the other order, with an empty list of associated sources. -/
theorem presents_description : Description.Presents ⟨7, []⟩
    "\x7b\"associatedSSRCs\":[ ],\"primarySSRC\":7\x7d".toList := by
  have noSource : Listed Written ([] : List Source) "[ ]".toList :=
    .intro .nil (.empty (b := [' ']) (by decide))
  have presents : Description.Presents ⟨7, []⟩ _ := @RecordText.intro _ _
    [(Description.primaryName, ['7']), (Description.associatedName, "[ ]".toList)] [] _ _
    (.written rfl (.written noSource .nil)) (fun _ h => nomatch h) (fun _ h => nomatch h)
    (.swap _ _ [])
    (.cons (.intro blanks_nil blanks_nil) (.cons (.intro blanks_nil blanks_nil) .nil))
    (.filled (.more blanks_nil blanks_nil (.last blanks_nil blanks_nil)))
  exact Eq.mp (congrArg _ (by decide +kernel)) presents

/-- A layer of a sender with a member of unknown name in front. -/
theorem presents_entry : Entry.Presents ⟨⟨"a\"b"⟩, ⟨7, []⟩⟩
    ("\x7b\"x\":[\x7b\"\\ud800\":-0.5e3\x7d],\"endpoint\":\"a\\\"b\",\"simulcastLayer\":" ++
      "\x7b\"associatedSSRCs\":[ ],\"primarySSRC\":7\x7d\x7d").toList := by
  have presents : Entry.Presents ⟨⟨"a\"b"⟩, ⟨7, []⟩⟩ _ := @RecordText.intro _ _
    [(Entry.endpointName, (encode (⟨"a\"b"⟩ : Endpoint.Id)).write),
      (Entry.layerName, "\x7b\"associatedSSRCs\":[ ],\"primarySSRC\":7\x7d".toList)]
    [("x", "[\x7b\"\\ud800\":-0.5e3\x7d]".toList)] _ _
    (.written rfl (.written presents_description .nil))
    (by decide) (List.forall_mem_singleton.mpr value_nested)
    ((List.Perm.swap _ _ _).trans (.cons _ (.swap _ _ [])))
    (.cons (.intro blanks_nil blanks_nil) (.cons (.intro blanks_nil blanks_nil)
      (.cons (.intro blanks_nil blanks_nil) .nil)))
    (.filled (.more blanks_nil blanks_nil (.more blanks_nil blanks_nil
      (.last blanks_nil blanks_nil))))
  exact Eq.mp (congrArg _ (by decide +kernel)) presents

/-- A message with its members in the other order and blanks around them. -/
def shuffledMessage : String :=
  " \x7b \"endpointSimulcastLayers\" : [\x7b\"x\":[\x7b\"\\ud800\":-0.5e3\x7d]," ++
    "\"endpoint\":\"a\\\"b\",\"simulcastLayer\":" ++
    "\x7b\"associatedSSRCs\":[ ],\"primarySSRC\":7\x7d\x7d]," ++
    "\"colibriClass\":\"NextSimulcastLayerStoppedEvent\"\x7d\n"

theorem presentation_shuffledMessage :
    Presentation Message.Presents ⟨.stopped, [⟨⟨"a\"b"⟩, ⟨7, []⟩⟩]⟩ shuffledMessage := by
  have space : Blanks [' '] := by decide
  have line : Blanks ['\n'] := by decide
  have layers : Listed Entry.Presents [⟨⟨"a\"b"⟩, ⟨7, []⟩⟩] _ :=
    .intro (.cons presents_entry .nil) (.filled (.last blanks_nil blanks_nil))
  have presents : Message.Presents ⟨.stopped, [⟨⟨"a\"b"⟩, ⟨7, []⟩⟩]⟩ _ := @RecordText.intro _ _
    [(Message.kindName, (encode Announcement.Kind.stopped).write), (Message.layersName, _)] [] _ _
    (.written rfl (.written layers .nil)) (fun _ h => nomatch h) (fun _ h => nomatch h)
    (.swap _ _ [])
    (.cons (.intro space space) (.cons (.intro blanks_nil blanks_nil) .nil))
    (.filled (.more space blanks_nil (.last blanks_nil blanks_nil)))
  exact Eq.mp (congrArg _ (by decide +kernel)) (Presentation.intro space presents line)

/-- A snapshot without two of its orders, the third one written as absent. -/
def shuffledSnapshot : String :=
  "\x7b\"min_next_seen\":-5,\"next\":null,\"seen_next\":3,\"initialized\":true\x7d"

theorem presentation_shuffledSnapshot :
    Presentation Snapshot.Presents ⟨none, none, none, 3, -5, true⟩ shuffledSnapshot := by
  have presents : Snapshot.Presents ⟨none, none, none, 3, -5, true⟩ _ := @RecordText.intro _ _
    [(Snapshot.nextName, "null".toList), (Snapshot.seenNextName, ['3']),
      (Snapshot.minNextSeenName, ['-', '5']), (Snapshot.initializedName, "true".toList)] [] _ _
    (.omitted rfl (.written rfl (.omitted rfl
      (.written rfl (.written rfl (.written rfl .nil))))))
    (fun _ h => nomatch h) (fun _ h => nomatch h)
    (.trans (.swap _ _ _) (.cons _ (.swap _ _ _)))
    (.cons (.intro blanks_nil blanks_nil) (.cons (.intro blanks_nil blanks_nil)
      (.cons (.intro blanks_nil blanks_nil) (.cons (.intro blanks_nil blanks_nil) .nil))))
    (.filled (.more blanks_nil blanks_nil (.more blanks_nil blanks_nil
      (.more blanks_nil blanks_nil (.last blanks_nil blanks_nil)))))
  exact Eq.mp (congrArg _ (by decide +kernel))
    (Presentation.intro blanks_nil presents blanks_nil)

/-- The message and the snapshot are parsed from these texts. -/
theorem parse_shuffled :
    (Presentation Message.Presents ⟨.stopped, [⟨⟨"a\"b"⟩, ⟨7, []⟩⟩]⟩ shuffledMessage ∧
      Wire.parse shuffledMessage = .ok (⟨.stopped, [⟨⟨"a\"b"⟩, ⟨7, []⟩⟩]⟩ : Message)) ∧
    Presentation Snapshot.Presents ⟨none, none, none, 3, -5, true⟩ shuffledSnapshot ∧
      Wire.parse shuffledSnapshot = .ok (⟨none, none, none, 3, -5, true⟩ : Snapshot) :=
  ⟨⟨presentation_shuffledMessage, (parse_presentation.1 _).2 _ presentation_shuffledMessage⟩,
    presentation_shuffledSnapshot,
    (parse_presentation.2.2.2.1 _).2 _ presentation_shuffledSnapshot⟩

/-! ### Round trips -/

/-- Every value is parsed from the text that is written for it, and so two messages have different
payloads. -/
theorem wire_round_trip :
    (∀ m : Message, Wire.parse (render m) = .ok m) ∧
    (∀ e : Entry, Wire.parse (render e) = .ok e) ∧
    (∀ d : Description, Wire.parse (render d) = .ok d) ∧
    (∀ k : Announcement.Kind, Wire.parse (render k) = .ok k) ∧
    (∀ o : Layer.Order, Wire.parse (render o) = .ok o) ∧
    (∀ i : Endpoint.Id, Wire.parse (render i) = .ok i) ∧
    (∀ t : Switching.Target, Wire.parse (render t) = .ok t) ∧
    (∀ p : Snapshot, Wire.parse (render p) = .ok p) ∧
    (∀ t : Tally, Wire.parse (render t) = .ok t) ∧
    Function.Injective Message.payload :=
  ⟨parse_render, parse_render, parse_render, parse_render, parse_render, parse_render,
    parse_render, parse_render, parse_render, render_injective⟩

end Simulcast
