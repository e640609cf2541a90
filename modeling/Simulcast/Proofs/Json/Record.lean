import Simulcast.Proofs.Json.Reading
import Mathlib.Data.List.Nodup
import Mathlib.Data.List.Perm.Basic

/-!
# Reading records

The texts of a record are the objects that have a member for each of its parts, in any order and
layout, with other members of any name and value between them; some parts may be left out
(`RecordText`). A record is read from each of its texts, and what is read does not depend on which
of them it is (`record_reads`). An alternative is read from its name, or from an object with the
name and the value (`choice_bare_reads`, `choice_reads`).
-/

namespace Simulcast.Json

/-! ### The texts of a record -/

/-- A part of a record as it can be written. -/
structure Part where
  /-- The name of the member. -/
  name : String
  /-- The texts that write the value. -/
  text : List Char → Prop
  /-- Whether the member may be left out. -/
  omissible : Prop

/-- Members with their names and the texts of their values: one for each part, in the order of the
parts, some left out. -/
inductive Chosen : List Part → List (String × List Char) → Prop where
  /-- No part. -/
  | nil : Chosen [] []
  /-- The part has a member. -/
  | written {p : Part} {t : List Char} {ps : List Part} {ms : List (String × List Char)}
    (text : p.text t) (others : Chosen ps ms) : Chosen (p :: ps) ((p.name, t) :: ms)
  /-- The part is left out. -/
  | omitted {p : Part} {ps : List Part} {ms : List (String × List Char)} (omissible : p.omissible)
    (others : Chosen ps ms) : Chosen (p :: ps) ms

/-- The texts of a record: objects with the members of its parts and others, in any order. -/
inductive RecordText (parts : List Part) (cs : List Char) : Prop where
  /-- The other members have names that are no part's, and any values. -/
  | intro {own foreign members : List (String × List Char)} {pieces : List (List Char)}
    (chosen : Chosen parts own) (unknown : ∀ m ∈ foreign, ∀ p ∈ parts, p.name ≠ m.1)
    (values : ∀ m ∈ foreign, Value m.2) (order : members.Perm (own ++ foreign))
    (written : List.Forall₂ (fun m p => Member (writeText m.1.toList) m.2 p) members pieces)
    (layout : Bracketed '{' '}' pieces cs)

/-- Fields that read the documents from the texts of the parts, one after the other. -/
inductive Fitting : List Field → List Part → List Json → Prop where
  /-- No field. -/
  | nil : Fitting [] [] []
  /-- A field has the name of its part, reads each of its texts, and has a default if the part may
  be left out. -/
  | cons {f : Field} {p : Part} {j : Json} {fs : List Field} {ps : List Part} {js : List Json}
    (name : f.name = p.name) (reads : ∀ t, p.text t → Reads f.read t j)
    (absent : p.omissible → f.absent = some j) (others : Fitting fs ps js) :
    Fitting (f :: fs) (p :: ps) (j :: js)

theorem Fitting.names {fs : List Field} {ps : List Part} {js : List Json}
    (fits : Fitting fs ps js) : fs.map (·.name) = ps.map (·.name) := by
  induction fits with
  | nil => rfl
  | cons name reads absent others ih => rw [List.map_cons, List.map_cons, name, ih]

namespace Reader

/-! ### One member -/

/-- What a member adds to what is read of an object. -/
inductive Adds (fields : List Field) : String × List Char → List (String × Json) → Prop where
  /-- The member of a field adds the document that is read. -/
  | field {f : Field} {t : List Char} {j : Json} (mem : f ∈ fields) (reads : Reads f.read t j) :
    Adds fields (f.name, t) [(f.name, j)]
  /-- Another member adds nothing. -/
  | other {name : String} {t : List Char} (unknown : ∀ f ∈ fields, f.name ≠ name)
    (value : Value t) : Adds fields (name, t) []

section Members

variable {fields : List Field}

theorem find?_field (distinct : (fields.map (·.name)).Nodup) {f : Field} (mem : f ∈ fields) :
    fields.find? (fun g => g.name = f.name) = some f := by
  cases found : fields.find? (fun g => g.name = f.name) with
  | none =>
    have := List.find?_eq_none.mp found f mem
    simp at this
  | some g =>
    have same : g.name = f.name := by simpa using List.find?_some found
    rw [List.inj_on_of_nodup_map distinct (List.mem_of_find?_eq_some found) mem same]

/-- A member is read behind its name as it should be, if it is the first one of its field. -/
theorem memberValue_adds (distinct : (fields.map (·.name)).Nodup) {m : String × List Char}
    {vs members : List (String × Json)} (adds : Adds fields m vs)
    (fresh : ∀ v ∈ vs, members.lookup v.1 = none) {b b' rest : List Char} (before : Blanks b)
    (after : Blanks b') (ends : Ends rest) :
    memberValue fields m.1 members (b ++ ':' :: (b' ++ (m.2 ++ rest))) =
      .ok (vs ++ members, rest) := by
  cases adds with
  | @field f t j mem reads =>
    have first : members.lookup f.name = none := fresh _ List.mem_cons_self
    simp only [memberValue, find?_field distinct mem, first, Option.isSome_none, Bool.false_eq_true,
      if_false, Skip.colon_append before, ok_bind, reads.read b' rest after ends]
    rfl
  | @other name t unknown value =>
    have none : fields.find? (fun g => g.name = name) = none :=
      List.find?_eq_none.mpr fun f mem => by simpa using unknown f mem
    simp only [memberValue, none, Skip.colon_append before, ok_bind,
      Skip.skip_value value after ends]
    rfl

/-- A member is read from behind its opening quote. -/
theorem member_read (distinct : (fields.map (·.name)).Nodup) {m : String × List Char}
    {p : List Char} (member : Member (writeText m.1.toList) m.2 p)
    {vs members : List (String × Json)} (adds : Adds fields m vs)
    (fresh : ∀ v ∈ vs, members.lookup v.1 = none) :
    ∃ q, p = '"' :: q ∧ ∀ rest, Ends rest → ∃ cs,
      textBody [] (q ++ rest) = .ok (m.1.toList, cs) ∧
        memberValue fields m.1 members cs = .ok (vs ++ members, rest) := by
  obtain @⟨b, b', before, after⟩ := member
  refine ⟨m.1.toList.flatMap escape ++ ('"' :: (b ++ ':' :: (b' ++ m.2))), by simp [writeText],
    fun rest ends => ⟨b ++ ':' :: (b' ++ (m.2 ++ rest)), ?_, ?_⟩⟩
  · simpa using textBody_escaped m.1.toList [] (b ++ ':' :: (b' ++ (m.2 ++ rest)))
  · exact memberValue_adds distinct adds fresh before after ends

theorem Adds.reverse {m : String × List Char} {vs : List (String × Json)}
    (adds : Adds fields m vs) : vs.reverse = vs := by
  cases adds <;> rfl

/-! ### All members -/

theorem lookup_eq_none_of_not_mem {name : String} {vs : List (String × Json)}
    (fresh : name ∉ vs.map (·.1)) : vs.lookup name = none := by
  refine List.lookup_eq_none_iff.mpr fun v mem => ?_
  have : name ≠ v.1 := fun eq => fresh (eq ▸ List.mem_map_of_mem mem)
  simpa using this

/-- A name that is used once is not among the members that were read before. -/
theorem fresh_of_nodup {vs ws members : List (String × Json)}
    (once : ((vs ++ ws ++ members).map (·.1)).Nodup) : ∀ v ∈ vs, members.lookup v.1 = none := by
  intro v mem
  rw [List.append_assoc, List.map_append, List.map_append, List.nodup_append] at once
  refine lookup_eq_none_of_not_mem fun again => ?_
  exact once.2.2 v.1 (List.mem_map_of_mem mem) v.1 (List.mem_append_right _ again) rfl

/-- The members of an object are read one after the other, each adding what it should. -/
theorem membersFrom_append (distinct : (fields.map (·.name)).Nodup)
    {ms : List (String × List Char)} {ps : List (List Char)}
    (written : List.Forall₂ (fun m p => Member (writeText m.1.toList) m.2 p) ms ps)
    {added : List (List (String × Json))} (adds : List.Forall₂ (Adds fields) ms added)
    {cs : List Char} (pieces : Sequel '}' ps cs) {members : List (String × Json)}
    (once : ((added.flatten ++ members).map (·.1)).Nodup) :
    ∃ b q, Blanks b ∧ cs = b ++ '"' :: q ∧ ps.length ≤ q.length ∧
      ∀ fuel rest, ps.length ≤ fuel → membersFrom fields fuel members (q ++ rest) =
        .ok (added.flatten.reverse ++ members, rest) := by
  induction pieces generalizing ms added members with
  | @last b p b' before after =>
    obtain _ | ⟨member, _ | _⟩ := written
    obtain _ | @⟨m, vs, _, _, first, _ | _⟩ := adds
    obtain ⟨q, rfl, read⟩ := member_read distinct member first (fresh_of_nodup once)
    refine ⟨b, q ++ (b' ++ ['}']), before, by simp, by simp; omega, fun fuel rest enough => ?_⟩
    obtain ⟨fuel, rfl⟩ : ∃ k, fuel = k + 1 := Nat.exists_eq_add_of_le' enough
    obtain ⟨cs, named, value⟩ := read (b' ++ '}' :: rest) ((ends_cons rfl).append after)
    have sum : ([vs].flatten).reverse = vs := by simpa using first.reverse
    rw [sum]
    simp [membersFrom, named, value, skipBlanks_to '}' after]
  | @more b p b' ps cs before after pieces ih =>
    obtain _ | ⟨member, written⟩ := written
    obtain _ | @⟨m, vs, _, added, first, others⟩ := adds
    obtain ⟨q, rfl, read⟩ := member_read distinct member first (fresh_of_nodup once)
    have once' : ((added.flatten ++ (vs ++ members)).map (·.1)).Nodup := by
      refine ((List.Perm.map _ ?_).nodup_iff).mp once
      rw [List.flatten_cons, List.append_assoc]
      exact List.perm_append_comm_assoc vs added.flatten members
    obtain ⟨b₂, q₂, blanks, rfl, long, read_others⟩ := ih written others once'
    refine ⟨b, q ++ (b' ++ ',' :: (b₂ ++ '"' :: q₂)), before, by simp, by simp; omega,
      fun fuel rest enough => ?_⟩
    obtain ⟨fuel, rfl⟩ : ∃ k, fuel = k + 1 :=
      Nat.exists_eq_add_of_le' (by simp at enough; omega)
    obtain ⟨cs, named, value⟩ :=
      read (b' ++ ',' :: (b₂ ++ '"' :: (q₂ ++ rest))) ((ends_cons rfl).append after)
    have sum : ((vs :: added).flatten).reverse ++ members =
        added.flatten.reverse ++ (vs ++ members) := by
      simp [first.reverse]
    rw [sum, ← read_others fuel rest (by simp at enough; omega)]
    simp [membersFrom, named, value, skipBlanks_to ',' after, skipBlanks_to '"' blanks]

/-- An object is read as what its members add. -/
theorem members_bracketed (distinct : (fields.map (·.name)).Nodup)
    {ms : List (String × List Char)} {ps : List (List Char)}
    (written : List.Forall₂ (fun m p => Member (writeText m.1.toList) m.2 p) ms ps)
    {added : List (List (String × Json))} (adds : List.Forall₂ (Adds fields) ms added)
    (once : (added.flatten.map (·.1)).Nodup) {cs : List Char} (layout : Bracketed '{' '}' ps cs) :
    ∃ ds, cs = '{' :: ds ∧ ∀ rest,
      members fields (ds ++ rest) = .ok (added.flatten.reverse, rest) := by
  cases layout with
  | @empty b blanks =>
    cases written
    cases adds
    refine ⟨_, rfl, fun rest => ?_⟩
    simp [members, skipBlanks_to '}' blanks]
  | @filled ps cs pieces =>
    have once' : ((added.flatten ++ ([] : List (String × Json))).map (·.1)).Nodup := by
      rwa [List.append_nil]
    obtain ⟨b, q, blanks, rfl, long, read⟩ :=
      membersFrom_append distinct written adds pieces once'
    refine ⟨_, rfl, fun rest => ?_⟩
    have enough : ps.length ≤ (q ++ rest).length + 1 := by simp; omega
    simpa [members, skipBlanks_to '"' blanks] using read _ rest enough

/-- The values of the fields are collected in the order of the fields. -/
theorem collect_eq {members : List (String × Json)} {fs : List Field} {js : List Json}
    (values : List.Forall₂ (fun f j => (members.lookup f.name <|> f.absent) = some j) fs js) :
    collect members fs = .ok js := by
  induction values with
  | nil => rfl
  | cons value others ih => simp [collect, value, ih, Except.map]

/-- A name that is used once leads to its value. -/
theorem lookup_of_mem {vs : List (String × Json)} (once : (vs.map (·.1)).Nodup) {name : String}
    {j : Json} (mem : (name, j) ∈ vs) : vs.lookup name = some j := by
  induction vs with
  | nil => cases mem
  | cons v vs ih =>
    rw [List.map_cons, List.nodup_cons] at once
    rcases List.mem_cons.mp mem with rfl | mem
    · simp
    · have other : (name == v.1) = false :=
        beq_false_of_ne fun eq => once.1 (eq ▸ List.mem_map_of_mem mem)
      rw [List.lookup_cons, other]
      exact ih once.2 mem

/-- The members of the parts add the documents of the fields; the other fields have a default. -/
theorem adds_of_chosen {fs : List Field} {ps : List Part} {js : List Json}
    (fits : Fitting fs ps js) {own : List (String × List Char)} (chosen : Chosen ps own)
    (known : ∀ f ∈ fs, f ∈ fields) (distinct : (fs.map (·.name)).Nodup) :
    ∃ vs : List (String × Json), List.Forall₂ (fun m v => Adds fields m [v]) own vs ∧
      (vs.map (·.1)).Sublist (fs.map (·.name)) ∧
      List.Forall₂ (fun f j => (f.name, j) ∈ vs ∨ f.name ∉ vs.map (·.1) ∧ f.absent = some j)
        fs js := by
  induction fits generalizing own with
  | nil =>
    cases chosen
    exact ⟨[], .nil, .slnil, .nil⟩
  | @cons f p j fs ps js name reads absent others ih =>
    rw [List.map_cons, List.nodup_cons] at distinct
    have rest := fun own chosen =>
      @ih own chosen (fun g mem => known g (List.mem_cons_of_mem f mem)) distinct.2
    cases chosen with
    | @written _ t _ ms text chosen =>
      obtain ⟨vs, adds, sub, values⟩ := rest ms chosen
      have first : Adds fields (p.name, t) [(f.name, j)] :=
        name ▸ .field (known f List.mem_cons_self) (reads t text)
      refine ⟨(f.name, j) :: vs, .cons first adds, sub.cons_cons f.name,
        .cons (.inl List.mem_cons_self) ?_⟩
      have other : ∀ g ∈ fs, g.name ≠ f.name := fun g mem eq =>
        distinct.1 (eq ▸ List.mem_map_of_mem mem)
      refine ((List.forall₂_and_left fs js).mpr ⟨other, values⟩).imp fun g k ⟨ne, value⟩ => ?_
      exact value.imp (List.mem_cons_of_mem _) fun ⟨unwritten, default⟩ =>
        ⟨fun mem => (List.mem_cons.mp mem).elim ne unwritten, default⟩
    | omitted omissible chosen =>
      obtain ⟨vs, adds, sub, values⟩ := rest own chosen
      refine ⟨vs, adds, sub.cons f.name, .cons (.inr ⟨?_, absent omissible⟩) values⟩
      exact fun mem => distinct.1 (sub.subset mem)

/-- The members of a text of a record add the documents of its fields, in some order. -/
theorem adds_of_members {parts : List Part} {js : List Json} (fits : Fitting fields parts js)
    (distinct : (fields.map (·.name)).Nodup) {own foreign members : List (String × List Char)}
    (chosen : Chosen parts own) (unknown : ∀ m ∈ foreign, ∀ p ∈ parts, p.name ≠ m.1)
    (values : ∀ m ∈ foreign, Value m.2) (order : members.Perm (own ++ foreign)) :
    ∃ added vs, List.Forall₂ (Adds fields) members added ∧ added.flatten.Perm vs ∧
      (vs.map (·.1)).Nodup ∧
      List.Forall₂ (fun f j => (f.name, j) ∈ vs ∨ f.name ∉ vs.map (·.1) ∧ f.absent = some j)
        fields js := by
  obtain ⟨vs, adds, sub, read⟩ := adds_of_chosen fits chosen (fun f mem => mem) distinct
  have others : List.Forall₂ (Adds fields) foreign (foreign.map fun _ => []) := by
    refine List.forall₂_map_right_iff.mpr (List.forall₂_same.mpr fun m mem => ?_)
    refine .other (fun f known => ?_) (values m mem)
    have named : f.name ∈ parts.map (·.name) := fits.names ▸ List.mem_map_of_mem known
    obtain ⟨p, part, eq⟩ := List.mem_map.mp named
    exact eq ▸ unknown m mem p part
  have all := List.rel_append (List.forall₂_map_right_iff.mpr adds) others
  obtain ⟨added, all, perm⟩ := List.perm_comp_forall₂ order all
  have nothing : (foreign.map fun _ => ([] : List (String × Json))).flatten = [] :=
    List.flatten_eq_nil_iff.mpr (by simp)
  have sum : ((vs.map fun v => [v]) ++ foreign.map fun _ => []).flatten = vs := by
    rw [List.flatten_append, nothing, List.append_nil, ← List.flatMap_def, List.flatMap_singleton']
  exact ⟨added, vs, all, perm.flatten.trans (.of_eq sum), distinct.sublist sub, read⟩

/-- The values of the fields are collected from the members in any order, if each name is used
once. -/
theorem collect_of_perm {members vs : List (String × Json)} (perm : members.Perm vs)
    (once : (vs.map (·.1)).Nodup) {fs : List Field} {js : List Json}
    (values : List.Forall₂
      (fun f j => (f.name, j) ∈ vs ∨ f.name ∉ vs.map (·.1) ∧ f.absent = some j) fs js) :
    collect members fs = .ok js := by
  refine collect_eq (values.imp fun f j value => ?_)
  obtain mem | ⟨unwritten, default⟩ := value
  · have found : members.lookup f.name = some j :=
      lookup_of_mem ((perm.map _).nodup_iff.mpr once) (perm.mem_iff.mpr mem)
    rw [found]
    rfl
  · have missing : members.lookup f.name = none :=
      lookup_eq_none_of_not_mem fun mem => unwritten ((perm.map _).mem_iff.mp mem)
    rw [missing, default]
    rfl

end Members

/-- A record is read from each of its texts, as the documents of its parts. -/
theorem record_reads {name : String} {fields : List Field} {parts : List Part} {js : List Json}
    (fits : Fitting fields parts js) (distinct : (fields.map (·.name)).Nodup) {cs : List Char}
    (text : RecordText parts cs) : Reads (record name fields) cs (.list js) := by
  obtain ⟨chosen, unknown, values, order, written, layout⟩ := text
  obtain ⟨added, vs, adds, perm, once, read⟩ :=
    adds_of_members fits distinct chosen unknown values order
  have once' : (added.flatten.map (·.1)).Nodup := (perm.map _).nodup_iff.mpr once
  obtain ⟨ds, rfl, read_members⟩ := members_bracketed distinct written adds once' layout
  -- The reader keeps the members with the last one first.
  have collected : collect added.flatten.reverse fields = .ok js :=
    collect_of_perm ((List.reverse_perm _).trans perm) once read
  refine ⟨layout.opens rfl, fun b rest blanks _ => ?_⟩
  simp [record, skipBlanks_to '{' blanks, read_members rest, collected]

/-! ### Alternatives -/

section Alternatives

variable {alternatives : List (String × Option (Reader Json))} {name : String}

/-- An alternative without a value is read from its name. -/
theorem choice_bare_reads (bare : alternatives.lookup name = some none) :
    Reads (choice alternatives) (writeText name.toList) (.list [.text name, .null]) := by
  refine ⟨writeText_opens _, fun b rest blanks _ => ?_⟩
  have skipped := (writeText_opens name.toList).skipBlanks_append blanks rest
  have body := textBody_escaped name.toList [] rest
  rw [choice, skipped]
  simp [writeText, body, bare]

/-- An alternative with a value is read from an object with the name and the value. -/
theorem choice_reads {value : Reader Json} (known : alternatives.lookup name = some (some value))
    {t p cs : List Char} {j : Json} (reads : Reads value t j)
    (member : Member (writeText name.toList) t p) (layout : Bracketed '{' '}' [p] cs) :
    Reads (choice alternatives) cs (.list [.text name, j]) := by
  refine ⟨layout.opens rfl, fun b rest blanks _ => ?_⟩
  obtain @⟨b₃, b₄, before', after'⟩ := member
  obtain _ | ⟨@⟨b₁, _, b₂, before, after⟩ | ⟨-, -, ⟨⟩⟩⟩ := layout
  have ends : Ends (b₂ ++ '}' :: rest) := (ends_cons rfl).append after
  have body := textBody_escaped name.toList [] (b₃ ++ ':' :: (b₄ ++ (t ++ (b₂ ++ '}' :: rest))))
  simp [choice, writeText, skipBlanks_to '{' blanks, skipBlanks_to '"' before, body, known,
    Skip.colon_append before', reads.read b₄ _ after' ends, skipBlanks_to '}' after]

end Alternatives

end Reader

end Simulcast.Json
