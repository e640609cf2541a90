import Simulcast.Proofs.Settings.Arrangement

/-!
# Layers of settings

Each field of the settings is taken on its own: from the variable of the environment that sets it,
or else from the document in the file, or else it has its default. The variables and the document
become one tree, in which the paths to the fields lead to these values (`get?_putAll_entries`,
`gives_putAll_root_iff`), whatever else the document says and in whatever order the entries come. So
`layered_by_field` says of each field where its value is from, and when there is one.
-/

namespace Simulcast.Settings

/-! ### Variables -/

/-- The key of the field. -/
def Field.key (v : Field) : String := v.group ++ "." ++ v.name

theorem Field.key_inj {v w : Field} : w.key = v.key ↔ w = v := by
  cases v <;> cases w <;> decide +kernel

theorem Field.ofKey_key (v : Field) : Path.ofKey v.key = v.path := by
  cases v <;> decide +kernel

namespace Environment

/-- What the variables set a field to. Names are read in small letters, and of several variables
for one field the last one counts. -/
def setting? (v : Field) : List (String × String) → Option Tree
  | [] => none
  | e :: vars =>
    (setting? v vars).or
      (if Text.LowerCase.text e.1 = v.variableName then
        some (.scalar (some .environment) (value e.2))
      else none)

/-- The variables that are for this library set fields. -/
def SetsFields (vars : List (String × String)) : Prop :=
  ∀ e ∈ vars, key? e.1 = none ∨ ∃ v : Field, Text.LowerCase.text e.1 = v.variableName

/-- The name of a variable is read as the key of the field that it sets. -/
theorem key?_of_variableName {name : String} {v : Field}
    (named : Text.LowerCase.text name = v.variableName) : key? name = some v.key := by
  rw [key?, named]
  cases v <;> decide +kernel

theorem variableName_inj {v w : Field} : w.variableName = v.variableName ↔ w = v := by
  cases v <;> cases w <;> decide

/-- Each of the entries gives a field a scalar. -/
def Flat (entries : List (String × Tree)) : Prop :=
  ∀ e ∈ entries, ∃ (v : Field) (x : Scalar), e = (v.key, .scalar (some .environment) x)

variable {vars : List (String × String)} {es : List (String × Tree)} {e : String × String}
  {t : Tree}

/-- A variable is not for this library and is passed over, or its value becomes that of the key of a
field. -/
theorem enter_eq (sets : SetsFields (e :: vars)) (es : List (String × Tree)) :
    (∀ v : Field, Text.LowerCase.text e.1 ≠ v.variableName) ∧ enter es e = es ∨
      ∃ v : Field, Text.LowerCase.text e.1 = v.variableName ∧
        enter es e =
          Tree.alterEntry v.key (fun _ => .scalar (some .environment) (value e.2)) es := by
  obtain foreign | ⟨v, named⟩ := sets e List.mem_cons_self
  · refine .inl ⟨fun v named => ?_, by rw [enter, foreign]⟩
    have key := key?_of_variableName named
    rw [foreign] at key
    cases key
  · exact .inr ⟨v, named, by rw [enter, key?_of_variableName named]⟩

theorem SetsFields.tail (sets : SetsFields (e :: vars)) : SetsFields vars :=
  fun e there => sets e (List.mem_cons_of_mem _ there)

/-- What the variables say gives fields scalars, -/
theorem flat_entries (sets : SetsFields vars) : Flat (entries vars) := by
  suffices kept : ∀ es, Flat es → Flat (vars.foldl enter es) from kept [] (by simp [Flat])
  induction vars with
  | nil => exact fun _ flat => flat
  | cons e vars ih =>
    intro es flat
    refine ih sets.tail _ fun e' there => ?_
    obtain ⟨-, passed⟩ | ⟨v, -, entered⟩ := enter_eq sets es
    · exact flat e' (passed ▸ there)
    · rw [entered] at there
      obtain here | before := Tree.mem_alterEntry there
      · exact ⟨v, _, here⟩
      · exact flat e' before

/-- and each field the one that they set it to. -/
theorem lookup_entries (sets : SetsFields vars) (w : Field) :
    (entries vars).lookup w.key = setting? w vars := by
  suffices found : ∀ es : List (String × Tree), (vars.foldl enter es).lookup w.key =
      (setting? w vars).or (es.lookup w.key) by
    exact (found []).trans Option.or_none
  induction vars with
  | nil => exact fun _ => rfl
  | cons e vars ih =>
    intro es
    rw [List.foldl_cons, ih sets.tail, setting?]
    obtain ⟨foreign, passed⟩ | ⟨v, named, entered⟩ := enter_eq sets es
    · rw [passed, if_neg (foreign w), Option.or_none]
    · rw [entered, Tree.lookup_alterEntry, named, Option.or_assoc]
      by_cases same : w = v
      · simp [same]
      · simp [Field.key_inj, variableName_inj, same, Ne.symm same]

/-- Entries that give fields scalars lie over the tree, field by field. -/
theorem get?_putAll_of_flat (flat : Flat es) (once : (namesOf es).Nodup) (w : Field) (t : Tree) :
    (t.putAll es).get? w.path = (es.lookup w.key).or (t.get? w.path) := by
  induction es generalizing t with
  | nil => rfl
  | cons e es ih =>
    obtain ⟨v, x, rfl⟩ := flat e List.mem_cons_self
    obtain ⟨fresh, once⟩ := List.nodup_cons.1 once
    have rest := ih (fun e there => flat e (List.mem_cons_of_mem _ there)) once
      (t.put v.key (.scalar (some .environment) x))
    have put : (t.putAll ((v.key, .scalar (some .environment) x) :: es)).get? w.path =
        ((t.put v.key (.scalar (some .environment) x)).putAll es).get? w.path := rfl
    rw [put, rest, Tree.put, v.ofKey_key, Tree.get?_alter_path, Tree.lookup_cons_ite]
    by_cases same : w = v
    · subst same
      simp [Tree.lookup_eq_none fresh, Tree.overlay]
    · simp [same, Field.key_inj]

/-- **What the variables set lies over the tree, field by field**, in whatever order it comes. -/
theorem get?_putAll_entries (sets : SetsFields vars) (order : Arrangement) (w : Field) (t : Tree) :
    (t.putAll (order.arrange (entries vars))).get? w.path =
      (setting? w vars).or (t.get? w.path) := by
  have perm := order.perm (entries vars)
  have flat : Flat (order.arrange (entries vars)) :=
    fun e there => flat_entries sets e (perm.mem_iff.1 there)
  have once : (namesOf (order.arrange (entries vars))).Nodup :=
    (perm.map _).nodup_iff.2 (nodup_entries vars)
  rw [get?_putAll_of_flat flat once, lookup_of_perm perm (nodup_entries vars),
    lookup_entries sets]

theorem grouped_putAll_of_flat (flat : Flat es) (grouped : t.Grouped) : (t.putAll es).Grouped := by
  induction es generalizing t with
  | nil => exact grouped
  | cons e es ih =>
    obtain ⟨v, x, rfl⟩ := flat e List.mem_cons_self
    refine ih (fun e there => flat e (List.mem_cons_of_mem _ there)) ?_
    show (t.alter _ (Path.ofKey v.key)).Grouped
    rw [v.ofKey_key]
    exact grouped.alter_path v _

theorem grouped_putAll_entries (sets : SetsFields vars) (order : Arrangement)
    (grouped : t.Grouped) : (t.putAll (order.arrange (entries vars))).Grouped :=
  grouped_putAll_of_flat
    (fun e there => flat_entries sets e ((order.perm _).mem_iff.1 there)) grouped

end Environment

/-! ### Documents -/

/-- What a document says of a field. -/
def Field.in? (v : Field) (document : List (String × Tree)) : Option Tree :=
  (document.lookup v.group).bind fun t => t.child? (.key v.name)

/-- A document that says its settings plainly: no name at its root is written as a path, and the
settings of switching and those of the journal are tables, if they are there. -/
structure Simple (document : List (String × Tree)) : Prop where
  /-- No name is written as a path. -/
  plain : ∀ e ∈ document, Path.ofKey e.1 = [.key e.1]
  /-- The settings are tables. -/
  tables : ∀ (v : Field) (t : Tree), document.lookup v.group = some t → t.isTable = true

instance (document : List (String × Tree)) : Decidable (Simple document) :=
  decidable_of_iff ((∀ e ∈ document, Path.ofKey e.1 = [.key e.1]) ∧
      (document.lookup switchingName).all Tree.isTable = true ∧
      (document.lookup loggingName).all Tree.isTable = true) <| by
    simp only [Option.all_eq_true]
    constructor
    · rintro ⟨plain, switching, logging⟩
      refine ⟨plain, ?_⟩
      rintro (_ | _ | _ | _ | _)
      exacts [switching, logging, logging, logging, logging]
    · rintro ⟨plain, tables⟩
      exact ⟨plain, tables .minNextSeen, tables .level⟩

variable {document document' : List (String × Tree)} {v : Field} {x : v.Value}

/-- Whether it does is no matter of the order of its entries. -/
theorem Simple.of_perm (simple : Simple document) (once : Once document)
    (perm : document'.Perm document) : Simple document' where
  plain e there := simple.plain e (perm.mem_iff.1 there)
  tables v t entry := simple.tables v t (lookup_of_perm perm once.root _ ▸ entry)

theorem Field.in?_of_perm (v : Field) (once : Once document) (perm : document'.Perm document) :
    v.in? document' = v.in? document := by
  rw [Field.in?, Field.in?, lookup_of_perm perm once.root]

/-- No field is taken from a table. -/
theorem Field.take_of_isTable {t : Tree} (table : t.isTable = true) : v.take t ≠ .ok x := by
  obtain ⟨origin, entries, rfl⟩ := Tree.eq_table_of_isTable table
  cases v <;> rintro ⟨⟩

/-- A field is taken from a tree laid over nothing as from the tree. -/
theorem Field.take_overlay_nothing (t : Tree) :
    v.take (t.overlay .nothing) = .ok x ↔ v.take t = .ok x := by
  obtain ⟨after, before⟩ | same := t.overlay_nothing
  · exact iff_of_false (v.take_of_isTable after) (v.take_of_isTable before)
  · rw [same]

/-- The tree of a document has the entries of the document, each laid over nothing. -/
theorem child?_putAll_root (simple : Simple document) (once : Once document) (name : String) :
    (Tree.root.putAll document).child? (.key name) =
      (document.lookup name).map fun t => t.overlay .nothing := by
  rw [Tree.putAll_eq_overlayEntries simple.plain, Tree.child?_overlayEntries once.root]
  exact Option.or_none

theorem grouped_putAll_root (simple : Simple document) (once : Once document) :
    (Tree.root.putAll document).Grouped where
  table := Tree.isTable_putAll rfl document
  groups := by
    intro v u entry
    rw [child?_putAll_root simple once, Option.map_eq_some_iff] at entry
    obtain ⟨t, there, rfl⟩ := entry
    have table := simple.tables v t there
    obtain ⟨after, -⟩ | same := t.overlay_nothing
    · exact after
    · rw [same, table]

/-- **The tree of a document gives each field as the document does.** -/
theorem gives_putAll_root_iff (simple : Simple document) (once : Once document)
    (above : Option Tree) :
    v.Gives (above.or ((Tree.root.putAll document).get? v.path)) x ↔
      v.Gives (above.or (v.in? document)) x := by
  cases above with
  | some t => exact Iff.rfl
  | none =>
    rw [Option.none_or, Option.none_or, Tree.get?_path, child?_putAll_root simple once, Field.in?]
    cases entry : document.lookup v.group with
    | none => exact Iff.rfl
    | some t =>
      obtain ⟨origin, entries, rfl⟩ := Tree.eq_table_of_isTable (simple.tables v t entry)
      have there : (v.group, .table origin entries) ∈ document := by
        obtain ⟨before, after, rfl, -⟩ := List.lookup_eq_some_iff.1 entry
        simp
      have names := once.table _ _ _ there
      have fields : ((Tree.table origin entries).overlay .nothing).child? (.key v.name) =
          (entries.lookup v.name).map fun u => u.overlay .nothing :=
        (Tree.child?_overlayEntries names .root v.name).trans Option.or_none
      rw [Option.map_some, Option.bind_some, Option.bind_some, fields]
      show v.Gives _ x ↔ v.Gives (entries.lookup v.name) x
      cases entries.lookup v.name with
      | none => exact Iff.rfl
      | some u => exact v.take_overlay_nothing u

/-! ### Layering -/

/-- What sets a field: its variable, or else the document. -/
def Field.source? (v : Field) (vars : List (String × String)) (document : List (String × Tree)) :
    Option Tree :=
  (Environment.setting? v vars).or (v.in? document)

/-- The settings are those that give each field what its source says. -/
theorem load_eq_ok_iff {s : Sources} (read : s.fileEntries = .ok document)
    (simple : Simple document) (sets : Environment.SetsFields s.environment) (b : Build)
    {a : All} :
    s.load b = .ok a ↔ ∀ v : Field, v.Gives (v.source? s.environment document) (v.of a) := by
  have perm := b.file.perm document
  have once := once_fileEntries read
  have once' := once.of_perm perm
  have simple' := simple.of_perm once perm
  have merged : s.load b = (((Tree.root.putAll (b.file.arrange document)).putAll
      (b.environment.arrange (Environment.entries s.environment))).toAll).mapError .mismatch := by
    rw [Sources.load, Sources.tree, read]
    rfl
  have grouped := Environment.grouped_putAll_entries sets b.environment
    (grouped_putAll_root simple' once')
  rw [merged, mapError_eq_ok_iff, Tree.toAll_eq_ok_iff grouped]
  refine forall_congr' fun v => ?_
  rw [Environment.get?_putAll_entries sets, gives_putAll_root_iff simple' once',
    v.in?_of_perm once perm, Field.source?]

/-- There is one value for a field at most. -/
theorem Field.Gives.unique {source : Option Tree} {y : v.Value} (one : v.Gives source x)
    (other : v.Gives source y) : x = y := by
  cases source with
  | none => exact Eq.trans one (Eq.symm other)
  | some t => exact Except.ok.inj (Eq.trans (Eq.symm one) other)

/-- A field has a value exactly if what sets it can be taken as one, if anything does. -/
theorem Field.exists_gives_iff {source : Option Tree} :
    (∃ x, v.Gives source x) ↔ ∀ t, source = some t → ∃ x, v.take t = .ok x := by
  cases source with
  | none => exact iff_of_true ⟨v.fallback, rfl⟩ (by simp)
  | some t => simp [Field.Gives, Takes]

/-- **Settings are layered field by field.** Take a file, if one is named and is there, that says
its settings plainly, and variables of the environment that set fields. The settings that are loaded
give each field the value of its variable if it has one, or else what the document says of it, or
else its default, in whatever order the entries of the two come. They can be loaded exactly if all
these values can be taken as values of their fields, whatever the document says of fields that a
variable sets. With other variables, a field that is set as before has the value it had before. A
name without a file is as good as none. -/
theorem layered_by_field (disk : String → Option String) (name : Option String)
    (vars : List (String × String)) (document : List (String × Tree))
    (read : (Sources.ofName disk name vars).fileEntries = .ok document)
    (simple : Simple document) (sets : Environment.SetsFields vars) :
    (∀ b a, (Sources.ofName disk name vars).load b = .ok a ↔
      ∀ v : Field, v.Gives (v.source? vars document) (v.of a)) ∧
    (∀ b, (∃ a, (Sources.ofName disk name vars).load b = .ok a) ↔
      ∀ (v : Field) (t : Tree), v.source? vars document = some t → ∃ x, v.take t = .ok x) ∧
    (∀ b b' vars' a a', Environment.SetsFields vars' →
      (Sources.ofName disk name vars).load b = .ok a →
      (Sources.ofName disk name vars').load b' = .ok a' →
      ∀ v : Field, Environment.setting? v vars' = Environment.setting? v vars →
        v.of a' = v.of a) ∧
    (∀ n, disk n = none → Sources.ofName disk (some n) vars = Sources.ofName disk none vars) := by
  have loads (vars') (sets' : Environment.SetsFields vars') (b : Build) (a : All) :
      (Sources.ofName disk name vars').load b = .ok a ↔
        ∀ v : Field, v.Gives (v.source? vars' document) (v.of a) := by
    have same : (Sources.ofName disk name vars').fileEntries = .ok document := read
    exact load_eq_ok_iff same simple sets' b
  refine ⟨loads vars sets, fun b => ?_, ?_, ?_⟩
  · simp only [loads vars sets, ← Field.exists_gives_iff]
    constructor
    · rintro ⟨a, gives⟩ v
      exact ⟨_, gives v⟩
    · intro each
      choose x gives using each
      exact ⟨Field.all x, fun v => by rw [Field.of_all]; exact gives v⟩
  · intro b b' vars' a a' sets' loaded loaded' v same
    have before := (loads vars sets b a).1 loaded v
    have now := (loads vars' sets' b' a').1 loaded' v
    rw [Field.source?, same] at now
    exact now.unique before
  · intro n missing
    simp [Sources.ofName, missing]

/-- A disk with one file, in which the threshold is no number. -/
def sampleDisk (name : String) : Option String :=
  if name = "simulcast.toml" then
    some "[switching]\nmin_next_seen = \"many\"\n\n[logging]\nlevel = \"debug\"\n"
  else none

/-- Variables that set the threshold and the switch for decisions, and one that is not for this
library. -/
def sampleVariables : List (String × String) :=
  [("Synctv__Switching__Min_Next_Seen", "7"), ("PATH", "/bin"),
    ("SYNCTV__LOGGING__PACKET_TRACE", "yes")]

/-- The threshold of the variable hides the one of the file, the level is that of the file, and the
other fields have their defaults. -/
theorem threshold_over_unusable :
    ∃ document,
      (Sources.ofName sampleDisk (some "simulcast.toml") sampleVariables).fileEntries =
        .ok document ∧
      Simple document ∧ Environment.SetsFields sampleVariables ∧
      (Sources.ofName sampleDisk (some "simulcast.toml") sampleVariables).load =
        .ok { switching := ⟨7⟩, logging := { level := "debug", packetTrace := true } } ∧
      ∀ v : Field, v.Gives (v.source? sampleVariables document)
        (v.of { switching := ⟨7⟩, logging := { level := "debug", packetTrace := true } }) := by
  have plainly : (Sources.ofName sampleDisk (some "simulcast.toml")
      sampleVariables).fileEntries.toOption.map (fun d => decide (Simple d)) = some true := by
    decide +kernel
  obtain ⟨document, said, simple⟩ := Option.map_eq_some_iff.1 plainly
  have read := ok_of_toOption said
  have simple : Simple document := of_decide_eq_true simple
  have sets : Environment.SetsFields sampleVariables := by
    simp only [Environment.SetsFields, sampleVariables, List.forall_mem_cons]
    exact ⟨.inr ⟨.minNextSeen, by decide +kernel⟩, .inl (by decide +kernel),
      .inr ⟨.packetTrace, by decide +kernel⟩, List.forall_mem_nil _⟩
  have loaded : (Sources.ofName sampleDisk (some "simulcast.toml") sampleVariables).load =
      .ok { switching := ⟨7⟩, logging := { level := "debug", packetTrace := true } } :=
    ok_of_toOption (by decide +kernel)
  obtain ⟨gives, -⟩ :=
    layered_by_field sampleDisk (some "simulcast.toml") sampleVariables document read simple sets
  exact ⟨document, read, simple, sets, loaded, (gives {} _).1 loaded⟩

end Simulcast.Settings
