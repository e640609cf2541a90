import Mathlib.Data.List.Nodup
import Simulcast.Toml.Document

/-!
# The names in a TOML document

A name stands for one thing: every table of a document that is read uses each of its names once
(`distinct_parse`). The tables are built by changing one entry at a time, which gives a table no
name twice (`Entries.Distinct.alter?`), whatever headers and keys lead to the entry.
-/

namespace Simulcast.Toml

/-- The names of entries. -/
def Entries.names (es : Entries) : List String := es.map (·.1)

/-- Every table in a part of a document uses each of its names once. -/
inductive Node.Distinct : Node → Prop where
  /-- A value without parts. -/
  | scalar (s : Scalar) : Distinct (.scalar s)
  /-- Values in brackets. -/
  | list {items : List Node} (each : ∀ n ∈ items, Distinct n) : Distinct (.list items)
  /-- A table. -/
  | table {form : Form} {es : Entries} (names : es.names.Nodup) (each : ∀ e ∈ es, Distinct e.2) :
    Distinct (.table form es)
  /-- Several tables. -/
  | tables {elements : List Entries} (names : ∀ es ∈ elements, es.names.Nodup)
    (each : ∀ es ∈ elements, ∀ e ∈ es, Distinct e.2) : Distinct (.tables elements)

namespace Entries

/-- A table uses each of its names once, and so do the tables in it. -/
structure Distinct (es : Entries) : Prop where
  /-- The names of the table. -/
  names : es.names.Nodup
  /-- The tables in it. -/
  each : ∀ e ∈ es, e.2.Distinct

/-- A change of entries that keeps names distinct. -/
def Keeps (f : Entries → Option Entries) : Prop :=
  ∀ es es', es.Distinct → f es = some es' → es'.Distinct

/-- A change of what has a name that keeps names distinct. -/
def KeepsNode (f : Option Node → Option Node) : Prop :=
  ∀ before n, (∀ m, before = some m → m.Distinct) → f before = some n → n.Distinct

variable {es es' : Entries} {k name : String} {form : Form} {elements : List Entries} {v : Node}
  {f : Entries → Option Entries} {change : Option Node → Option Node}

theorem distinct_nil : Distinct [] := ⟨List.nodup_nil, by simp⟩

theorem distinct_table_iff : (Node.table form es).Distinct ↔ es.Distinct := by
  constructor
  · intro distinct
    cases distinct with
    | table names each => exact ⟨names, each⟩
  · exact fun distinct => .table distinct.names distinct.each

theorem distinct_tables_iff : (Node.tables elements).Distinct ↔ ∀ es ∈ elements, es.Distinct := by
  constructor
  · intro distinct es there
    cases distinct with
    | tables names each => exact ⟨names es there, each es there⟩
  · exact fun all => .tables (fun es there => (all es there).names) fun es there =>
      (all es there).each

/-! ### Changing one entry -/

/-- At most the name of the entry that is changed is new. -/
theorem mem_names_alter? (altered : alter? k change es = some es') (mem : name ∈ es'.names) :
    name = k ∨ name ∈ es.names := by
  induction es generalizing es' with
  | nil =>
    obtain ⟨n, -, rfl⟩ := Option.map_eq_some_iff.1 altered
    exact .inl (List.mem_singleton.1 mem)
  | cons e es ih =>
    obtain ⟨k', n⟩ := e
    rw [alter?] at altered
    split at altered
    · obtain ⟨n', -, rfl⟩ := Option.map_eq_some_iff.1 altered
      exact (List.mem_cons.1 mem).imp_right (List.mem_cons_of_mem _)
    · obtain ⟨rest, changed, rfl⟩ := Option.map_eq_some_iff.1 altered
      obtain here | there := List.mem_cons.1 mem
      · exact .inr (here ▸ List.mem_cons_self)
      · exact (ih changed there).imp_right (List.mem_cons_of_mem _)

/-- **Changing one entry gives no name twice.** -/
theorem keeps_alter? (keeps : KeepsNode change) (k : String) : Keeps (alter? k change) := by
  intro es
  induction es with
  | nil =>
    intro es' _ altered
    obtain ⟨n, made, rfl⟩ := Option.map_eq_some_iff.1 altered
    have distinct : n.Distinct := keeps none n (by simp) made
    exact ⟨List.nodup_singleton k, by simpa using distinct⟩
  | cons e es ih =>
    obtain ⟨k', n⟩ := e
    rintro es' ⟨names, each⟩ altered
    obtain ⟨fresh, once⟩ := List.nodup_cons.1 names
    have rest : ∀ e ∈ es, e.2.Distinct := fun e there => each e (List.mem_cons_of_mem _ there)
    have first : n.Distinct := each _ List.mem_cons_self
    rw [alter?] at altered
    split at altered
    · rename_i same
      obtain ⟨n', made, rfl⟩ := Option.map_eq_some_iff.1 altered
      have distinct : n'.Distinct := keeps (some n) n' (by simpa using first) made
      subst same
      exact ⟨names, List.forall_mem_cons.2 ⟨distinct, rest⟩⟩
    · rename_i other
      obtain ⟨after, changed, rfl⟩ := Option.map_eq_some_iff.1 altered
      have distinct := ih after ⟨once, rest⟩ changed
      refine ⟨List.nodup_cons.2 ⟨fun again => ?_, distinct.names⟩,
        List.forall_mem_cons.2 ⟨first, distinct.each⟩⟩
      obtain same | there := mem_names_alter? changed again
      · exact other same
      · exact fresh there

/-! ### Headers and keys -/

theorem distinct_alterLast? (keeps : Keeps f) {after : List Entries}
    (all : ∀ es ∈ elements, es.Distinct) (altered : alterLast? f elements = some after) :
    ∀ es ∈ after, es.Distinct := by
  induction elements using alterLast?.induct generalizing after with
  | case1 => cases altered
  | case2 es =>
    obtain ⟨es', changed, rfl⟩ := Option.map_eq_some_iff.1 altered
    simpa using keeps es es' (all es List.mem_cons_self) changed
  | case3 es rest more ih =>
    obtain ⟨first, others⟩ := List.forall_mem_cons.1 all
    rw [alterLast?] at altered
    · obtain ⟨rest', changed, rfl⟩ := Option.map_eq_some_iff.1 altered
      exact List.forall_mem_cons.2 ⟨first, ih others changed⟩
    · exact more

theorem keepsNode_enter? (keeps : Keeps f) : KeepsNode (enter? f) := by
  intro before n distinct entered
  match before with
  | none =>
    obtain ⟨es, made, rfl⟩ := Option.map_eq_some_iff.1 entered
    exact distinct_table_iff.2 (keeps [] es distinct_nil made)
  | some (.table form es) =>
    rw [enter?] at entered
    split at entered
    · cases entered
    · obtain ⟨es', made, rfl⟩ := Option.map_eq_some_iff.1 entered
      exact distinct_table_iff.2 (keeps es es' (distinct_table_iff.1 (distinct _ rfl)) made)
  | some (.tables elements) =>
    obtain ⟨after, made, rfl⟩ := Option.map_eq_some_iff.1 entered
    exact distinct_tables_iff.2
      (distinct_alterLast? keeps (distinct_tables_iff.1 (distinct _ rfl)) made)
  | some (.scalar s) => cases entered
  | some (.list items) => cases entered

theorem keepsNode_opened? : KeepsNode opened? := by
  intro before n distinct opened
  match before with
  | none =>
    obtain rfl := Option.some.inj opened
    exact distinct_table_iff.2 distinct_nil
  | some (.table .implied es) =>
    obtain rfl := Option.some.inj opened
    exact distinct_table_iff.2 (distinct_table_iff.1 (distinct _ rfl))
  | some (.table .header es) => cases opened
  | some (.table .dotted es) => cases opened
  | some (.table .closed es) => cases opened
  | some (.tables elements) => cases opened
  | some (.scalar s) => cases opened
  | some (.list items) => cases opened

theorem keepsNode_repeated? : KeepsNode repeated? := by
  intro before n distinct repeated
  match before with
  | none =>
    obtain rfl := Option.some.inj repeated
    exact distinct_tables_iff.2 (by simpa using distinct_nil)
  | some (.tables elements) =>
    obtain rfl := Option.some.inj repeated
    have all := distinct_tables_iff.1 (distinct _ rfl)
    refine distinct_tables_iff.2 fun es there => ?_
    obtain old | new := List.mem_append.1 there
    · exact all es old
    · obtain rfl := List.mem_singleton.1 new
      exact distinct_nil
  | some (.table form es) => cases repeated
  | some (.scalar s) => cases repeated
  | some (.list items) => cases repeated

theorem keeps_follow? (last : KeepsNode change) (path : List String) :
    Keeps (follow? change path) := by
  induction path with
  | nil =>
    intro es es' _ followed
    cases followed
  | cons k path ih =>
    cases path with
    | nil => exact keeps_alter? last k
    | cons k' path => exact keeps_alter? (keepsNode_enter? ih) k

theorem keeps_within? (keeps : Keeps f) (path : List String) : Keeps (within? f path) := by
  induction path with
  | nil => exact keeps
  | cons k path ih => exact keeps_alter? (keepsNode_enter? ih) k

/-- A value is added only under a name that is new. -/
theorem keeps_insert? (distinct : v.Distinct) (path : List String) : Keeps (insert? v path) := by
  induction path with
  | nil =>
    intro es es' _ inserted
    cases inserted
  | cons k path ih =>
    cases path with
    | nil =>
      refine keeps_alter? (fun before n _ made => ?_) k
      cases before with
      | none =>
        obtain rfl := Option.some.inj made
        exact distinct
      | some m => cases made
    | cons k' path =>
      refine keeps_alter? (fun before n known made => ?_) k
      have within (form : Form) (es : Entries) (known : es.Distinct)
          (made : (insert? v (k' :: path) es).map (.table form) = some n) : n.Distinct := by
        obtain ⟨es', inserted, rfl⟩ := Option.map_eq_some_iff.1 made
        exact distinct_table_iff.2 (ih es es' known inserted)
      match before with
      | none => exact within .dotted [] distinct_nil made
      | some (.table .dotted es) =>
        exact within .dotted es (distinct_table_iff.1 (known _ rfl)) made
      | some (.table .implied es) =>
        exact within .implied es (distinct_table_iff.1 (known _ rfl)) made
      | some (.tables elements) =>
        simp only at made
        split at made
        · cases made
        · obtain ⟨after, inserted, rfl⟩ := Option.map_eq_some_iff.1 made
          exact distinct_tables_iff.2
            (distinct_alterLast? ih (distinct_tables_iff.1 (known _ rfl)) inserted)
      | some (.table .header es) => cases made
      | some (.table .closed es) => cases made
      | some (.scalar s) => cases made
      | some (.list items) => cases made

end Entries

/-! ### Values -/

/-- What a reader reads has distinct names. -/
def ReadsDistinct (value : Reader Node) : Prop :=
  ∀ cs n rest, value cs = some (n, rest) → n.Distinct

section Values

variable {read : Reader Node} (distinct : ReadsDistinct read) {cs rest : List Char} {fuel : Nat}
include distinct

theorem distinct_items {ns : List Node} (found : items read fuel cs = some (ns, rest)) :
    ∀ n ∈ ns, n.Distinct := by
  induction fuel generalizing cs ns rest with
  | zero => cases found
  | succ fuel ih =>
    rw [items] at found
    split at found
    · obtain ⟨rfl, -⟩ := Prod.mk.inj (Option.some.inj found)
      exact List.forall_mem_nil _
    · obtain ⟨⟨n, behind⟩, first, next⟩ := Option.bind_eq_some_iff.1 found
      have here : n.Distinct := distinct _ n behind first
      simp only at next
      split at next
      · obtain ⟨⟨others, behind'⟩, more, made⟩ := Option.bind_eq_some_iff.1 next
        obtain ⟨rfl, -⟩ := Prod.mk.inj (Option.some.inj made)
        exact List.forall_mem_cons.2 ⟨here, ih more⟩
      · obtain ⟨rfl, -⟩ := Prod.mk.inj (Option.some.inj next)
        exact List.forall_mem_cons.2 ⟨here, List.forall_mem_nil _⟩
      · cases next

theorem distinct_pair {k : List String} {n : Node} (found : pair read cs = some ((k, n), rest)) :
    n.Distinct := by
  obtain ⟨⟨k', behind⟩, -, next⟩ := Option.bind_eq_some_iff.1 found
  simp only at next
  split at next
  · obtain ⟨⟨n', behind'⟩, value, made⟩ := Option.bind_eq_some_iff.1 next
    obtain ⟨same, -⟩ := Prod.mk.inj (Option.some.inj made)
    obtain ⟨-, rfl⟩ := Prod.mk.inj same
    exact distinct _ n' behind' value
  · cases next

theorem distinct_closedEntries {es es' : Entries} (before : es.Distinct)
    (found : closedEntries read fuel es cs = some (es', rest)) : es'.Distinct := by
  induction fuel generalizing cs es with
  | zero => cases found
  | succ fuel ih =>
    rw [closedEntries] at found
    split at found
    · obtain ⟨rfl, -⟩ := Prod.mk.inj (Option.some.inj found)
      exact before
    · obtain ⟨⟨⟨k, n⟩, behind⟩, entry, next⟩ := Option.bind_eq_some_iff.1 found
      obtain ⟨after, inserted, next⟩ := Option.bind_eq_some_iff.1 next
      have now : after.Distinct :=
        Entries.keeps_insert? (distinct_pair distinct entry) k es after before inserted
      split at next
      · exact ih now next
      · obtain ⟨rfl, -⟩ := Prod.mk.inj (Option.some.inj next)
        exact now
      · cases next

theorem readsDistinct_branch (c : Char) : ReadsDistinct (branch read c) := by
  intro cs n rest found
  unfold branch at found
  split at found
  · obtain ⟨⟨ns, behind⟩, list, made⟩ := Option.map_eq_some_iff.1 found
    obtain ⟨rfl, -⟩ := Prod.mk.inj made
    exact .list (distinct_items distinct list)
  · obtain ⟨⟨es, behind⟩, table, made⟩ := Option.map_eq_some_iff.1 found
    obtain ⟨rfl, -⟩ := Prod.mk.inj made
    exact Entries.distinct_table_iff.2
      (distinct_closedEntries distinct Entries.distinct_nil table)

end Values

/-- The names of a value are distinct, however deep its lists and tables go. -/
theorem readsDistinct_value (depth : Nat) : ReadsDistinct (value depth) := by
  induction depth using Nat.strongRecOn with
  | ind depth ih =>
    rintro (_ | ⟨c, cs⟩) n rest found
    · cases depth <;> cases found
    · unfold value at found
      split at found
      · obtain ⟨r, -, made⟩ := Option.map_eq_some_iff.1 found
        obtain ⟨rfl, -⟩ := Prod.mk.inj made
        exact .scalar _
      · split at found
        · cases depth with
          | zero => cases found
          | succ depth =>
            exact readsDistinct_branch (ih depth (Nat.lt_succ_self depth)) c _ _ _ found
        · obtain ⟨s, -, made⟩ := Option.map_eq_some_iff.1 found
          obtain ⟨rfl, -⟩ := Prod.mk.inj made
          exact .scalar _

/-! ### Lines -/

namespace Draft

/-- A statement changes the entries along its header, or adds a value to the table of the header
before it. -/
theorem distinct_readStatement {d d' : Draft} {cs rest : List Char} (before : d.entries.Distinct)
    (found : d.readStatement cs = some (d', rest)) : d'.entries.Distinct := by
  unfold readStatement at found
  split at found
  · obtain ⟨⟨path, behind⟩, -, next⟩ := Option.bind_eq_some_iff.1 found
    simp only at next
    split at next
    · obtain ⟨es, followed, made⟩ := Option.bind_eq_some_iff.1 next
      obtain ⟨rfl, -⟩ := Prod.mk.inj (Option.some.inj made)
      exact Entries.keeps_follow? Entries.keepsNode_repeated? path _ es before followed
    · cases next
  · obtain ⟨⟨path, behind⟩, -, next⟩ := Option.bind_eq_some_iff.1 found
    simp only at next
    split at next
    · obtain ⟨es, followed, made⟩ := Option.bind_eq_some_iff.1 next
      obtain ⟨rfl, -⟩ := Prod.mk.inj (Option.some.inj made)
      exact Entries.keeps_follow? Entries.keepsNode_opened? path _ es before followed
    · cases next
  · obtain ⟨⟨⟨k, n⟩, behind⟩, entry, next⟩ := Option.bind_eq_some_iff.1 found
    obtain ⟨es, added, made⟩ := Option.bind_eq_some_iff.1 next
    obtain ⟨rfl, -⟩ := Prod.mk.inj (Option.some.inj made)
    have value : n.Distinct := distinct_pair (readsDistinct_value greatestDepth) entry
    exact Entries.keeps_within? (Entries.keeps_insert? value k) d.header _ es before added

theorem distinct_readLines {d d' : Draft} {cs : List Char} {fuel : Nat}
    (before : d.entries.Distinct) (found : readLines fuel d cs = some d') :
    d'.entries.Distinct := by
  induction fuel generalizing d cs with
  | zero => cases found
  | succ fuel ih =>
    rw [readLines] at found
    split at found
    · obtain rfl := Option.some.inj found
      exact before
    · obtain ⟨⟨after, behind⟩, statement, found⟩ := Option.bind_eq_some_iff.1 found
      obtain ⟨next, -, found⟩ := Option.bind_eq_some_iff.1 found
      exact ih (distinct_readStatement before statement) found

end Draft

/-- **Every table of a document uses each of its names once.** -/
theorem distinct_parse {s : String} {es : Entries} (found : parse s = some es) : es.Distinct := by
  obtain ⟨d, lines, rfl⟩ := Option.map_eq_some_iff.1 found
  exact Draft.distinct_readLines Entries.distinct_nil lines

end Simulcast.Toml
