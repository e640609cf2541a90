import Simulcast.Proofs.Settings.Merging

/-!
# One tree over another

Changing the entry with a name changes what this name leads to and nothing else (`child?_alterKey`).
So a table that uses each of its names once lies over a tree name by name (`child?_overlayEntries`),
and a source of which no name is written as a path lies over a tree as a table does
(`putAll_eq_overlayEntries`).
-/

namespace Simulcast.Settings

/-! ### Entries -/

/-- The names of entries. -/
def namesOf (entries : List (String × Tree)) : List String := entries.map (·.1)

namespace Tree

variable {t u : Tree} {k name : String} {entries : List (String × Tree)}

theorem lookup_cons_ite (k : String) (t : Tree) (entries : List (String × Tree)) (name : String) :
    ((k, t) :: entries).lookup name = if name = k then some t else entries.lookup name := by
  rw [List.lookup_cons]
  by_cases same : name = k <;> simp [same, beq_eq_false_iff_ne.2]

/-- A name that is not used leads to nothing. -/
theorem lookup_eq_none (fresh : name ∉ namesOf entries) : entries.lookup name = none :=
  List.lookup_eq_none_iff.2 fun e there =>
    bne_iff_ne.2 fun same => fresh (List.mem_map.2 ⟨e, there, same.symm⟩)

theorem lookup_alterEntry (k name : String) (f : Tree → Tree) (entries : List (String × Tree)) :
    (alterEntry k f entries).lookup name =
      if name = k then some (f ((entries.lookup k).getD nothing)) else entries.lookup name := by
  induction entries with
  | nil => exact lookup_cons_ite k (f nothing) [] name
  | cons e entries ih =>
    obtain ⟨k', t⟩ := e
    rw [alterEntry]
    by_cases here : k' = k
    · subst here
      by_cases same : name = k' <;> simp [lookup_cons_ite, same]
    · rw [if_neg here, lookup_cons_ite, ih, lookup_cons_ite, lookup_cons_ite, if_neg (Ne.symm here)]
      by_cases same : name = k
      · simp [same, Ne.symm here]
      · simp [same]

/-- **Changing an entry** changes what its name leads to, and nothing else. -/
theorem child?_alterKey (k name : String) (f : Tree → Tree) (t : Tree) :
    (t.alterKey k f).child? (.key name) =
      if name = k then some (f ((t.child? (.key k)).getD nothing)) else t.child? (.key name) := by
  cases t with
  | scalar origin value => exact lookup_alterEntry k name f []
  | list origin items => exact lookup_alterEntry k name f []
  | table origin entries => exact lookup_alterEntry k name f entries

theorem eq_table_of_isTable (table : t.isTable = true) :
    ∃ origin entries, t = .table origin entries := by
  cases t with
  | scalar origin value => cases table
  | list origin items => cases table
  | table origin entries => exact ⟨origin, entries, rfl⟩

theorem isTable_alterKey (k : String) (f : Tree → Tree) (t : Tree) :
    (t.alterKey k f).isTable = true := by
  cases t <;> rfl

/-- No value has entries. -/
theorem child?_getD_nothing (o : Option Tree) (name : String) :
    (o.getD nothing).child? (.key name) = o.bind fun t => t.child? (.key name) := by
  cases o <;> rfl

/-! ### Laying over -/

theorem isTable_overlayEntries (table : t.isTable = true) (entries : List (String × Tree)) :
    (overlayEntries entries t).isTable = true := by
  induction entries generalizing t with
  | nil => exact table
  | cons e entries ih => exact ih (isTable_alterKey ..)

/-- **A table lies over a tree name by name**, if it uses each name once. -/
theorem child?_overlayEntries (once : (namesOf entries).Nodup) (t : Tree) (name : String) :
    (overlayEntries entries t).child? (.key name) =
      ((entries.lookup name).map fun u => overlay u ((t.child? (.key name)).getD nothing)).or
        (t.child? (.key name)) := by
  induction entries generalizing t with
  | nil => rfl
  | cons e entries ih =>
    obtain ⟨k, u⟩ := e
    obtain ⟨fresh, once⟩ := List.nodup_cons.1 once
    rw [overlayEntries, ih once, child?_alterKey]
    by_cases same : name = k
    · subst same
      simp [lookup_eq_none fresh]
    · simp [lookup_cons_ite, same]

/-- A source of which no name is written as a path lies over a tree as a table does. -/
theorem putAll_eq_overlayEntries (plain : ∀ e ∈ entries, Path.ofKey e.1 = [.key e.1]) (t : Tree) :
    t.putAll entries = overlayEntries entries t := by
  induction entries generalizing t with
  | nil => rfl
  | cons e entries ih =>
    obtain ⟨k, u⟩ := e
    have here : t.put k u = t.alterKey k (overlay u) := by
      rw [put, plain _ List.mem_cons_self]
      rfl
    have rest := ih (fun e there => plain e (List.mem_cons_of_mem _ there)) (t.put k u)
    calc t.putAll ((k, u) :: entries)
        = (t.put k u).putAll entries := rfl
      _ = overlayEntries entries (t.put k u) := rest
      _ = overlayEntries ((k, u) :: entries) t := by rw [here, overlayEntries]

/-- Laid over nothing, a table stays one, and anything else is as it was. -/
theorem overlay_nothing (u : Tree) :
    (u.overlay nothing).isTable = true ∧ u.isTable = true ∨ u.overlay nothing = u := by
  cases u with
  | scalar origin value => exact .inr rfl
  | list origin items => exact .inr rfl
  | table origin entries => exact .inl ⟨isTable_overlayEntries rfl entries, rfl⟩

end Tree

end Simulcast.Settings
