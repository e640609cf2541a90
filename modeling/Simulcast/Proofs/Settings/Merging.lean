import Simulcast.Settings.Load

/-!
# The tree of the sources

What the sources say is one table, from which the settings are taken. Steps that may fail, like
reading a file or taking a value, succeed one after the other if each of them does (`ok_of_bind`).
-/

namespace Simulcast.Settings

/-! ### Steps that may fail -/

section Steps

variable {ε δ α β : Type}

/-- Two steps succeed one after the other if the first one does, and the second one with what it
gave. -/
theorem ok_of_bind {x : Except ε α} {f : α → Except ε β} {b : β} (both : x >>= f = .ok b) :
    ∃ a, x = .ok a ∧ f a = .ok b := by
  cases x with
  | error e => cases both
  | ok a => exact ⟨a, rfl, both⟩

theorem bind_eq_ok_iff {x : Except ε α} {f : α → Except ε β} {b : β} :
    x >>= f = .ok b ↔ ∃ a, x = .ok a ∧ f a = .ok b := by
  refine ⟨ok_of_bind, ?_⟩
  rintro ⟨a, rfl, after⟩
  exact after

/-- What is said of a failure is no success. -/
theorem ok_of_mapError {x : Except ε α} {f : ε → δ} {a : α} (ok : x.mapError f = .ok a) :
    x = .ok a := by
  cases x with
  | error e => cases ok
  | ok b => exact congrArg Except.ok (Except.ok.inj ok)

theorem mapError_eq_ok_iff {x : Except ε α} {f : ε → δ} {a : α} :
    x.mapError f = .ok a ↔ x = .ok a := by
  refine ⟨ok_of_mapError, ?_⟩
  rintro rfl
  rfl

theorem ok_of_toOption {x : Except ε α} {a : α} (some : x.toOption = some a) : x = .ok a := by
  cases x with
  | error e => cases some
  | ok b => exact congrArg Except.ok (Option.some.inj some)

end Steps

/-! ### The tree of the sources -/

/-- Whatever a key is, it leads to an entry of the root. -/
theorem Path.ofKey_eq_cons (key : String) : ∃ name path, ofKey key = .key name :: path := by
  unfold ofKey
  cases path : read? key with
  | none => exact ⟨key, [], rfl⟩
  | some path =>
    simp only [read?, Option.pure_def, Option.bind_eq_bind, Option.bind_eq_some_iff,
      Option.some.injEq, Prod.exists] at path
    obtain ⟨name, -, -, steps, -, rfl⟩ := path
    exact ⟨name, steps, rfl⟩

namespace Tree

/-- Whether a tree has entries with names. -/
def isTable : Tree → Bool
  | .table _ _ => true
  | _ => false

theorem isTable_put (key : String) (value t : Tree) : (t.put key value).isTable = true := by
  obtain ⟨name, path, named⟩ := Path.ofKey_eq_cons key
  rw [put, named, alter]
  cases t <;> rfl

theorem isTable_putAll {t : Tree} (table : t.isTable = true) (source : List (String × Tree)) :
    (t.putAll source).isTable = true := by
  induction source generalizing t with
  | nil => exact table
  | cons e source ih => exact ih (isTable_put e.1 e.2 t)

end Tree

/-- What the sources say is a table. -/
theorem Sources.isTable_tree {s : Sources} {b : Build} {t : Tree} (merged : s.tree b = .ok t) :
    t.isTable = true := by
  obtain ⟨entries, -, made⟩ := ok_of_bind merged
  obtain rfl := Except.ok.inj made
  exact Tree.isTable_putAll (Tree.isTable_putAll rfl _) _

/-- Settings that were loaded were taken from the tree of the sources. -/
theorem Sources.toAll_of_load {s : Sources} {b : Build} {a : All} (loaded : s.load b = .ok a) :
    ∃ t, s.tree b = .ok t ∧ t.toAll = .ok a := by
  obtain ⟨t, merged, taken⟩ := ok_of_bind loaded
  exact ⟨t, merged, ok_of_mapError taken⟩

end Simulcast.Settings
