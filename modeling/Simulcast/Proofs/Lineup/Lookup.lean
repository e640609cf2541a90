import Simulcast.Lineup.Basic
import Simulcast.Proofs.Roster.Change

/-!
# Looking layers up

A lineup is asked for the first layer of an order, by the slots of its roster. A roster finds an
entry exactly if it has one that the test accepts (`Roster.find?_eq_none_iff`), and the handle that
it gives names the first one, as long as the indices of the slots have a place in a handle
(`Roster.find?_bind_resolve`). So a lineup that answers all its handles looks up the first layer of
an order (`Lineup.lookup_map_snd`).
-/

namespace Simulcast

/-! ### Entries -/

namespace Roster

variable {α : Type} {p : α → Bool} {r : Roster α}

theorem findFrom?_eq_none_iff {i : Nat} {slots : List (Slot α)} :
    findFrom? p i slots = none ↔ ∀ a ∈ slots.filterMap (·.occupant), p a = false := by
  induction slots generalizing i with
  | nil => simp [findFrom?]
  | cons s ss ih =>
    obtain ⟨g, occupant⟩ := s
    cases occupant with
    | none => simpa [findFrom?] using ih
    | some a => cases accepted : p a <;> simp [findFrom?, accepted, ih]

/-- Nothing is found exactly if no entry is accepted. -/
theorem find?_eq_none_iff : r.find? p = none ↔ ∀ a ∈ r.entries, p a = false :=
  findFrom?_eq_none_iff

/-- What is found is the handle of a slot whose entry is the first one that is accepted. -/
theorem findFrom?_eq_some {i : Nat} {slots : List (Slot α)} {h : Handle}
    (found : findFrom? p i slots = some h) :
    ∃ j g a, slots[j]? = some ⟨g, some a⟩ ∧ h = ⟨(i + j).toUInt32, g⟩ ∧
      (slots.filterMap (·.occupant)).find? p = some a := by
  induction slots generalizing i with
  | nil => cases found
  | cons s ss ih =>
    -- what is found further on has an index that is one more
    have further (rest : findFrom? p (i + 1) ss = some h) :
        ∃ j g a, (s :: ss)[j]? = some ⟨g, some a⟩ ∧ h = ⟨(i + j).toUInt32, g⟩ ∧
          (ss.filterMap (·.occupant)).find? p = some a := by
      obtain ⟨j, g, a, slot, rfl, first⟩ := ih rest
      exact ⟨j + 1, g, a, slot, by rw [Nat.add_right_comm, Nat.add_assoc], first⟩
    obtain ⟨g, occupant⟩ := s
    cases occupant with
    | none => simpa [findFrom?] using further found
    | some a =>
      cases accepted : p a with
      | true =>
        obtain rfl : ⟨i.toUInt32, g⟩ = h := by simpa [findFrom?, accepted] using found
        exact ⟨0, g, a, rfl, rfl, by simp [accepted]⟩
      | false =>
        obtain ⟨j, g', b, slot, named, first⟩ :=
          further (by simpa [findFrom?, accepted] using found)
        exact ⟨j, g', b, slot, named, by simpa [accepted] using first⟩

/-- **The handle that is found names the first entry that is accepted**, if the indices have a place
in a handle. -/
theorem find?_bind_resolve (small : r.slots.length ≤ 2 ^ 32) :
    (r.find? p).bind r.resolve = r.entries.find? p := by
  cases found : r.find? p with
  | none =>
    symm
    simpa using find?_eq_none_iff.1 found
  | some h =>
    obtain ⟨j, g, a, slot, rfl, first⟩ := findFrom?_eq_some found
    obtain ⟨short, -⟩ := List.getElem?_eq_some_iff.1 slot
    have index : j.toUInt32.toNat = j := UInt32.toNat_ofNat_of_lt' (show j < 2 ^ 32 by omega)
    rw [Option.bind_some, Nat.zero_add, resolve, index, slot, entries, first]
    exact if_pos rfl

/-- A roster in which something is found is not empty. -/
theorem isEmpty_of_find? {h : Handle} (found : r.find? p = some h) : r.isEmpty = false := by
  have some_entry : r.entries ≠ [] := by
    intro none
    have missing : r.find? p = Option.none := find?_eq_none_iff.2 (by simp [none])
    rw [missing] at found
    cases found
  simpa [isEmpty, size] using some_entry

/-- In an empty roster no handle names anything. -/
theorem resolve_of_isEmpty (empty : r.isEmpty = true) (h : Handle) : r.resolve h = none := by
  have vacant : ∀ s ∈ r.slots, s.occupant = none := by
    simpa [isEmpty, size, entries] using empty
  rw [resolve]
  cases slot : r.slots[h.index.toNat]? with
  | none => rfl
  | some s =>
    simp only [vacant s (List.mem_of_getElem? slot)]
    exact ite_self none

end Roster

/-! ### Layers -/

namespace Lineup

variable {t : Lineup} {o : Layer.Order} {h : Handle} {layer : Nat}

/-- The first layer of an order, by the slots of the roster. -/
def first? (t : Lineup) (o : Layer.Order) : Option Nat :=
  t.roster.entries.find? fun n => t.order n == o

/-- No layer is found exactly if none is of the order. -/
theorem find?_eq_none_iff : t.find? o = none ↔ ∀ n ∈ t.roster.entries, t.order n ≠ o := by
  rw [find?, Roster.find?_eq_none_iff]
  simp

/-- A layer is looked up through the handle that is found. -/
theorem lookup_eq_some_iff :
    t.lookup o = some (h, layer) ↔ t.find? o = some h ∧ t.resolve h = some layer := by
  simp only [lookup, Option.bind_eq_bind, Option.bind_eq_some_iff, Option.pure_def,
    Option.some.injEq, Prod.mk.injEq]
  constructor
  · rintro ⟨h', found, n, named, rfl, rfl⟩
    exact ⟨found, named⟩
  · rintro ⟨found, named⟩
    exact ⟨h, found, layer, named, rfl, rfl⟩

/-- The first layer of an order is of this order. -/
theorem order_of_first? {n : Nat} (first : t.first? o = some n) : t.order n = o := by
  simpa using List.find?_some first

/-- No layer of the order is there exactly if there is no first one. -/
theorem first?_eq_none_iff : t.first? o = none ↔ t.find? o = none := by
  rw [find?_eq_none_iff, first?, List.find?_eq_none]
  simp

/-- If no layer is of the order, none is looked up. -/
theorem lookup_of_first?_eq_none (none : t.first? o = none) : t.lookup o = Option.none := by
  rw [lookup, first?_eq_none_iff.1 none]
  rfl

/-- A lineup in which a layer is looked up has layers. -/
theorem hasLayers_of_lookup (found : t.lookup o = some (h, layer)) : t.hasLayers = true := by
  rw [hasLayers, Roster.isEmpty_of_find? (lookup_eq_some_iff.1 found).1]
  rfl

/-- Without layers no handle names one. -/
theorem resolve_of_not_hasLayers (empty : t.hasLayers = false) (h : Handle) :
    t.resolve h = none := by
  have none : t.roster.isEmpty = true := by simpa [hasLayers] using empty
  rw [resolve, Roster.resolve_of_isEmpty none]
  exact ite_self _

/-- **The layer that is looked up is the first one of its order**, if all handles are answered and
the indices of the slots have a place in a handle. -/
theorem lookup_map_snd (answers : t.withheld = []) (small : t.roster.slots.length ≤ 2 ^ 32)
    (o : Layer.Order) : (t.lookup o).map (·.2) = t.first? o := by
  have named : t.resolve = t.roster.resolve := by
    funext h
    simp [resolve, answers]
  rw [first?, ← Roster.find?_bind_resolve small, lookup, find?, named]
  cases found : t.roster.find? fun n => t.order n == o with
  | none => rfl
  | some h => cases there : t.roster.resolve h <;> simp [there]

end Lineup

end Simulcast
