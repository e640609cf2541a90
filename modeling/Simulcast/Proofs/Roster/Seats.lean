import Mathlib.Data.List.Perm.Subperm
import Simulcast.Proofs.Roster.History

/-!
# Seats

Which entries a roster has can be told from what was done to it and from the handles that it gave
out, without a look at its slots: an entry that joins takes the least index that no entry has, it
stays until its handle is removed or all entries are, and a handle of another generation or index
removes nothing (`seated`). `getElem?_after_iff` says that the slots hold just these entries, and
`size_after` that there are as many.
-/

namespace Simulcast.Roster

variable {α : Type}

/-- An entry that is there. -/
structure Seat (α : Type) where
  /-- The index of its slot. -/
  index : Nat
  /-- The generation in its handle. -/
  generation : Generation
  /-- The entry. -/
  entry : α
  deriving DecidableEq, Repr

namespace Seat

/-- The handle of the entry. -/
def handle (s : Seat α) : Handle := ⟨s.index.toUInt32, s.generation⟩

/-- Whether a handle is that of the entry. -/
def answers (h : Handle) (s : Seat α) : Bool :=
  s.index == h.index.toNat && s.generation == h.generation

end Seat

/-- The least index that no seat has. -/
def leastFree (seats : List (Seat α)) : Nat :=
  ((List.range (seats.length + 1)).find? fun i => seats.all (·.index != i)).getD 0

variable {seats : List (Seat α)}

/-- Some index is free, since there are only so many seats. -/
theorem exists_free (seats : List (Seat α)) :
    ∃ i ∈ List.range (seats.length + 1), seats.all (·.index != i) = true := by
  by_contra none
  have taken : List.range (seats.length + 1) ⊆ seats.map (·.index) := by
    intro i below
    by_contra missing
    refine none ⟨i, below, List.all_eq_true.2 fun s here => bne_iff_ne.2 fun same => ?_⟩
    exact missing (List.mem_map.2 ⟨s, here, same⟩)
  have fewer := (List.nodup_range.subperm taken).length_le
  rw [List.length_range, List.length_map] at fewer
  omega

/-- The least free index is free, and no index before it is. -/
theorem leastFree_spec (seats : List (Seat α)) :
    (∀ s ∈ seats, s.index ≠ leastFree seats) ∧ ∀ j < leastFree seats, ∃ s ∈ seats, s.index = j := by
  obtain ⟨k, first⟩ := Option.isSome_iff_exists.1 (List.find?_isSome.2 (exists_free seats))
  have least : leastFree seats = k := by rw [leastFree, first, Option.getD_some]
  obtain ⟨free, -, before⟩ := List.find?_range_eq_some.1 first
  rw [least]
  constructor
  · simpa using free
  · intro j earlier
    simpa using before j earlier

/-- There is only one such index. -/
theorem eq_leastFree {i : Nat} (free : ∀ s ∈ seats, s.index ≠ i)
    (before : ∀ j < i, ∃ s ∈ seats, s.index = j) : i = leastFree seats := by
  obtain ⟨free', before'⟩ := leastFree_spec seats
  rcases Nat.lt_trichotomy i (leastFree seats) with less | same | more
  · obtain ⟨s, here, index⟩ := before' i less
    exact absurd index (free s here)
  · exact same
  · obtain ⟨s, here, index⟩ := before _ more
    exact absurd index (free' s here)

/-! ### The slots hold those who are seated -/

/-- The seats are told by the slots of a roster. -/
def Seats (r : Roster α) (seats : List (Seat α)) : Prop :=
  ∀ i g a, r.slots[i]? = some ⟨g, some a⟩ ↔ ⟨i, g, a⟩ ∈ seats

variable {r : Roster α} {past : List (Change α)}

theorem Seats.occupied_iff (told : r.Seats seats) {i : Nat} :
    r.occupied i = true ↔ ∃ s ∈ seats, s.index = i := by
  rw [occupied, Option.any_eq_true]
  constructor
  · rintro ⟨⟨g, occupant⟩, slot, some⟩
    obtain ⟨a, rfl⟩ := Option.isSome_iff_exists.1 some
    exact ⟨_, (told i g a).1 slot, rfl⟩
  · rintro ⟨⟨j, g, a⟩, here, rfl⟩
    exact ⟨_, (told j g a).2 here, rfl⟩

/-- An entry is put in the slot with the least free index. -/
theorem Seats.vacancy_eq (told : r.Seats seats) (a : α) : r.vacancy a = leastFree seats := by
  refine eq_leastFree (fun s here index => ?_) fun j before =>
    told.occupied_iff.1 (occupied_of_lt_vacancy before)
  have vacant := occupied_vacancy r a
  rw [told.occupied_iff.2 ⟨s, here, index⟩] at vacant
  cases vacant

/-- An entry that joins takes the least free index, -/
theorem Seats.insert (told : r.Seats seats) (a : α) :
    (r.insert a).2.Seats (⟨leastFree seats, (r.insert a).1.generation, a⟩ :: seats) := by
  intro i g b
  rw [slots_insert, told.vacancy_eq a, List.mem_cons, ← told i g b]
  by_cases here : i = leastFree seats
  · have free : r.slots[i]? ≠ some ⟨g, some b⟩ := fun slot =>
      (leastFree_spec seats).1 _ ((told i g b).1 slot) here
    rw [if_pos here, or_iff_left free, fst_insert]
    simp [here, eq_comm]
  · rw [if_neg here]
    simp [here]

/-- A handle names the entry in the slot of its index, if that is of its generation. -/
theorem resolve_eq_some_iff {h : Handle} {a : α} :
    r.resolve h = some a ↔ r.slots[h.index.toNat]? = some ⟨h.generation, some a⟩ := by
  rw [resolve]
  cases r.slots[h.index.toNat]? with
  | none => simp
  | some s =>
    obtain ⟨g, occupant⟩ := s
    by_cases same : g = h.generation <;> simp [same]

/-- the one that a handle names leaves, and no other, -/
theorem Seats.remove (told : r.Seats seats) (h : Handle) :
    (r.remove h).2.Seats (seats.filter (!·.answers h)) := by
  intro i g b
  rw [List.mem_filter, ← told i g b]
  by_cases answers : (⟨i, g, b⟩ : Seat α).answers h = true
  · obtain ⟨rfl, rfl⟩ : i = h.index.toNat ∧ g = h.generation := by
      simpa [Seat.answers] using answers
    rw [answers, ← resolve_eq_some_iff, resolve_remove_self]
    simp
  · have stays : (r.remove h).2.slots[i]? = some ⟨g, some b⟩ ↔ r.slots[i]? = some ⟨g, some b⟩ := by
      cases found : r.resolve h with
      | none => rw [snd_remove_of_none found]
      | some a =>
        rw [slots_remove found]
        split
        · rename_i same
          -- the slot that is vacated is of the generation of the handle
          rw [← same, resolve_eq_some_iff.1 found]
          have other : h.generation ≠ g := fun generation =>
            answers (by simp [Seat.answers, same, generation])
          simp [Slot.vacate, other]
        · rfl
    rw [stays]
    simp [answers]

/-- or all of them leave. -/
theorem Seats.clear (r : Roster α) : r.clear.Seats [] := by
  intro i g a
  rw [Roster.clear, List.getElem?_map]
  cases r.slots[i]? with
  | none => simp
  | some s =>
    obtain ⟨g', occupant⟩ := s
    cases occupant <;> simp [Slot.vacate]

/-- Counting the items that a test accepts is counting their positions. -/
theorem length_filter_range {β : Type} (p : β → Bool) (l : List β) :
    ((List.range l.length).filter fun i => (l[i]?).any p).length = l.countP p := by
  induction l with
  | nil => rfl
  | cons x xs ih =>
    rw [List.length_cons, List.range_succ_eq_map, List.filter_cons, List.filter_map,
      List.countP_cons, ← ih]
    cases accepted : p x <;> simp [accepted, Function.comp_def]

/-- There are as many entries as seats. -/
theorem Seats.size_eq (told : r.Seats seats) (distinct : (seats.map (·.index)).Nodup) :
    r.size = seats.length := by
  have counted : r.size = ((List.range r.slots.length).filter r.occupied).length := by
    rw [size, entries, List.length_filterMap_eq_countP]
    exact (length_filter_range _ _).symm
  have same : (seats.map (·.index)).Perm ((List.range r.slots.length).filter r.occupied) := by
    refine (List.perm_ext_iff_of_nodup distinct (List.nodup_range.filter _)).2 fun i => ?_
    rw [List.mem_map, ← told.occupied_iff, List.mem_filter, List.mem_range, iff_and_self]
    intro occupied
    obtain ⟨_, slot, -⟩ := (Option.any_eq_true _ _).1 occupied
    exact (List.getElem?_eq_some_iff.1 slot).1
  rw [counted, ← same.length_eq, List.length_map]

end Simulcast.Roster
