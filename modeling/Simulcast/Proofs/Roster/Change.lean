import Mathlib.Data.List.Nodup
import Simulcast.Proofs.Roster.Generation

/-!
# Changes of a roster

An entry joins a roster, the entry that a handle names leaves it, or all entries leave.
`resolve_change_of_issued` says what a change does to what a handle names that was issued, and
`resolve_fst_insert` what the handle names that is given out. `handles` lists the handles of the
entries: if the indices of the slots have a place in a handle, they are all different, and are the
handles that name something (`mem_handles`).
-/

namespace Simulcast.Roster

variable {α : Type} {r r' : Roster α} {h : Handle} {a b : α}

/-! ### One change -/

/-- What is done to a roster. -/
inductive Change (α : Type) where
  /-- An entry joins. -/
  | insert (entry : α)
  /-- The entry that a handle names leaves. -/
  | remove (h : Handle)
  /-- All entries leave. -/
  | clear

/-- Whether a change ends what a handle stands for. -/
def Change.ends (h : Handle) : Change α → Bool
  | .insert _ => false
  | .remove h' => h = h'
  | .clear => true

/-- The roster after a change. -/
def change (r : Roster α) : Change α → Roster α
  | .insert a => (r.insert a).2
  | .remove h => (r.remove h).2
  | .clear => r.clear

theorem moved_change (r : Roster α) (c : Change α) : r.Moved (r.change c) := by
  cases c with
  | insert a => exact .inr ⟨a, rfl⟩
  | remove h => exact .inl (thinned_remove h r)
  | clear => exact .inl (thinned_clear r)

theorem fst_insert (a : α) (r : Roster α) :
    (r.insert a).1 = ⟨(r.vacancy a).toUInt32, (fill a r.slots).2.1⟩ := rfl

/-- A vacant slot answers to no handle. -/
theorem resolve_of_vacant (vacant : r.occupied h.index.toNat = false) : r.resolve h = none := by
  rw [← Option.not_isSome_iff_eq_none, resolve_isSome_iff, vacant]
  exact fun e => Bool.false_ne_true e.2

/-- What a handle names once an entry has joined is the entry, or what it named before. -/
theorem resolve_insert_cases (resolves : (r.insert a).2.resolve h = some b) :
    h = (r.insert a).1 ∧ a = b ∨ r.resolve h = some b := by
  by_cases here : h.index.toNat = r.vacancy a
  · left
    rw [resolve, slots_insert, if_pos here] at resolves
    simp only at resolves
    split at resolves
    · rename_i same
      refine ⟨?_, Option.some_inj.1 resolves⟩
      obtain ⟨i, g⟩ := h
      rw [fst_insert, ← here, same]
      simp
    · cases resolves
  · right
    rw [resolve, slots_insert, if_neg here] at resolves
    exact resolves

theorem index_fst_insert (small : r.vacancy a < 2 ^ 32) :
    (r.insert a).1.index.toNat = r.vacancy a := UInt32.toNat_ofNat_of_lt' small

/-- The handle that is given out for an entry names it, if its slot has a place in a handle, -/
theorem resolve_fst_insert (small : r.vacancy a < 2 ^ 32) :
    (r.insert a).2.resolve (r.insert a).1 = some a := by
  rw [resolve, index_fst_insert small, slots_insert, if_pos rfl]
  exact if_pos rfl

/-- and was not given out before. -/
theorem not_issued_fst_insert (small : r.vacancy a < 2 ^ 32) : ¬ r.Issued (r.insert a).1 := by
  rw [Issued, index_fst_insert small, age_vacancy, occupied_vacancy, fst_insert]
  simp

/-- Removing gives the entry that the handle names. -/
theorem fst_remove (h : Handle) (r : Roster α) : (r.remove h).1 = r.resolve h := by
  rw [remove]
  split
  · rename_i found
    exact found.symm
  · rename_i missing
    exact missing.symm

/-- Where the handle names nothing, removing changes nothing. -/
theorem snd_remove_of_none (missing : r.resolve h = none) : (r.remove h).2 = r := by
  rw [remove, missing]

/-- Removing vacates the slot of the handle and no other. -/
theorem slots_remove (found : r.resolve h = some a) (j : Nat) :
    (r.remove h).2.slots[j]? =
      if h.index.toNat = j then (r.slots[j]?).map Slot.vacate else r.slots[j]? := by
  simp only [remove, found, List.getElem?_modify]
  split <;> simp

/-- A slot that was vacated holds nothing. -/
theorem occupied_of_vacate {j : Nat} {slot : Option (Slot α)}
    (vacated : r.slots[j]? = slot.map Slot.vacate) : r.occupied j = false := by
  rw [occupied, vacated]
  cases slot with
  | none => rfl
  | some s =>
    obtain ⟨g, occupant⟩ := s
    cases occupant <;> rfl

/-- **A handle names nothing right after its entry was removed**, -/
theorem resolve_remove_self (h : Handle) (r : Roster α) : (r.remove h).2.resolve h = none := by
  cases found : r.resolve h with
  | none => rw [snd_remove_of_none found, found]
  | some a =>
    have vacated := slots_remove found h.index.toNat
    rw [if_pos rfl] at vacated
    exact resolve_of_vacant (occupied_of_vacate vacated)

/-- nor after all were. -/
theorem resolve_clear (h : Handle) (r : Roster α) : r.clear.resolve h = none :=
  resolve_of_vacant (occupied_of_vacate (List.getElem?_map ..))

/-- Removing what another handle names is no concern of a handle. -/
theorem resolve_remove_of_ne {h' : Handle} (other : h ≠ h') :
    (r.remove h').2.resolve h = r.resolve h := by
  cases found : r.resolve h' with
  | none => rw [snd_remove_of_none found]
  | some b =>
    by_cases here : h'.index.toNat = h.index.toNat
    · -- the slot is of the generation of the other handle, so that it did not name anything before
      have generation : h'.generation.toNat = r.age h'.index.toNat :=
        (resolve_isSome_iff.1 (by rw [found]; rfl)).1
      have gone : ¬ (r.resolve h).isSome = true := by
        rw [resolve_isSome_iff, ← here, ← generation, Generation.toNat_inj]
        rintro ⟨same, -⟩
        exact other (congrArg₂ Handle.mk (UInt32.toNat_inj.1 here.symm) same)
      rw [Option.not_isSome_iff_eq_none.1 gone]
      have vacated := slots_remove found h.index.toNat
      rw [if_pos here] at vacated
      exact resolve_of_vacant (occupied_of_vacate vacated)
    · rw [resolve, slots_remove found, if_neg here, resolve]

/-- Where entries leave, handles that name something named it before. -/
theorem Thinned.resolve_eq_some (thinned : r.Thinned r') (resolves : r'.resolve h = some a) :
    r.resolve h = some a := by
  obtain same | gone := thinned.resolve h
  · rw [← same, resolves]
  · rw [gone] at resolves
    cases resolves

/-- **What a change does to a handle that was issued**: it names nothing if the change ends what it
stands for, and what it named before otherwise. -/
theorem resolve_change_of_issued (issued : r.Issued h) (c : Change α) :
    (r.change c).resolve h = if c.ends h then none else r.resolve h := by
  cases c with
  | insert a => exact resolve_insert_of_issued a issued
  | remove h' =>
    by_cases same : h = h'
    · rw [Change.ends, if_pos (decide_eq_true same), ← same]
      exact resolve_remove_self h r
    · rw [Change.ends, if_neg (by simp [same])]
      exact resolve_remove_of_ne same
  | clear => exact resolve_clear h r

/-! ### The handles of the entries -/

/-- The handles of the entries in slots, which are counted from an index on. -/
def handlesFrom : Nat → List (Slot α) → List Handle
  | _, [] => []
  | i, s :: ss =>
    match s.occupant with
    | some _ => ⟨i.toUInt32, s.generation⟩ :: handlesFrom (i + 1) ss
    | none => handlesFrom (i + 1) ss

/-- The handles of the entries, by the index of their slots. -/
def handles (r : Roster α) : List Handle := handlesFrom 0 r.slots

/-- There are as many of them as there are entries. -/
theorem length_handlesFrom (i : Nat) (slots : List (Slot α)) :
    (handlesFrom i slots).length = (slots.filterMap (·.occupant)).length := by
  induction slots generalizing i with
  | nil => rfl
  | cons s ss ih =>
    obtain ⟨g, occupant⟩ := s
    cases occupant with
    | none => exact ih (i + 1)
    | some a => exact congrArg (· + 1) (ih (i + 1))

theorem mem_handlesFrom {i : Nat} {slots : List (Slot α)} :
    h ∈ handlesFrom i slots ↔
      ∃ j s, slots[j]? = some s ∧ s.occupant.isSome = true ∧
        h = ⟨(i + j).toUInt32, s.generation⟩ := by
  induction slots generalizing i with
  | nil => simp [handlesFrom]
  | cons s ss ih =>
    have tail : (∃ j t, (s :: ss)[j + 1]? = some t ∧ t.occupant.isSome = true ∧
        h = ⟨(i + (j + 1)).toUInt32, t.generation⟩) ↔ h ∈ handlesFrom (i + 1) ss := by
      rw [ih]
      refine exists_congr fun j => ?_
      rw [List.getElem?_cons_succ, show i + (j + 1) = i + 1 + j by omega]
    rw [← Nat.or_exists_add_one, tail]
    obtain ⟨g, occupant⟩ := s
    cases occupant with
    | none => simp [handlesFrom]
    | some a => simp [handlesFrom]

/-- The indices of the handles are those of slots, in order. -/
theorem index_handlesFrom_sublist {i : Nat} {slots : List (Slot α)}
    (small : i + slots.length ≤ 2 ^ 32) :
    ((handlesFrom i slots).map (·.index.toNat)).Sublist (List.range' i slots.length) := by
  induction slots generalizing i with
  | nil => exact List.Sublist.refl _
  | cons s ss ih =>
    rw [List.length_cons] at small
    have rest := ih (i := i + 1) (by omega)
    have index : i.toUInt32.toNat = i :=
      UInt32.toNat_ofNat_of_lt' (show i < 2 ^ 32 by omega)
    obtain ⟨g, occupant⟩ := s
    rw [List.length_cons, List.range'_succ]
    cases occupant with
    | none => exact rest.cons i
    | some a =>
      simp only [handlesFrom, List.map_cons, index]
      exact rest.cons_cons i

/-- If the indices have a place in a handle, no two entries have one handle, -/
theorem nodup_handles (small : r.slots.length ≤ 2 ^ 32) : r.handles.Nodup := by
  have indices : (r.handles.map (·.index.toNat)).Sublist (List.range' 0 r.slots.length) :=
    index_handlesFrom_sublist (by omega)
  exact List.Nodup.of_map _ (indices.nodup (List.nodup_range' ..))

/-- and their handles are those that name something. -/
theorem mem_handles (small : r.slots.length ≤ 2 ^ 32) :
    h ∈ r.handles ↔ (r.resolve h).isSome = true := by
  rw [handles, mem_handlesFrom]
  constructor
  · rintro ⟨j, s, slot, occupied, rfl⟩
    obtain ⟨short, -⟩ := List.getElem?_eq_some_iff.1 slot
    have index : j.toUInt32.toNat = j := UInt32.toNat_ofNat_of_lt' (show j < 2 ^ 32 by omega)
    rw [Nat.zero_add, resolve, index, slot]
    simpa using occupied
  · intro resolves
    rw [resolve] at resolves
    cases slot : r.slots[h.index.toNat]? with
    | none => simp [slot] at resolves
    | some s =>
      simp only [slot] at resolves
      split at resolves
      · rename_i same
        refine ⟨h.index.toNat, s, slot, resolves, ?_⟩
        rw [same]
        simp
      · cases resolves

/-! ### Slots -/

/-- Filling makes a new slot only if all slots hold something. -/
theorem length_fill_le (a : α) (slots : List (Slot α)) :
    (fill a slots).2.2.length ≤
      max slots.length ((fill a slots).2.2.filterMap (·.occupant)).length := by
  induction slots with
  | nil => simp [fill]
  | cons s ss ih =>
    obtain ⟨g, occupant⟩ := s
    cases occupant with
    | none => exact Nat.le_max_left _ _
    | some b =>
      have more : (fill a (⟨g, some b⟩ :: ss)).2.2 = ⟨g, some b⟩ :: (fill a ss).2.2 := rfl
      rw [more, List.filterMap_cons, List.length_cons, List.length_cons, List.length_cons]
      omega

/-- It makes at most one. -/
theorem length_le_fill (a : α) (slots : List (Slot α)) :
    slots.length ≤ (fill a slots).2.2.length := by
  induction slots with
  | nil => exact Nat.zero_le _
  | cons s ss ih =>
    obtain ⟨g, occupant⟩ := s
    cases occupant with
    | none => exact Nat.le_refl _
    | some b => exact Nat.succ_le_succ ih

/-- The slots before the one that is filled hold something. -/
theorem occupied_of_lt_fill {a : α} {slots : List (Slot α)} {j : Nat}
    (before : j < (fill a slots).1) : (slots[j]?).any (·.occupant.isSome) = true := by
  induction slots generalizing j with
  | nil => simp [fill] at before
  | cons s ss ih =>
    obtain ⟨g, occupant⟩ := s
    cases occupant with
    | none => simp [fill] at before
    | some b =>
      cases j with
      | zero => rfl
      | succ j => exact ih (Nat.lt_of_succ_lt_succ before)

/-- **An entry is put in the first slot that holds nothing.** -/
theorem occupied_of_lt_vacancy {j : Nat} (before : j < r.vacancy a) : r.occupied j = true :=
  occupied_of_lt_fill before

theorem size_le_length (r : Roster α) : r.size ≤ r.slots.length := List.length_filterMap_le ..

theorem length_remove (h : Handle) (r : Roster α) :
    (r.remove h).2.slots.length = r.slots.length := by
  rw [remove]
  split
  · exact List.length_modify ..
  · rfl

/-- **There are as many slots after a change as before, or as there are entries now.** -/
theorem length_change (r : Roster α) (c : Change α) :
    (r.change c).slots.length = max r.slots.length (r.change c).size := by
  have entries := size_le_length (r.change c)
  cases c with
  | insert a =>
    have upper : (r.change (.insert a)).slots.length ≤
        max r.slots.length (r.change (.insert a)).size := length_fill_le a r.slots
    have lower : r.slots.length ≤ (r.change (.insert a)).slots.length := length_le_fill a r.slots
    omega
  | remove h =>
    have same : (r.change (.remove h)).slots.length = r.slots.length := length_remove h r
    omega
  | clear =>
    have same : (r.change .clear).slots.length = r.slots.length := List.length_map _
    omega

/-- The slot that an entry is put in is there afterwards. -/
theorem vacancy_lt_length (a : α) (r : Roster α) : r.vacancy a < (r.insert a).2.slots.length := by
  have slot := slots_insert a r (r.vacancy a)
  rw [if_pos rfl] at slot
  exact (List.getElem?_eq_some_iff.1 slot).1

end Simulcast.Roster
