import Mathlib.Algebra.Group.Nat.Defs
import Simulcast.Roster.Basic

/-!
# Generations

A slot moves on to its next generation whenever it is vacated, so that a handle to what it held
stops resolving. `Roster.Issued r h` says that the slot of a handle has come to the generation of
the handle, and past it if it is vacant. As long as the generations of the slot do not start over,
what was issued stays issued (`issued_insert`, `Thinned.issued`), and an entry that joins the
roster does not answer to a handle that was issued before (`resolve_insert_of_issued`). The greatest
generation is followed by the first, so in any case a slot ages as `Moved.age_eq` says.
-/

namespace Simulcast

/-- The greatest generation. -/
def greatestGeneration : Nat := 2 ^ 32 - 1

namespace Generation

/-- A generation as a natural number. -/
def toNat (g : Generation) : Nat := g.number.toNat

theorem toNat_inj {g g' : Generation} : g.toNat = g'.toNat ↔ g = g' := by
  constructor
  · intro h
    cases g
    cases g'
    simpa using UInt32.toNat_inj.1 h
  · rintro rfl
    rfl

theorem toNat_le_greatestGeneration (g : Generation) : g.toNat ≤ greatestGeneration :=
  Nat.le_pred_of_lt g.number.toNat_lt

/-- Below the greatest generation the next one is one more. -/
theorem toNat_next {g : Generation} (h : g.toNat < greatestGeneration) :
    g.next.toNat = g.toNat + 1 := by
  have one : (1 : UInt32).toNat = 1 := rfl
  have sum : (g.number + 1).toNat = g.number.toNat + 1 := by
    unfold toNat greatestGeneration at h
    rw [UInt32.toNat_add, one]
    omega
  have nonzero : g.number + 1 ≠ 0 := by
    intro zero
    rw [zero] at sum
    exact Nat.succ_ne_zero _ sum.symm
  unfold next
  rw [dif_pos nonzero]
  exact sum

/-- The greatest generation is followed by the first. -/
theorem next_of_greatest {g : Generation} (h : g.toNat = greatestGeneration) : g.next = .first := by
  have zero : g.number + 1 = 0 := by
    apply UInt32.toNat_inj.1
    unfold toNat greatestGeneration at h
    rw [UInt32.toNat_add, h]
    rfl
  unfold next
  rw [dif_neg (by simp [zero])]

/-- So the next generation is one more, the greatest counting as zero. -/
theorem toNat_next_eq (g : Generation) : g.next.toNat = g.toNat % greatestGeneration + 1 := by
  by_cases below : g.toNat < greatestGeneration
  · rw [toNat_next below, Nat.mod_eq_of_lt below]
  · have greatest : g.toNat = greatestGeneration :=
      Nat.le_antisymm g.toNat_le_greatestGeneration (Nat.le_of_not_lt below)
    rw [next_of_greatest greatest, greatest, Nat.mod_self]
    rfl

end Generation

namespace Roster

variable {α : Type} {r r' : Roster α} {h : Handle} {i : Nat}

/-- Whether a slot holds something. -/
def occupied (r : Roster α) (i : Nat) : Bool := (r.slots[i]?).any (·.occupant.isSome)

/-- The generation of a slot, which is the first as long as there is no such slot. -/
def age (r : Roster α) (i : Nat) : Nat := (r.slots[i]?).elim 1 (·.generation.toNat)

/-- The slot of the handle has come to its generation, and past it if it is vacant. -/
def Issued (r : Roster α) (h : Handle) : Prop :=
  h.generation.toNat < r.age h.index.toNat ∨
    h.generation.toNat = r.age h.index.toNat ∧ r.occupied h.index.toNat = true

/-- A handle resolves if its slot is of its generation and holds something. -/
theorem resolve_isSome_iff :
    (r.resolve h).isSome = true ↔
      h.generation.toNat = r.age h.index.toNat ∧ r.occupied h.index.toNat = true := by
  rw [resolve, age, occupied]
  cases r.slots[h.index.toNat]? with
  | none => simp
  | some s =>
    by_cases same : s.generation = h.generation
    · simp [same]
    · have different : h.generation.toNat ≠ s.generation.toNat :=
        fun e => same (Generation.toNat_inj.1 e.symm)
      simp [same, different]

/-- A handle that resolves was issued. -/
theorem issued_of_resolve (h' : (r.resolve h).isSome = true) : r.Issued h :=
  .inr (resolve_isSome_iff.1 h')

/-! ### Joining -/

/-- Filling changes one slot, which holds the entry afterwards. -/
theorem getElem?_fill (a : α) (slots : List (Slot α)) (j : Nat) :
    (fill a slots).2.2[j]? =
      if j = (fill a slots).1 then some ⟨(fill a slots).2.1, some a⟩ else slots[j]? := by
  induction slots generalizing j with
  | nil => cases j <;> simp [fill]
  | cons s ss ih =>
    obtain ⟨g, occupant⟩ := s
    cases occupant with
    | none => cases j <;> simp [fill]
    | some b =>
      cases j with
      | zero => simp [fill]
      | succ j => simpa [fill] using ih j

/-- The slot that is filled was vacant and of the same generation, or new and of the first. -/
theorem getElem?_fill_index (a : α) (slots : List (Slot α)) :
    slots[(fill a slots).1]? = some ⟨(fill a slots).2.1, none⟩ ∨
      slots[(fill a slots).1]? = none ∧ (fill a slots).2.1 = .first := by
  induction slots with
  | nil => exact .inr ⟨rfl, rfl⟩
  | cons s ss ih =>
    obtain ⟨g, occupant⟩ := s
    cases occupant with
    | none => exact .inl rfl
    | some b => simpa [fill] using ih

/-- The index of the slot in which the next entry is put. -/
def vacancy (r : Roster α) (a : α) : Nat := (fill a r.slots).1

theorem slots_insert (a : α) (r : Roster α) (j : Nat) :
    (r.insert a).2.slots[j]? =
      if j = r.vacancy a then some ⟨(fill a r.slots).2.1, some a⟩ else r.slots[j]? :=
  getElem?_fill a r.slots j

theorem occupied_vacancy (r : Roster α) (a : α) : r.occupied (r.vacancy a) = false := by
  unfold occupied vacancy
  obtain vacant | ⟨missing, -⟩ := getElem?_fill_index a r.slots
  · rw [vacant]
    rfl
  · rw [missing]
    rfl

theorem age_vacancy (r : Roster α) (a : α) :
    r.age (r.vacancy a) = (fill a r.slots).2.1.toNat := by
  unfold age vacancy
  obtain vacant | ⟨missing, first⟩ := getElem?_fill_index a r.slots
  · rw [vacant]
    rfl
  · rw [missing, first]
    rfl

/-- No slot moves on when an entry joins, -/
theorem age_insert (a : α) (r : Roster α) (j : Nat) : (r.insert a).2.age j = r.age j := by
  by_cases hj : j = r.vacancy a
  · rw [age, slots_insert, if_pos hj, hj, age_vacancy]
    rfl
  · rw [age, slots_insert, if_neg hj, age]

/-- and all that were occupied still are. -/
theorem occupied_insert (a : α) (r : Roster α) (j : Nat) :
    (r.insert a).2.occupied j = (decide (j = r.vacancy a) || r.occupied j) := by
  by_cases hj : j = r.vacancy a
  · rw [occupied, slots_insert, if_pos hj]
    simp [hj]
  · rw [occupied, slots_insert, if_neg hj]
    simp [hj, occupied]

theorem issued_insert (a : α) (issued : r.Issued h) : (r.insert a).2.Issued h := by
  unfold Issued at issued ⊢
  rw [age_insert, occupied_insert]
  exact issued.imp_right fun here => ⟨here.1, by simp [here.2]⟩

/-- **A new entry answers to no handle that was issued before it.** -/
theorem resolve_insert_of_issued (a : α) (issued : r.Issued h) :
    (r.insert a).2.resolve h = r.resolve h := by
  by_cases hj : h.index.toNat = r.vacancy a
  · -- the slot is vacant, and past the generation of the handle
    have vacant := r.occupied_vacancy a
    rw [← hj] at vacant
    have past : h.generation.toNat ≠ r.age h.index.toNat := by
      obtain past | ⟨-, here⟩ := issued
      · exact Nat.ne_of_lt past
      · simp [vacant] at here
    have before : ¬ (r.resolve h).isSome = true := fun e => past (resolve_isSome_iff.1 e).1
    have after : ¬ ((r.insert a).2.resolve h).isSome = true := by
      rw [resolve_isSome_iff, age_insert]
      exact fun e => past e.1
    rw [Option.not_isSome_iff_eq_none.1 before, Option.not_isSome_iff_eq_none.1 after]
  · rw [resolve, slots_insert, if_neg hj, resolve]

/-! ### Leaving -/

/-- The second roster is the first one with some slots vacated. -/
def Thinned (r r' : Roster α) : Prop :=
  ∀ j : Nat, r'.slots[j]? = r.slots[j]? ∨ r'.slots[j]? = (r.slots[j]?).map Slot.vacate

theorem Thinned.refl (r : Roster α) : r.Thinned r := fun _ => .inl rfl

theorem thinned_remove (h : Handle) (r : Roster α) : r.Thinned (r.remove h).2 := by
  intro j
  rw [remove]
  split
  · simp only [List.getElem?_modify]
    split
    · exact .inr rfl
    · exact .inl (by simp)
  · exact .inl rfl

theorem thinned_clear (r : Roster α) : r.Thinned r.clear := by
  intro j
  rw [clear, List.getElem?_map]
  exact .inr rfl

namespace Thinned

variable (thinned : r.Thinned r')
include thinned

/-- Each slot is as it was, or it was occupied and is vacant in its next generation. -/
theorem slot (j : Nat) :
    r'.slots[j]? = r.slots[j]? ∨
      ∃ g a, r.slots[j]? = some ⟨g, some a⟩ ∧ r'.slots[j]? = some ⟨g.next, none⟩ := by
  obtain same | vacated := thinned j
  · exact .inl same
  · rw [vacated]
    cases hs : r.slots[j]? with
    | none => exact .inl rfl
    | some s =>
      obtain ⟨g, occupant⟩ := s
      cases occupant with
      | none => exact .inl rfl
      | some a => exact .inr ⟨g, a, rfl, rfl⟩

/-- No handle starts to resolve. -/
theorem resolve (h : Handle) : r'.resolve h = r.resolve h ∨ r'.resolve h = none := by
  obtain same | ⟨g, a, -, vacant⟩ := thinned.slot h.index.toNat
  · rw [Roster.resolve, Roster.resolve, same]
    exact .inl rfl
  · refine .inr ?_
    rw [Roster.resolve, vacant]
    simp

/-- The slots that were vacated move on to the next generation, and the others stay. -/
theorem age_eq (j : Nat) :
    r'.age j =
      if r.occupied j && !r'.occupied j then r.age j % greatestGeneration + 1 else r.age j := by
  obtain same | ⟨g, a, before, after⟩ := thinned.slot j
  · rw [Roster.age, same, Roster.occupied, Roster.occupied, same, Bool.and_not_self]
    rfl
  · have was : r.occupied j = true := by rw [occupied, before]; rfl
    have is_not : r'.occupied j = false := by rw [occupied, after]; rfl
    have age_before : r.age j = g.toNat := by rw [Roster.age, before]; rfl
    have age_after : r'.age j = g.next.toNat := by rw [Roster.age, after]; rfl
    rw [was, is_not, age_before, age_after]
    exact g.toNat_next_eq

/-- The slots that were vacated move on by one, as long as they are not at the greatest
generation, and the others stay. -/
theorem age (j : Nat)
    (room : r.occupied j = true → r'.occupied j = false → r.age j < greatestGeneration) :
    r'.age j = r.age j + if r.occupied j && !r'.occupied j then 1 else 0 := by
  rw [thinned.age_eq]
  by_cases vacated : r.occupied j = true ∧ r'.occupied j = false
  · have small := room vacated.1 vacated.2
    rw [vacated.1, vacated.2, Nat.mod_eq_of_lt small]
    rfl
  · have kept : (r.occupied j && !r'.occupied j) = false := by simpa using vacated
    rw [kept]
    rfl

/-- What was issued stays issued. -/
theorem issued (room : ∀ j, r.occupied j = true → r'.occupied j = false →
    r.age j < greatestGeneration) (issued : r.Issued h) : r'.Issued h := by
  have moved := thinned.age h.index.toNat (room _)
  unfold Issued at issued ⊢
  cases was : r.occupied h.index.toNat <;> cases is_now : r'.occupied h.index.toNat <;>
    simp [was, is_now] at moved issued ⊢ <;> omega

end Thinned

/-! ### Ageing -/

/-- What happens to a roster: some slots are vacated, or an entry joins. -/
def Moved (r r' : Roster α) : Prop := r.Thinned r' ∨ ∃ a, r' = (r.insert a).2

/-- A slot moves on to the next generation when it is vacated, and not otherwise. -/
theorem Moved.age_eq (moved : r.Moved r') (j : Nat) :
    r'.age j =
      if r.occupied j && !r'.occupied j then r.age j % greatestGeneration + 1 else r.age j := by
  obtain thinned | ⟨a, rfl⟩ := moved
  · exact thinned.age_eq j
  · rw [age_insert, occupied_insert]
    cases r.occupied j <;> simp

/-- A slot ages by one when it is vacated, as long as it is not at the greatest generation, and not
otherwise. -/
theorem Moved.age (moved : r.Moved r') (j : Nat)
    (room : r.occupied j = true → r'.occupied j = false → r.age j < greatestGeneration) :
    r'.age j = r.age j + if r.occupied j && !r'.occupied j then 1 else 0 := by
  obtain thinned | ⟨a, rfl⟩ := moved
  · exact thinned.age j room
  · rw [age_insert, occupied_insert]
    cases r.occupied j <;> simp

/-- What was issued stays issued, as long as no slot is vacated at the greatest generation. -/
theorem Moved.issued (moved : r.Moved r')
    (room : ∀ j, r.occupied j = true → r'.occupied j = false → r.age j < greatestGeneration)
    (issued : r.Issued h) : r'.Issued h := by
  obtain thinned | ⟨a, rfl⟩ := moved
  · exact thinned.issued room issued
  · exact issued_insert a issued

end Roster

end Simulcast
