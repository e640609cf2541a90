import Simulcast.Proofs.Lineup.Lookup
import Simulcast.Proofs.Roster.History
import Simulcast.Role.Basic

/-!
# Handles in words

Each role keeps its handle as one word of 64 bits, in which zero means that it holds none. That
works because no slot of a roster ever comes to a generation zero: the generation in a handle
is one more than the number of times that the slot was vacated, counted around from the greatest
generation to the first (`generation_of_returned`). So the words of handles are not zero, their
halves are the generation and the index (`Handle.halves?_toWord`), and a role holds what was stored
in it last, whatever is stored in the others (`Roles.halves?_after`). `packed_roles_faithful` puts
this together.
-/

namespace Simulcast

/-! ### Words -/

namespace Handle

/-- The halves of a word, the lower one first; zero has none. -/
def halves? (w : UInt64) : Option (UInt32 × UInt32) :=
  if w = 0 then none else some (w.toUInt32, (w >>> 32).toUInt32)

theorem halves?_eq_none_iff {w : UInt64} : halves? w = none ↔ w = 0 := by
  unfold halves?
  split
  · simpa
  · simpa

/-- What a handle consists of. -/
def parts (h : Handle) : UInt32 × UInt32 := (h.index, h.generation.number)

theorem toWord_ne_zero (h : Handle) : h.toWord ≠ 0 := by
  intro zero
  have upper := h.toUInt32_shiftRight_toWord
  rw [zero] at upper
  exact h.generation.number_ne_zero upper.symm

/-- **The halves of the word of a handle are what it consists of.** -/
theorem halves?_toWord (h : Handle) : halves? h.toWord = some h.parts := by
  rw [halves?, if_neg h.toWord_ne_zero, toUInt32_toWord, toUInt32_shiftRight_toWord]
  rfl

/-- A word is put together again from its halves. -/
theorem toNat_halves (w : UInt64) :
    (w >>> 32).toUInt32.toNat * 2 ^ 32 + w.toUInt32.toNat = w.toNat := by
  have width : UInt64.toNat 32 % 64 = 32 := rfl
  have bound := w.toNat_lt
  rw [UInt64.toNat_toUInt32, UInt64.toNat_toUInt32, UInt64.toNat_shiftRight, width,
    Nat.shiftRight_eq_div_pow]
  omega

/-- **A word packs a handle if and only if it is the word of that handle.** -/
theorem ofWord?_eq_some_iff {w : UInt64} {h : Handle} : ofWord? w = some h ↔ h.toWord = w := by
  constructor
  · intro packs
    have halves := toNat_halves w
    unfold ofWord? at packs
    split at packs
    · obtain rfl := Option.some_inj.1 packs
      apply UInt64.toNat_inj.1
      rw [toNat_toWord, ← halves]
      rfl
    · cases packs
  · rintro rfl
    exact h.ofWord?_toWord

theorem toWord_inj {h h' : Handle} : h.toWord = h'.toWord ↔ h = h' := by
  constructor
  · intro same
    have packs := ofWord?_eq_some_iff.2 same
    rw [ofWord?_toWord] at packs
    exact (Option.some_inj.1 packs).symm
  · rintro rfl
    rfl

end Handle

/-! ### What is stored in the roles -/

namespace Roles

/-- The roles after handles, or none, were stored in them; the newest store is the first. -/
def after : List (Role × Option Handle) → Roles
  | [] => .unset
  | (role, h) :: stores => (after stores).set role h

/-- What was stored in a role last. -/
def stored (stores : List (Role × Option Handle)) (role : Role) : Option Handle :=
  (stores.lookup role).join

theorem stored_cons (role other : Role) (h : Option Handle)
    (stores : List (Role × Option Handle)) :
    stored ((role, h) :: stores) other = if other = role then h else stored stores other := by
  unfold stored
  by_cases same : other = role
  · rw [if_pos same, same, List.lookup_cons_self]
    rfl
  · rw [if_neg same, List.lookup_cons, beq_eq_false_iff_ne.2 same]

/-- The word of a role is that of what was stored in it last. -/
theorem word_after (stores : List (Role × Option Handle)) (role : Role) :
    (after stores).word role = wordOf (stored stores role) := by
  induction stores with
  | nil => cases role <;> rfl
  | cons store stores ih =>
    obtain ⟨other, h⟩ := store
    rw [after, word_set, stored_cons, ih]
    split
    · rfl
    · rfl

/-- **A role holds what was stored in it last**, -/
theorem handle?_after (stores : List (Role × Option Handle)) (role : Role) :
    (after stores).handle? role = stored stores role := by
  rw [handle?, word_after, ofWord?_wordOf]

/-- and its word is zero, or has halves that say so. -/
theorem halves?_after (stores : List (Role × Option Handle)) (role : Role) :
    Handle.halves? ((after stores).word role) = (stored stores role).map Handle.parts := by
  rw [word_after]
  cases stored stores role with
  | none => rfl
  | some h => exact h.halves?_toWord

end Roles

/-! ### The handles of a roster -/

namespace Roster

variable {α : Type} {past : List (Change α)} {h : Handle}

/-- The handle that a roster gives out for the entry that came last, or that a search finds in it.
The newest change is the first. -/
def Returned (past : List (Change α)) (h : Handle) : Prop :=
  (∃ a before, past = .insert a :: before ∧ h = ((after before).insert a).1) ∨
    ∃ p, (after past).find? p = some h

/-- The generation of a handle that names something counts how often its slot was vacated. -/
theorem generation_of_resolve (names : ((after past).resolve h).isSome = true) :
    h.generation.number.toNat = vacated h.index.toNat past % greatestGeneration + 1 := by
  obtain ⟨same, -⟩ := resolve_isSome_iff.1 names
  rw [← age_after, ← same]
  rfl

/-- A handle that is returned names something, as long as its index has a place in it. -/
theorem resolve_of_returned (small : peak past < 2 ^ 32) (returned : Returned past h) :
    ((after past).resolve h).isSome = true := by
  have slots := length_slots_le_peak past
  rcases returned with ⟨a, before, rfl, rfl⟩ | ⟨p, found⟩
  · have vacancy := vacancy_lt_length a (after before)
    rw [after, change] at slots ⊢
    rw [resolve_fst_insert (by omega)]
    rfl
  · obtain ⟨j, g, a, -, -, first⟩ := findFrom?_eq_some found
    have names := find?_bind_resolve (r := after past) (p := p) (by omega)
    rw [found, Option.bind_some, entries, first] at names
    rw [names]
    rfl

/-- **The generation in a handle that is returned** is one more than the number of times that its
slot was vacated, counted around, and so it is not zero. -/
theorem generation_of_returned (small : peak past < 2 ^ 32) (returned : Returned past h) :
    h.generation.number.toNat = vacated h.index.toNat past % greatestGeneration + 1 ∧
      h.generation.number ≠ 0 := by
  have counts := generation_of_resolve (resolve_of_returned small returned)
  refine ⟨counts, fun zero => ?_⟩
  rw [zero] at counts
  exact Nat.succ_ne_zero _ counts.symm

end Roster

/-! ### Faithfulness -/

open Roster

/-- **Packed roles are faithful.** In a roster that goes through any changes, with fewer entries at
once than a handle has indices, every handle that is given out or found is of a generation that is
one more than the number of times that its slot was vacated, counted around from the greatest
generation to the first, and so it is not zero. And however such handles, or none, are stored in the
roles, each role holds what was stored in it last: its word is zero if that is none, and otherwise
has its generation and its index for halves. No two handles have one word. -/
theorem packed_roles_faithful {α : Type} {past : List (Change α)} (small : peak past < 2 ^ 32) :
    (∀ h, Returned past h →
      h.generation.number.toNat = vacated h.index.toNat past % (2 ^ 32 - 1) + 1 ∧
        h.generation.number ≠ 0) ∧
    (∀ (stores : List (Role × Option Handle)) (role : Role),
      (Roles.after stores).handle? role = (stores.lookup role).join ∧
        ((Roles.after stores).word role = 0 ↔ (stores.lookup role).join = none) ∧
        Handle.halves? ((Roles.after stores).word role) =
          (stores.lookup role).join.map fun h => (h.index, h.generation.number)) ∧
    ∀ h h' : Handle, h.toWord = h'.toWord → h = h' := by
  refine ⟨fun h returned => generation_of_returned small returned, fun stores role => ?_,
    fun h h' => Handle.toWord_inj.1⟩
  have halves : Handle.halves? ((Roles.after stores).word role) = _ :=
    Roles.halves?_after stores role
  refine ⟨Roles.handle?_after stores role, ?_, halves⟩
  rw [← Handle.halves?_eq_none_iff, halves, Option.map_eq_none_iff]
  rfl

/-- An entry that joins, and then leaves and joins again a number of times. -/
def turnover : Nat → List (Change Nat)
  | 0 => [.insert 7]
  | k + 1 => .insert 7 :: .clear :: turnover k

/-- It has one slot all the time, which is vacated each time. -/
theorem slots_turnover (k : Nat) :
    (∃ g, (after (turnover k)).slots = [⟨g, some 7⟩]) ∧ vacated 0 (turnover k) = k ∧
      peak (turnover k) = 1 := by
  induction k with
  | zero => exact ⟨⟨.first, rfl⟩, rfl, rfl⟩
  | succ k ih =>
    obtain ⟨⟨g, slots⟩, often, most⟩ := ih
    have before : after (turnover k) = ⟨[⟨g, some 7⟩]⟩ := congrArg Roster.mk slots
    have cleared : after (.clear :: turnover k) = ⟨[⟨g.next, none⟩]⟩ := by
      rw [after, before]
      rfl
    have filled : after (turnover (k + 1)) = ⟨[⟨g.next, some 7⟩]⟩ := by
      rw [turnover, after, cleared]
      rfl
    refine ⟨⟨g.next, by rw [filled]⟩, ?_, ?_⟩
    · rw [turnover, vacated, vacated, often, ← turnover, filled, cleared, before]
      rfl
    · rw [turnover, peak, peak, most, ← turnover, filled, cleared]
      rfl

/-- After so many turns that the generations have started over, the slot is in the first one again,
and not in one that is zero; the handle of its entry, stored as the override, stays there while the
next role is given up. -/
theorem packed_after_turnover :
    peak (turnover (2 ^ 32 - 1)) < 2 ^ 32 ∧
      ∃ h, Returned (turnover (2 ^ 32 - 1)) h ∧ h.generation.number.toNat = 1 ∧
        (Roles.after [(.next, none), (.override, some h)]).handle? .override = some h := by
  obtain ⟨⟨g, slots⟩, often, most⟩ := slots_turnover (2 ^ 32 - 1)
  have small : peak (turnover (2 ^ 32 - 1)) < 2 ^ 32 := by
    rw [most]
    decide
  have found : (after (turnover (2 ^ 32 - 1))).find? (fun _ => true) = some ⟨0, g⟩ := by
    rw [find?, slots]
    rfl
  obtain ⟨generations, roles, -⟩ := packed_roles_faithful small
  obtain ⟨counts, -⟩ := generations ⟨0, g⟩ (.inr ⟨_, found⟩)
  obtain ⟨holds, -⟩ := roles [(.next, none), (.override, some ⟨0, g⟩)] .override
  refine ⟨small, ⟨0, g⟩, .inr ⟨_, found⟩, ?_, holds⟩
  have slot : UInt32.toNat 0 = 0 := rfl
  rw [counts, slot, often, Nat.mod_self]

end Simulcast
