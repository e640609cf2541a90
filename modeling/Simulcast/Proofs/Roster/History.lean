import Mathlib.Data.List.Perm.Basic
import Simulcast.Proofs.Roster.Change

/-!
# What handles stand for

A roster that goes through changes stands for a map from handles to entries in which every handle
is new: `handles_sound` says that a handle is never given out twice, that it names the entry that it
was given out for until this entry is removed or all are, and nothing ever after, and that no other
change touches what it names. This holds as long as no slot is vacated so often that its generations
start over and as long as the indices of the slots have a place in a handle (`Within`). That a
handle names nothing right after its entry has left holds without either bound.
-/

namespace Simulcast.Roster

variable {α : Type} {r : Roster α} {h : Handle} {a b : α}

/-! ### Histories -/

/-- The roster after changes, the newest of which is the first. -/
def after : List (Change α) → Roster α
  | [] => .empty
  | c :: past => (after past).change c

/-- The handles that were given out, each with the entry that it was given out for, the newest
first. -/
def grants : List (Change α) → List (Handle × α)
  | [] => []
  | .insert a :: past => (((after past).insert a).1, a) :: grants past
  | _ :: past => grants past

/-- How often a slot was vacated. -/
def vacated (i : Nat) : List (Change α) → Nat
  | [] => 0
  | c :: past =>
    vacated i past +
      if (after past).occupied i && !(after (c :: past)).occupied i then 1 else 0

/-- The greatest number of entries that were there at once. -/
def peak : List (Change α) → Nat
  | [] => 0
  | c :: past => max (peak past) (after (c :: past)).size

/-- No slot was vacated so often that its generations start over, and the indices of the slots have
a place in a handle. -/
structure Within (past : List (Change α)) : Prop where
  /-- The generations do not start over. -/
  room : ∀ i, vacated i past < greatestGeneration
  /-- The indices have a place. -/
  small : peak past < 2 ^ 32

variable {past : List (Change α)} {c : Change α}

/-- There are no more slots than there were entries at once. -/
theorem length_slots_le_peak (past : List (Change α)) : (after past).slots.length ≤ peak past := by
  induction past with
  | nil => exact Nat.le_refl 0
  | cons c past ih =>
    have step := length_change (after past) c
    rw [peak, after]
    omega

/-- **The generation of a slot counts how often it was vacated**, and starts over at one. -/
theorem age_after (past : List (Change α)) (i : Nat) :
    (after past).age i = vacated i past % greatestGeneration + 1 := by
  induction past with
  | nil => rfl
  | cons c past ih =>
    rw [vacated, after, (moved_change _ c).age_eq i, ih]
    split
    · rw [Nat.mod_add_mod]
    · rfl

namespace Within

theorem before (within : Within (c :: past)) : Within past where
  room i := Nat.lt_of_le_of_lt (Nat.le_add_right _ _) (within.room i)
  small := Nat.lt_of_le_of_lt (Nat.le_max_left _ _) within.small

theorem since {later : List (Change α)} (within : Within (later ++ past)) : Within past := by
  induction later with
  | nil => exact within
  | cons c later ih => exact ih within.before

/-- An entry is put in a slot whose index has a place in a handle. -/
theorem vacancy_lt (within : Within (.insert a :: past)) : (after past).vacancy a < 2 ^ 32 := by
  have slot := vacancy_lt_length a (after past)
  have slots := length_slots_le_peak (.insert a :: past)
  have small := within.small
  rw [after, change] at slots
  omega

/-- A slot that is vacated now was not vacated so often before that it is at the greatest
generation. -/
theorem vacated_lt (within : Within (c :: past)) {i : Nat}
    (was : (after past).occupied i = true) (is_not : (after (c :: past)).occupied i = false) :
    1 + vacated i past < greatestGeneration := by
  have room := within.room i
  rw [vacated, was, is_not] at room
  rw [Nat.add_comm]
  exact room

/-- The generation of a slot counts how often it was vacated. -/
theorem age (within : Within past) (i : Nat) : (after past).age i = 1 + vacated i past := by
  rw [age_after, Nat.mod_eq_of_lt (within.room i), Nat.add_comm]

/-- What was issued stays issued. -/
theorem issued_change (within : Within (c :: past)) (issued : (after past).Issued h) :
    (after (c :: past)).Issued h := by
  refine (moved_change _ c).issued (fun i was is_not => ?_) issued
  rw [within.before.age]
  exact within.vacated_lt was is_not

/-- Every handle that was given out is issued. -/
theorem issued_of_grant (within : Within past) {g : Handle × α} (given : g ∈ grants past) :
    (after past).Issued g.1 := by
  induction past with
  | nil => cases given
  | cons c past ih =>
    cases c with
    | insert a =>
      obtain rfl | earlier := List.mem_cons.1 given
      · refine issued_of_resolve ?_
        rw [after, change, resolve_fst_insert within.vacancy_lt]
        rfl
      · exact within.issued_change (ih within.before earlier)
    | remove h' => exact within.issued_change (ih within.before given)
    | clear => exact within.issued_change (ih within.before given)

/-- **No handle is given out twice.** -/
theorem nodup_grants (within : Within past) : ((grants past).map (·.1)).Nodup := by
  induction past with
  | nil => exact List.nodup_nil
  | cons c past ih =>
    cases c with
    | insert a =>
      refine List.nodup_cons.2 ⟨fun again => ?_, ih within.before⟩
      obtain ⟨g, given, same⟩ := List.mem_map.1 again
      have issued := within.before.issued_of_grant given
      rw [same] at issued
      exact not_issued_fst_insert within.vacancy_lt issued
    | remove h' => exact ih within.before
    | clear => exact ih within.before

/-- A handle that was issued names what it named, until a change ends what it stands for. -/
theorem resolve_later {later before : List (Change α)} (within : Within (later ++ before))
    (issued : (after before).Issued h) :
    (after (later ++ before)).Issued h ∧ (after (later ++ before)).resolve h =
      if later.any (·.ends h) then none else (after before).resolve h := by
  induction later with
  | nil => exact ⟨issued, rfl⟩
  | cons c later ih =>
    obtain ⟨still, resolve⟩ := ih within.before
    refine ⟨within.issued_change still, ?_⟩
    rw [List.cons_append, after, resolve_change_of_issued still, resolve, List.any_cons]
    cases c.ends h <;> simp

end Within

/-- A handle that names an entry was given out for it. -/
theorem mem_grants_of_resolve (resolves : (after past).resolve h = some a) :
    (h, a) ∈ grants past := by
  induction past with
  | nil => cases resolves
  | cons c past ih =>
    cases c with
    | insert b =>
      obtain ⟨rfl, rfl⟩ | earlier := resolve_insert_cases resolves
      · exact List.mem_cons_self
      · exact List.mem_cons_of_mem _ (ih earlier)
    | remove h' => exact ih ((thinned_remove h' _).resolve_eq_some resolves)
    | clear => exact ih ((thinned_clear _).resolve_eq_some resolves)

/-- The entries are as many as the handles that were given out and name something. -/
theorem Within.size_eq (within : Within past) :
    (after past).size =
      (((grants past).map (·.1)).filter fun h => ((after past).resolve h).isSome).length := by
  have small : (after past).slots.length ≤ 2 ^ 32 :=
    Nat.le_of_lt (Nat.lt_of_le_of_lt (length_slots_le_peak past) within.small)
  have same : (after past).handles.Perm
      (((grants past).map (·.1)).filter fun h => ((after past).resolve h).isSome) := by
    refine (List.perm_ext_iff_of_nodup (nodup_handles small)
      (within.nodup_grants.filter _)).2 fun h => ?_
    rw [mem_handles small, List.mem_filter, List.mem_map]
    refine ⟨fun resolves => ⟨?_, resolves⟩, fun both => both.2⟩
    obtain ⟨a, names⟩ := Option.isSome_iff_exists.1 resolves
    exact ⟨(h, a), mem_grants_of_resolve names, rfl⟩
  calc (after past).size
      = (after past).handles.length := (length_handlesFrom 0 _).symm
    _ = _ := same.length_eq

/-- No slot is vacated more often than there are changes. -/
theorem vacated_le_length (i : Nat) (past : List (Change α)) : vacated i past ≤ past.length := by
  induction past with
  | nil => exact Nat.le_refl 0
  | cons c past ih =>
    rw [vacated, List.length_cons]
    split
    · exact Nat.succ_le_succ ih
    · exact Nat.le_succ_of_le ih

/-! ### Handles are sound -/

/-- **A roster is a map whose handles are new.** Take any changes of a roster, the newest first, in
which no slot is vacated so often that its generations start over and fewer entries are there at
once than a handle has indices. No handle is given out twice. A handle that was given out for an
entry names it until a change ends what it stands for, and nothing after that; a handle that was
not given out names nothing. Removing gives what the handle names, and changes nothing if it names
nothing; no change touches what a handle names but those that end what it stands for. The entries
are as many as the handles that name something. And whatever was done before, a handle names
nothing right after its entry was removed or all were. -/
theorem handles_sound (past : List (Change α)) :
    ((∀ i, vacated i past < 2 ^ 32 - 1) → peak past < 2 ^ 32 →
      ((grants past).map (·.1)).Nodup ∧
      (∀ later a before, past = later ++ .insert a :: before →
        (after past).resolve ((after before).insert a).1 =
          if later.any (·.ends ((after before).insert a).1) then none else some a) ∧
      (∀ h, h ∉ (grants past).map (·.1) → (after past).resolve h = none) ∧
      (∀ h, ((after past).remove h).1 = (after past).resolve h ∧
        ((after past).resolve h = none → ((after past).remove h).2 = after past)) ∧
      (∀ c before, past = c :: before → ∀ h ∈ (grants before).map (·.1), c.ends h = false →
        (after past).resolve h = (after before).resolve h) ∧
      (after past).size =
        (((grants past).map (·.1)).filter fun h => ((after past).resolve h).isSome).length) ∧
    ∀ h, (after (.remove h :: past)).resolve h = none ∧
      (after (.clear :: past)).resolve h = none := by
  constructor
  · intro room small
    have within : Within past := ⟨room, small⟩
    refine ⟨within.nodup_grants, ?_, ?_, ?_, ?_, within.size_eq⟩
    · rintro later a before rfl
      have since : Within (.insert a :: before) := within.since
      have named : (after (.insert a :: before)).resolve ((after before).insert a).1 = some a :=
        resolve_fst_insert since.vacancy_lt
      have issued : (after (.insert a :: before)).Issued ((after before).insert a).1 :=
        issued_of_resolve (by rw [named]; rfl)
      rw [(within.resolve_later issued).2, named]
    · intro h unknown
      rw [← Option.not_isSome_iff_eq_none]
      intro resolves
      obtain ⟨a, names⟩ := Option.isSome_iff_exists.1 resolves
      exact unknown (List.mem_map_of_mem (mem_grants_of_resolve names))
    · exact fun h => ⟨fst_remove h _, snd_remove_of_none⟩
    · rintro c before rfl h known goes_on
      obtain ⟨g, given, rfl⟩ := List.mem_map.1 known
      have issued := within.before.issued_of_grant given
      rw [after, resolve_change_of_issued issued, goes_on]
      rfl
  · exact fun h => ⟨resolve_remove_self h _, resolve_clear h _⟩

/-- An entry leaves, and another one takes its slot: the first handle names nothing, and the second
one the second entry. -/
theorem handle_of_reused_slot :
    let past : List (Change Nat) := [.insert 8, .remove ⟨0, .first⟩, .insert 7]
    (∀ i, vacated i past < 2 ^ 32 - 1) ∧ peak past < 2 ^ 32 ∧
      ((grants past).map (·.1)).Nodup ∧
      (after past).resolve ⟨0, .first⟩ = none ∧
      (after past).resolve ⟨0, Generation.first.next⟩ = some 8 ∧ (after past).size = 1 := by
  intro past
  have room : ∀ i, vacated i past < 2 ^ 32 - 1 :=
    fun i => Nat.lt_of_le_of_lt (vacated_le_length i past) (by decide)
  have small : peak past < 2 ^ 32 := by decide
  obtain ⟨nodup, since, -, -, -, size⟩ := (handles_sound past).1 room small
  refine ⟨room, small, nodup, ?_, ?_, ?_⟩
  · exact since [.insert 8, .remove ⟨0, .first⟩] 7 [] rfl
  · exact since [] 8 [.remove ⟨0, .first⟩, .insert 7] rfl
  · rw [size]
    decide

end Simulcast.Roster
