import Simulcast.Proofs.Roster.History
import Simulcast.Proofs.Session.Removal

/-!
# Handles that were given out in a scene

A scene takes its roster through changes (`changes`), so what is true of the handles of a roster is
true of those of a scene: the handles that were given out are listed with their layers (`granted`),
a handle that names a layer was given out for it, and a handle is given out for one layer as long as
there is room for that (`granted_unique`).
-/

namespace Simulcast.Session.Scene

/-- The changes of the roster that moves made, the newest first. -/
def changes (sc : Scene) : List Move → List (Roster.Change Nat)
  | [] => []
  | m :: past => (m.change? (sc.after perform past).session).toList ++ sc.changes past

/-- The handles that were given out, each with the layer that it was given out for. -/
def granted (sc : Scene) (past : List Move) : List (Handle × Nat) :=
  Roster.grants (sc.changes past)

variable {sc : Scene} {past : List Move}

/-- The roster went through these changes. -/
theorem roster_after (empty : sc.session.lineup.roster = .empty) (past : List Move) :
    (sc.after perform past).session.lineup.roster = Roster.after (sc.changes past) := by
  induction past with
  | nil => exact empty
  | cons m past ih =>
    rw [after, roster_play, changes, ih]
    cases m.change? (sc.after perform past).session with
    | none => rfl
    | some c => rfl

/-- It vacated the same slots. -/
theorem vacated_changes (empty : sc.session.lineup.roster = .empty) (i : Nat) (past : List Move) :
    Roster.vacated i (sc.changes past) = sc.vacated i past := by
  induction past with
  | nil => rfl
  | cons m past ih =>
    have before := roster_after empty past
    have now := roster_after empty (m :: past)
    rw [vacated, occupied, occupied, before, now, ← ih, changes]
    cases m.change? (sc.after perform past).session with
    | none => simp
    | some c => rfl

/-- A handle that names a layer was given out for it. -/
theorem mem_granted_of_resolve (empty : sc.session.lineup.roster = .empty) {h : Handle}
    {layer : Nat} (names : (sc.after perform past).session.lineup.resolve h = some layer) :
    (h, layer) ∈ sc.granted past := by
  rw [Lineup.resolve] at names
  split at names
  · cases names
  · rw [roster_after empty] at names
    exact Roster.mem_grants_of_resolve names

/-- What was given out stays so. -/
theorem granted_subset (sc : Scene) (m : Move) (past : List Move) :
    sc.granted past ⊆ sc.granted (m :: past) := by
  rw [granted, granted, changes]
  cases m.change? (sc.after perform past).session with
  | none => exact List.Subset.refl _
  | some c =>
    cases c with
    | insert layer => exact List.subset_cons_self _ _
    | remove h => exact List.Subset.refl _
    | clear => exact List.Subset.refl _

/-- A handle is given out for one layer, as long as there is room for that. -/
theorem granted_unique (empty : sc.session.lineup.roster = .empty)
    (room : ∀ i, sc.vacated i past < greatestGeneration)
    (small : Roster.peak (sc.changes past) < 2 ^ 32) {h : Handle} {layer layer' : Nat}
    (given : (h, layer) ∈ sc.granted past) (given' : (h, layer') ∈ sc.granted past) :
    layer = layer' := by
  have within : Roster.Within (sc.changes past) :=
    ⟨fun i => (vacated_changes empty i past).symm ▸ room i, small⟩
  have same := List.inj_on_of_nodup_map within.nodup_grants given given' rfl
  exact congrArg Prod.snd same

end Simulcast.Session.Scene
