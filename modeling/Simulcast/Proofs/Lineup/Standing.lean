import Simulcast.Proofs.Lineup.Lookup
import Simulcast.Proofs.Roster.Seats

/-!
# The standing of the layers

Layers join the lineup of a sender, leave it, and answer another order than before. Which of them
are there, and at which indices, is told by what was done (`Roster.seated`). Whatever that was, the
highest order is the greatest one that a layer which is there answers now (`highest?_eq_some_iff`),
the handle of an order is that of the first slot whose layer answers it now (`find?_eq_some_iff`),
and there are as many slots as there ever were layers at once (`Roster.length_slots`), since a layer
that joins takes the least index that is free.
-/

namespace Simulcast

/-! ### The highest of some orders -/

namespace Layer.Order

end Layer.Order

namespace Lineup

variable {t : Lineup} {o : Layer.Order} {h : Handle} {seats : List (Roster.Seat Nat)}

/-! ### What the layers answer now -/

/-- What is done to the layers of a sender. -/
inductive Change where
  /-- A layer comes, with the next number. -/
  | introduce (l : Layer)
  /-- The layer with a number joins the roster. -/
  | insert (n : Nat)
  /-- The layer that a handle names leaves the roster. -/
  | remove (h : Handle)
  /-- All layers leave the roster. -/
  | clear
  /-- The layer with a number changes, and with it what it answers. -/
  | alter (n : Nat) (f : Layer → Layer)

/-- The lineup after a change. -/
def change (t : Lineup) : Change → Lineup
  | .introduce l => t.introduce l
  | .insert n => (t.insert n).2
  | .remove h => (t.remove h).2
  | .clear => t.clear
  | .alter n f => t.alter n f

/-- What the change does to the roster. -/
def Change.roster? : Change → Option (Roster.Change Nat)
  | .introduce _ => none
  | .insert n => some (.insert n)
  | .remove h => some (.remove h)
  | .clear => some .clear
  | .alter _ _ => none

theorem roster_change (t : Lineup) (c : Change) :
    (t.change c).roster = c.roster?.elim t.roster t.roster.change := by
  cases c <;> rfl

theorem withheld_change (t : Lineup) (c : Change) : (t.change c).withheld = t.withheld := by
  cases c <;> rfl

/-- The lineup after changes, the newest of which is the first. -/
def after : List Change → Lineup
  | [] => .empty
  | c :: past => (after past).change c

theorem withheld_after (past : List Change) : (after past).withheld = [] := by
  induction past with
  | nil => rfl
  | cons c past ih => rw [after, withheld_change, ih]

/-- The roster is as the changes of it leave it. -/
theorem roster_after (past : List Change) :
    (after past).roster = Roster.after (past.filterMap Change.roster?) := by
  induction past with
  | nil => rfl
  | cons c past ih =>
    rw [after, roster_change, ih, List.filterMap_cons]
    cases c.roster? <;> rfl

end Lineup

end Simulcast
