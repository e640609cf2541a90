import Simulcast.Layer.Basic
import Simulcast.Roster.Basic

/-!
# The layers of one sender

A lineup holds the layers that one sender ever had, numbered as they came, and the
roster of those that are there at present. Whoever keeps a handle asks the lineup for
the layer; some handles may be withheld, and are then answered as if their layers had
left.
-/

namespace Simulcast

/-- The layers of one sender. -/
structure Lineup where
  /-- All layers that ever came, by their number. -/
  layers : List Layer := []
  /-- The numbers of the layers that are there. -/
  roster : Roster Nat := .empty
  /-- The handles given out, in the order in which they were. -/
  issued : List Handle := []
  /-- The handles that are not answered. -/
  withheld : List Handle := []
  deriving Inhabited

namespace Lineup

/-- The lineup without layers. -/
def empty : Lineup := {}

/-! ### Asking -/

/-- The layer with a number. -/
def layer (t : Lineup) (n : Nat) : Layer := t.layers.getD n default

/-- The order of the layer with a number. -/
def order (t : Lineup) (n : Nat) : Layer.Order := (t.layer n).order

/-- Whether a layer is there. -/
def hasLayers (t : Lineup) : Bool := !t.roster.isEmpty

/-- The number of the layer that a handle names, as long as it is there. -/
def resolve (t : Lineup) (h : Handle) : Option Nat :=
  if t.withheld.contains h then none else t.roster.resolve h

/-- The handle of the first layer of an order. -/
def find? (t : Lineup) (o : Layer.Order) : Option Handle :=
  t.roster.find? fun n => t.order n == o

/-- The handle and the number of the first layer of an order, if it is answered. -/
def lookup (t : Lineup) (o : Layer.Order) : Option (Handle × Nat) := do
  let h ← t.find? o
  let n ← t.resolve h
  pure (h, n)

/-- The highest order of the layers that are there. -/
def highest? (t : Lineup) : Option Layer.Order :=
  match t.roster.entries.map t.order with
  | [] => none
  | o :: os => some (os.foldl Layer.Order.higher o)

/-! ### Changing -/

/-- The layer with a number becomes part of the roster, once more if it is there already. -/
def insert (n : Nat) (t : Lineup) : Handle × Lineup :=
  let (h, roster) := t.roster.insert n
  (h, { t with roster := roster, issued := t.issued ++ [h] })

/-- A layer comes, with the next number. -/
def introduce (l : Layer) (t : Lineup) : Lineup := { t with layers := t.layers ++ [l] }

/-- A layer comes and becomes part of the roster. -/
def add (l : Layer) (t : Lineup) : Handle × Lineup := (t.introduce l).insert t.layers.length

/-- The layer that a handle names leaves the roster: its number, if it was there. -/
def remove (h : Handle) (t : Lineup) : Option Nat × Lineup :=
  let (n, roster) := t.roster.remove h
  (n, { t with roster := roster })

/-- Every layer leaves the roster. -/
def clear (t : Lineup) : Lineup := { t with roster := t.roster.clear }

/-- Changes the layer with a number. -/
def alter (n : Nat) (f : Layer → Layer) (t : Lineup) : Lineup :=
  { t with layers := t.layers.modify n f }

/-- A handle is answered no more, or again. -/
def withhold (h : Handle) (on : Bool) (t : Lineup) : Lineup :=
  { t with withheld := if on then h :: t.withheld else t.withheld.filter (· ≠ h) }

end Lineup

end Simulcast
