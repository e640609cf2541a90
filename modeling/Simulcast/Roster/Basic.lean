import Simulcast.Roster.Handle

/-!
# Rosters

A roster owns entries in slots and hands out handles to them. A slot that is vacated
moves on to its next generation, so the handles to what it held stop resolving; the
first vacant slot is filled again before a new one is made.
-/

namespace Simulcast

/-- A place for an entry. -/
structure Slot (α : Type) where
  /-- The generation of what the slot holds, or will hold next. -/
  generation : Generation
  /-- What the slot holds. -/
  occupant : Option α
  deriving DecidableEq, Repr

namespace Slot

variable {α : Type}

/-- The slot without what it held, in its next generation; a vacant slot stays as it is. -/
def vacate (s : Slot α) : Slot α :=
  match s.occupant with
  | some _ => ⟨s.generation.next, none⟩
  | none => s

end Slot

/-- Entries with handles. -/
structure Roster (α : Type) where
  /-- The slots, by index. -/
  slots : List (Slot α) := []
  deriving DecidableEq, Repr, Inhabited

namespace Roster

variable {α : Type}

/-- The roster without slots. -/
def empty : Roster α := ⟨[]⟩

/-- Fills the first vacant slot, or a new one at the end: the index and the generation of the slot
filled, and the slots after it. -/
def fill (a : α) : List (Slot α) → Nat × Generation × List (Slot α)
  | [] => (0, .first, [⟨.first, some a⟩])
  | s :: ss =>
    match s.occupant with
    | none => (0, s.generation, ⟨s.generation, some a⟩ :: ss)
    | some _ =>
      let (i, g, ss) := fill a ss
      (i + 1, g, s :: ss)

/-- Adds an entry. -/
def insert (a : α) (r : Roster α) : Handle × Roster α :=
  let (i, g, slots) := fill a r.slots
  (⟨i.toUInt32, g⟩, ⟨slots⟩)

/-- The entry that a handle names, as long as it is there. -/
def resolve (r : Roster α) (h : Handle) : Option α :=
  match r.slots[h.index.toNat]? with
  | some s => if s.generation = h.generation then s.occupant else none
  | none => none

/-- Removes the entry that a handle names, and gives it. -/
def remove (h : Handle) (r : Roster α) : Option α × Roster α :=
  match r.resolve h with
  | some a => (some a, ⟨r.slots.modify h.index.toNat Slot.vacate⟩)
  | none => (none, r)

/-- Removes every entry. -/
def clear (r : Roster α) : Roster α := ⟨r.slots.map Slot.vacate⟩

/-- The entries, by the index of their slots. -/
def entries (r : Roster α) : List α := r.slots.filterMap (·.occupant)

/-- The number of entries. -/
def size (r : Roster α) : Nat := r.entries.length

/-- Whether there is no entry. -/
def isEmpty (r : Roster α) : Bool := r.size == 0

/-- The handle of the first entry, from an index on, that a test accepts. -/
def findFrom? (p : α → Bool) : Nat → List (Slot α) → Option Handle
  | _, [] => none
  | i, s :: ss =>
    match s.occupant with
    | some a => if p a then some ⟨i.toUInt32, s.generation⟩ else findFrom? p (i + 1) ss
    | none => findFrom? p (i + 1) ss

/-- The handle of the first entry that a test accepts. -/
def find? (p : α → Bool) (r : Roster α) : Option Handle := findFrom? p 0 r.slots

end Roster

end Simulcast
