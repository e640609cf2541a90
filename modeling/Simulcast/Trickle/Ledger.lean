import Simulcast.Trickle.Counter
import Simulcast.Packet

/-!
# The counters of all sources

Each source whose packets were not selected has a counter of its own, made when it is
first needed and forgotten when the source goes away. A counter carries the number of
counters that were made before it, so a counter made anew is told from the one that
was forgotten.
-/

namespace Simulcast.Trickle

/-- A source and its counter. -/
structure Account where
  /-- The source. -/
  source : Source
  /-- The number of counters that were made before this one. -/
  serial : Nat
  /-- The counter. -/
  counter : Counter
  deriving DecidableEq, Repr, Inhabited

/-- The counters, one for each source that has one. -/
structure Ledger where
  /-- The accounts, the newest first. -/
  accounts : List Account := []
  /-- The number of counters made so far. -/
  made : Nat := 0
  deriving DecidableEq, Repr, Inhabited

namespace Ledger

/-- The ledger without counters. -/
def empty : Ledger := {}

/-- The account of a source. -/
def get? (l : Ledger) (source : Source) : Option Account :=
  l.accounts.find? fun a => a.source == source

/-- Whether a source has a counter. -/
def contains (l : Ledger) (source : Source) : Bool := (l.get? source).isSome

/-- The number of sources that have a counter. -/
def size (l : Ledger) : Nat := l.accounts.length

/-- Makes a counter for a source that has none. -/
def ensure (source : Source) (bound : UInt32) (l : Ledger) : Ledger :=
  if l.contains source then l
  else ⟨⟨source, l.made, .new bound⟩ :: l.accounts, l.made + 1⟩

/-- A source keeps its account, or gets a new one; other sources are not touched. -/
theorem get?_ensure (l : Ledger) (source other : Source) (bound : UInt32) :
    (l.ensure source bound).get? other =
      if l.contains source = false ∧ source = other then some ⟨source, l.made, .new bound⟩
      else l.get? other := by
  unfold ensure
  by_cases h : l.contains source = true
  · simp [h]
  · rw [if_neg h]
    by_cases hs : source = other <;> simp_all [get?]

/-- Advances the counter of a source by one step. -/
def step (source : Source) (l : Ledger) : Ledger :=
  { l with accounts := l.accounts.map fun a =>
      if a.source = source then { a with counter := a.counter.step } else a }

/-- The counter of the source is one step further, and the others are where they were. -/
theorem get?_step (l : Ledger) (source other : Source) :
    (l.step source).get? other =
      (l.get? other).map fun a =>
        if a.source = source then { a with counter := a.counter.step } else a := by
  simp only [step, get?, List.find?_map]
  congr 2
  funext a
  by_cases h : a.source = source <;> simp [h]

/-- Forgets the counter of a source. -/
def erase (source : Source) (l : Ledger) : Ledger :=
  { l with accounts := l.accounts.filter fun a => a.source ≠ source }

/-- The source has no account any more, and the others keep theirs. -/
theorem get?_erase (l : Ledger) (source other : Source) :
    (l.erase source).get? other = if other = source then none else l.get? other := by
  simp only [erase, get?, List.find?_filter]
  by_cases h : other = source
  · subst h
    simp
  · simp only [h, if_false]
    congr 1
    funext a
    by_cases ha : a.source = other <;> simp_all

end Ledger

/-- The packets in one cycle of a counter. -/
def cycle : UInt32 := 0x800

/-- The packets that are let through at the start of a cycle. -/
def admitted : UInt32 := 8

end Simulcast.Trickle
