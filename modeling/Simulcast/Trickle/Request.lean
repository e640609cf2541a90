import Simulcast.Trickle.Ledger

/-!
# Requests for counters

What one asks of the counters of all sources: the counter of a source, which is made with
a bound if the source has none, and a number of steps of it; or that the counter of a
source be forgotten.
-/

namespace Simulcast.Trickle

/-- What is asked of a ledger. -/
inductive Request where
  /-- The counter of a source, made with the bound if there is none, and a number of its steps. -/
  | count (source : Source) (bound : UInt32) (times : Nat)
  /-- That the counter of a source be forgotten. -/
  | forget (source : Source)
  deriving DecidableEq, Repr

/-- What a ledger answers. -/
inductive Reply where
  /-- The counter: which one it is, its bound, and its value after each of the steps. -/
  | counter (serial : Nat) (bound : UInt32) (values : List UInt32)
  /-- Whether there was a counter. -/
  | forgotten (was : Bool)
  deriving DecidableEq, Repr

/-- The source that a request is about. -/
def Request.source : Request → Source
  | count source _ _ => source
  | forget source => source

@[simp] theorem Request.source_count (source : Source) (bound : UInt32) (times : Nat) :
    (count source bound times).source = source := rfl

@[simp] theorem Request.source_forget (source : Source) : (forget source).source = source := rfl

/-- The values of a counter after each of a number of steps. -/
def Counter.values : Nat → Counter → List UInt32
  | 0, _ => []
  | n + 1, c => c.step.value :: values n c.step

namespace Ledger

/-- The account of a source, or the one that it gets if it has none. -/
def account (source : Source) (bound : UInt32) (l : Ledger) : Account :=
  (l.get? source).getD ⟨source, l.made, .new bound⟩

/-- Advances the counter of a source by a number of steps. -/
def steps (source : Source) (n : Nat) (l : Ledger) : Ledger := n.repeat (step source) l

/-- Answers a request. -/
def serve (l : Ledger) : Request → Reply × Ledger
  | .count source bound times =>
    let a := l.account source bound
    (.counter a.serial a.counter.bound (a.counter.values times),
      (l.ensure source bound).steps source times)
  | .forget source => (.forgotten (l.contains source), l.erase source)

end Ledger

end Simulcast.Trickle
