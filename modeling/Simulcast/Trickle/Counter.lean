/-!
# Cyclic counters

A receiver follows the sequence numbers of a source through their wraparounds, which
it can only do while packets of the source arrive now and then. So of the packets that
are not selected a few are let through at the start of every cycle of a counter.
-/

namespace Simulcast.Trickle

/-- A counter that returns to zero when it reaches its bound. -/
structure Counter where
  /-- The number of values that the counter takes. -/
  bound : UInt32
  /-- The value that it took last. -/
  value : UInt32
  deriving DecidableEq, Repr, Inhabited

namespace Counter

/-- A new counter, one step before zero. -/
def new (bound : UInt32) : Counter := ⟨bound, bound - 1⟩

/-- The counter after one step. -/
def step (c : Counter) : Counter := { c with value := (c.value + 1) % c.bound }

/-- The counter after a number of steps. -/
def steps (n : Nat) (c : Counter) : Counter := n.repeat step c

end Counter

end Simulcast.Trickle
