import Simulcast.Binary64.Basic

/-!
# The fewest digits that read back

A finite number stands for all reals that round to it. `Decimal.ofFinite` picks, of
the decimals among them, one with the fewest digits, and of those the nearest; a
`Tie` decides between two equally near ones. All comparisons are exact.
-/

namespace Simulcast

/-- The decimal `digits · 10 ^ exponent`. -/
structure Decimal where
  /-- The digits, read as a natural number. -/
  digits : Nat
  /-- The power of ten that the last digit counts. -/
  exponent : Int
  deriving DecidableEq, Repr

/-- Which of two equally near decimals is taken. -/
inductive Tie where
  /-- The one whose last digit is even. -/
  | even
  /-- The greater one. -/
  | up
  deriving DecidableEq, Repr

namespace Decimal

open Binary64 (raise)

/-- How `a · 10 ^ i` compares with `n · 2 ^ j`. -/
def compareScaled (a : Nat) (i : Int) (n : Nat) (j : Int) : Ordering :=
  compare (a * raise 10 i * raise 2 (-j)) (n * raise 2 j * raise 10 (-i))

/-- Whether a decimal lies among the reals that round to `m · 2 ^ q`: between the
midpoints to the two neighbours, the midpoints included when `m` is even. The
neighbour below a power of two is half as far away as the one above. -/
def readsBack (m : Nat) (q : Int) (d : Decimal) : Bool :=
  let narrow := m == Binary64.significandBound / 2 && decide (Binary64.leastExponent < q)
  let low := if narrow then 4 * m - 1 else 4 * m - 2
  let high := 4 * m + 2
  let fromLow := compareScaled d.digits d.exponent low (q - 2)
  let fromHigh := compareScaled d.digits d.exponent high (q - 2)
  let closed := m % 2 == 0
  (fromLow == .gt || (closed && fromLow == .eq)) && (fromHigh == .lt || (closed && fromHigh == .eq))

/-- The least power of ten above `m · 2 ^ q`, found near the estimate that the binary
logarithm gives. -/
def scale (m : Nat) (q : Int) : Int :=
  let estimate : Int := ((m.log2 : Int) + q) * 30103 / 100000
  let candidates := [estimate - 1, estimate, estimate + 1, estimate + 2]
  (candidates.find? fun k => compareScaled 1 k m q == .gt).getD (estimate + 3)

/-- The multiples of `10 ^ g` just below and just above `m · 2 ^ q`, of which the one that
reads back is taken, and of two the nearer. -/
def onGrid? (tie : Tie) (m : Nat) (q : Int) (g : Int) : Option Decimal :=
  let num := m * raise 2 q * raise 10 (-g)
  let den := raise 2 (-q) * raise 10 g
  let below := num / den
  let lower : Decimal := ⟨below, g⟩
  let upper : Decimal := ⟨below + 1, g⟩
  let lowerHits := below != 0 && readsBack m q lower
  let upperHits := readsBack m q upper
  if lowerHits && upperHits then
    match compare (2 * num) ((2 * below + 1) * den) with
    | .lt => some lower
    | .gt => some upper
    | .eq => if tie = .even ∧ below % 2 = 0 then some lower else some upper
  else if lowerHits then some lower
  else if upperHits then some upper
  else none

/-- The decimal with the zeros at the end of its digits moved into the exponent, `fuel` of
them at most. -/
def trimmed : Nat → Decimal → Decimal
  | 0, d => d
  | fuel + 1, d =>
    if d.digits % 10 = 0 ∧ d.digits ≠ 0 then trimmed fuel ⟨d.digits / 10, d.exponent + 1⟩ else d

/-- The decimal that is `m · 2 ^ q` exactly. -/
def exact (m : Nat) (q : Int) : Decimal :=
  if 0 ≤ q then ⟨m * raise 2 q, 0⟩ else ⟨m * raise 5 (-q), q⟩

/-- The decimal with the fewest digits that reads back as `m · 2 ^ q`, for `m` not zero: the
first of the grids with one to seventeen digits that has such a decimal decides. -/
def ofFinite (tie : Tie) (m : Nat) (q : Int) : Decimal :=
  let k := scale m q
  let found := (List.range 17).findSome? fun n : Nat => onGrid? tie m q (k - (n + 1))
  trimmed 20 (found.getD (exact m q))

end Decimal

end Simulcast
