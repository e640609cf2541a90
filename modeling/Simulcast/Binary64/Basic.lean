/-!
# Binary64 numbers

The numbers of the IEEE format with 53 significant bits, kept as what they are: a
sign, a significand and a power of two. Every operation computes the exact result
in natural numbers and rounds once, to nearest, a tie to the even significand
(`ofRatio`).
-/

namespace Simulcast

/-- A binary64 number. The finite ones are `± significand · 2 ^ exponent` with
`significand < 2 ^ 53` and `-1074 ≤ exponent ≤ 971`, the significand being at least
`2 ^ 52` unless the exponent is the least one. -/
inductive Binary64 where
  /-- No number. -/
  | nan
  /-- Infinity, above or below. -/
  | infinite (negative : Bool)
  /-- A finite number. -/
  | finite (negative : Bool) (significand : Nat) (exponent : Int)
  deriving DecidableEq, Repr, Inhabited

namespace Binary64

/-- The least exponent of a finite number. -/
def leastExponent : Int := -1074

/-- The greatest exponent of a finite number. -/
def greatestExponent : Int := 971

/-- The bound below which significands lie, two to the power of 53. -/
def significandBound : Nat := 0x20000000000000

/-- A base raised to an exponent; an exponent below zero counts as zero. -/
def raise (base : Nat) (exponent : Int) : Nat := Nat.pow base exponent.toNat

/-- Zero. -/
def zero (negative : Bool) : Binary64 := .finite negative 0 leastExponent

/-- A significand and exponent as a number, infinite if the exponent is too great. -/
def pack (negative : Bool) (significand : Nat) (exponent : Int) : Binary64 :=
  if greatestExponent < exponent then .infinite negative else .finite negative significand exponent

/-- The natural number nearest to a quotient, a tie going to the even one. -/
def nearest (num den : Nat) : Nat :=
  let q := num / den
  let r := num % den
  if 2 * r < den then q
  else if den < 2 * r then q + 1
  else if q % 2 = 0 then q else q + 1

/-- Whether `num / den` lies below `2 ^ (exponent + 52)`, so that a significand for this
exponent would have fewer than 53 bits. -/
def tooSmallFor (num den : Nat) (exponent : Int) : Bool :=
  let e := exponent + 52
  num * raise 2 (-e) < den * raise 2 e

/-- The number nearest to `± num / den`. -/
def ofRatio (negative : Bool) (num den : Nat) : Binary64 :=
  if num = 0 then zero negative
  else
    let guess : Int := (num.log2 : Int) - (den.log2 : Int) - 52
    let exponent := max leastExponent (if tooSmallFor num den guess then guess - 1 else guess)
    let significand := nearest (num * raise 2 (-exponent)) (den * raise 2 exponent)
    if significand = significandBound then pack negative (significandBound / 2) (exponent + 1)
    else pack negative significand exponent

/-- The number nearest to a natural number. -/
def ofNat (n : Nat) : Binary64 := ofRatio false n 1

/-- The number nearest to a power of ten. -/
def powerOfTen (k : Nat) : Binary64 := ofNat (raise 10 k)

/-- The number with the other sign. -/
def neg : Binary64 → Binary64
  | .nan => .nan
  | .infinite s => .infinite !s
  | .finite s m e => .finite (!s) m e

/-- The product, rounded once. -/
def mul : Binary64 → Binary64 → Binary64
  | .finite s m e, .finite t n f =>
    let g := e + f
    ofRatio (s != t) (m * n * raise 2 g) (raise 2 (-g))
  | .infinite s, .infinite t => .infinite (s != t)
  | .infinite s, .finite t n _ => if n = 0 then .nan else .infinite (s != t)
  | .finite s m _, .infinite t => if m = 0 then .nan else .infinite (s != t)
  | .nan, _ => .nan
  | _, .nan => .nan

/-- The quotient, rounded once. -/
def div : Binary64 → Binary64 → Binary64
  | .finite s m e, .finite t n f =>
    if n = 0 then
      if m = 0 then .nan else .infinite (s != t)
    else
      let g := e - f
      ofRatio (s != t) (m * raise 2 g) (n * raise 2 (-g))
  | .infinite _, .infinite _ => .nan
  | .infinite s, .finite t _ _ => .infinite (s != t)
  | .finite s _ _, .infinite t => zero (s != t)
  | .nan, _ => .nan
  | _, .nan => .nan

/-- Whether the number is zero, of either sign. -/
def isZero : Binary64 → Bool
  | .finite _ m _ => m == 0
  | _ => false

/-- Whether the number is an infinity. -/
def isInfinite : Binary64 → Bool
  | .infinite _ => true
  | _ => false

/-- The nearest whole number to a magnitude `m · 2 ^ e`, halves going up. -/
def wholeMagnitude (m : Nat) (e : Int) : Nat :=
  if 0 ≤ e then m * raise 2 e
  else (2 * m + raise 2 (-e)) / (2 * raise 2 (-e))

/-- The greatest 64-bit integer. -/
def greatestWord : Int := 0x7FFFFFFFFFFFFFFF

/-- The least 64-bit integer. -/
def leastWord : Int := -0x8000000000000000

/-- The nearest whole number, halves going away from zero, brought into the range of
64-bit integers. What is no number counts as zero. -/
def toWhole : Binary64 → Int
  | .nan => 0
  | .infinite s => if s then leastWord else greatestWord
  | .finite s m e =>
    let n : Int := wholeMagnitude m e
    max leastWord (min greatestWord (if s then -n else n))

end Binary64

end Simulcast
