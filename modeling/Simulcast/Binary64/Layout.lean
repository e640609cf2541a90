import Simulcast.Binary64.Shortest
import Simulcast.Text.Numeral

/-!
# How numbers are laid out

The digits of a number say nothing about where the point stands or when a power of
ten is written. These decisions are a `Layout`, one for each place that writes
numbers.
-/

namespace Simulcast

/-- The decisions of a format for numbers. -/
structure Layout where
  /-- The least and the greatest exponent of the leading digit for which all places are
  written out; without bounds they always are. -/
  positional : Option (Int × Int)
  /-- Whether a whole number ends in `.0`. -/
  pointZero : Bool
  /-- Which of two equally near decimals of the fewest digits is written. -/
  tie : Tie

namespace Layout

/-- Every place written out, a whole number without a point. -/
def plain : Layout := ⟨none, false, .up⟩

/-- Every place written out, a whole number with `.0`. -/
def pointed : Layout := ⟨none, true, .up⟩

/-- Places written out from a leading exponent of −5 up to 15, and a power of ten with its sign
outside of that. -/
def compact : Layout := ⟨some (-5, 15), true, .even⟩

/-- All places of `ds · 10 ^ exponent`. -/
def places (l : Layout) (ds : List Char) (exponent : Int) : List Char :=
  if 0 ≤ exponent then
    ds ++ List.replicate exponent.toNat '0' ++ (if l.pointZero then ['.', '0'] else [])
  else
    let after := (-exponent).toNat
    if after < ds.length then
      ds.take (ds.length - after) ++ '.' :: ds.drop (ds.length - after)
    else
      '0' :: '.' :: (List.replicate (after - ds.length) '0' ++ ds)

/-- One digit before the point, and a power of ten. -/
def scientific (ds : List Char) (leading : Int) : List Char :=
  let mantissa := if ds.length ≤ 1 then ds else ds.take 1 ++ '.' :: ds.drop 1
  mantissa ++ 'e' :: (if leading < 0 then '-' else '+') :: Text.Numeral.digits leading.natAbs

/-- The magnitude of a decimal. -/
def magnitude (l : Layout) (d : Decimal) : List Char :=
  let ds := Text.Numeral.digits d.digits
  let leading : Int := d.exponent + ds.length - 1
  match l.positional with
  | some (low, high) =>
    if low ≤ leading ∧ leading ≤ high then l.places ds d.exponent else scientific ds leading
  | none => l.places ds d.exponent

/-- A number as text. -/
def write (l : Layout) : Binary64 → String
  | .nan => "NaN"
  | .infinite negative => if negative then "-inf" else "inf"
  | .finite negative m q =>
    let body := if m = 0 then l.places ['0'] 0 else l.magnitude (Decimal.ofFinite l.tie m q)
    String.ofList (if negative then '-' :: body else body)

end Layout

end Simulcast
