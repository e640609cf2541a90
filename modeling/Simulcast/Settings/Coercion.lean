import Simulcast.Settings.Fault
import Simulcast.Text.LowerCase

/-!
# Values taken as what a setting asks for

A setting takes a value of another kind as long as there is a natural reading of it:
a truth value as a number and a number as a truth value, a text that writes either,
and any scalar as a text.
-/

namespace Simulcast.Settings

/-- The words for yes. -/
def affirmations : List String := ["true", "on", "yes"]

/-- The words for no. -/
def negations : List String := ["false", "off", "no"]

/-- The word by which texts write a truth value as a number. -/
def numeralOf (b : Bool) : String := if b then "1" else "0"

/-- The truth value that a word names, in letters of either case. -/
def wordTruth? (s : String) : Option Bool :=
  if affirmations.contains (Text.LowerCase.text s) then some true
  else if negations.contains (Text.LowerCase.text s) then some false
  else none

/-- Whether a number fits into 64 bits with its sign. -/
def fitsLong (n : Int) : Bool := Binary64.leastWord ≤ n && n ≤ Binary64.greatestWord

/-- Whether a number fits into 32 bits with its sign. -/
def fitsShort (n : Int) : Bool := -0x80000000 ≤ n && n ≤ 0x7FFFFFFF

namespace Scalar

/-- The whole number that a scalar can be read as, if any. It may be too great for 64 bits only if
the scalar is a whole number. -/
def whole? : Scalar → Option Int
  | .nothing => none
  | .boolean b => some (if b then 1 else 0)
  | .whole n => some n
  | .real x => some x.toWhole
  | .text s =>
    match wordTruth? s with
    | some b => some (if b then 1 else 0)
    | none => (Text.Numeral.integer? s.toList).filter fitsLong

/-- The truth value that a scalar can be read as, if any. -/
def boolean? : Scalar → Option Bool
  | .nothing => none
  | .boolean b => some b
  | .whole n => some (n != 0)
  | .real x => some !x.isZero
  | .text s =>
    if s = numeralOf true then some true
    else if s = numeralOf false then some false
    else wordTruth? s

/-- The text that a scalar can be read as, if any. -/
def text? : Scalar → Option String
  | .nothing => none
  | .boolean b => some (if b then "true" else "false")
  | .whole n => some (Text.Numeral.text n)
  | .real x => some (Layout.plain.write x)
  | .text s => some s

/-- The scalar as a complaint about a truth value shows it: a text in small letters. -/
def lowered : Scalar → Scalar
  | .text s => .text (Text.LowerCase.text s)
  | s => s

end Scalar

namespace Tree

/-- Where the topmost part of a tree comes from. -/
def origin : Tree → Option Origin
  | .scalar origin _ => origin
  | .list origin _ => origin
  | .table origin _ => origin

/-- What a complaint says of the topmost part of a tree. -/
def found : Tree → Found
  | .scalar _ value => .scalar value
  | .list _ _ => .list
  | .table _ _ => .table

/-- The complaint that a tree is of another kind. -/
def mismatch {α : Type} (expected : Expected) (t : Tree) : Except Mismatch α :=
  .error { found := t.found, expected := expected, origin := t.origin }

/-- A tree taken as a whole number of 64 bits. -/
def toWhole (t : Tree) : Except Mismatch Int :=
  match t with
  | .scalar _ value =>
    match value.whole? with
    | some n => if fitsLong n then .ok n else t.mismatch .longWhole
    | none => t.mismatch .whole
  | _ => t.mismatch .whole

/-- A tree taken as a whole number of 32 bits. -/
def toShort (t : Tree) : Except Mismatch Int32 := do
  let n ← t.toWhole
  if fitsShort n then pure (.ofInt n)
  else throw { found := .scalar (.whole n), expected := .shortWhole }

/-- A tree taken as a truth value. -/
def toBoolean (t : Tree) : Except Mismatch Bool :=
  match t with
  | .scalar origin value =>
    match value.boolean? with
    | some b => .ok b
    | none => (Tree.scalar origin value.lowered).mismatch .boolean
  | _ => t.mismatch .boolean

/-- A tree taken as a text. -/
def toText (t : Tree) : Except Mismatch String :=
  match t with
  | .scalar _ value =>
    match value.text? with
    | some s => .ok s
    | none => t.mismatch .text
  | _ => t.mismatch .text

/-- A tree taken as what `take` takes, or as nothing. -/
def toOption {α : Type} (take : Tree → Except Mismatch α) : Tree → Except Mismatch (Option α)
  | .scalar _ .nothing => .ok none
  | t => (take t).map some

end Tree

end Simulcast.Settings
