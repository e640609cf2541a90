import Simulcast.Settings.Tree
import Simulcast.Text.Numeral

/-!
# Paths as text

A path is written as a name, followed by further names after points and by indices in
brackets. Names are made of ASCII letters, digits, `_` and `-`; blanks may stand beside
an index.
-/

namespace Simulcast.Settings.Path

/-- Whether a character may stand in a name. -/
def isNameCharacter (c : Char) : Bool := c.isAlphanum || c == '_' || c == '-'

/-- Whether a character may stand beside an index. -/
def isBlank (c : Char) : Bool := c == ' ' || c == '\t'

/-- The leading name of a text, and what follows it; a name is not empty. -/
def name? (cs : List Char) : Option (String × List Char) :=
  let ds := cs.takeWhile isNameCharacter
  if ds = [] then none else some (String.ofList ds, cs.dropWhile isNameCharacter)

/-- The leading index of a text, within the range of 64-bit integers, and what follows it. -/
def index? (cs : List Char) : Option (Int × List Char) :=
  let (negative, cs) :=
    match cs with
    | '-' :: cs => (true, cs)
    | cs => (false, cs)
  let (ds, rest) := Text.Numeral.span cs
  if ds = [] then none
  else
    let n : Int := if negative then -Text.Numeral.value ds else Text.Numeral.value ds
    if Binary64.leastWord ≤ n ∧ n ≤ Binary64.greatestWord then some (n, rest) else none

/-- An index and the bracket that closes it. -/
def bracketed? (cs : List Char) : Option (Int × List Char) := do
  let (i, cs) ← index? (cs.dropWhile isBlank)
  match cs.dropWhile isBlank with
  | ']' :: cs => some (i, cs)
  | _ => none

/-- The steps after the first name, with at most as many steps as `fuel`. -/
def steps? : Nat → List Char → Option Path
  | _, [] => some []
  | 0, _ :: _ => none
  | fuel + 1, c :: cs =>
    if c = '.' then do
      let (k, cs) ← name? cs
      let path ← steps? fuel cs
      pure (.key k :: path)
    else if c = '[' then do
      let (i, cs) ← bracketed? cs
      let path ← steps? fuel cs
      pure (.index i :: path)
    else none

/-- The path that a text writes. -/
def read? (s : String) : Option Path := do
  let (k, cs) ← name? s.toList
  let path ← steps? cs.length cs
  pure (.key k :: path)

/-- The path that a text writes, or else the step to the entry of that very name. -/
def ofKey (s : String) : Path := (read? s).getD [.key s]

end Simulcast.Settings.Path
