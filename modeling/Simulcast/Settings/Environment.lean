import Simulcast.Binary64.Reading
import Simulcast.Settings.Tree
import Simulcast.Text.LowerCase
import Simulcast.Text.Numeral

/-!
# Settings from variables of the environment

A variable whose name begins with the mark of this library sets a value: the rest of
its name, in small letters and with `__` for the points, is the key. Its text is taken
as a truth value or a number where it writes one.
-/

namespace Simulcast.Settings.Environment

/-- What the names of the variables begin with, in letters of either case. -/
def mark : String := "synctv__"

/-- Points in place of double underscores. -/
def points : List Char → List Char
  | '_' :: '_' :: cs => '.' :: points cs
  | c :: cs => c :: points cs
  | [] => []

/-- The key that a variable sets, if it is one of this library. -/
def key? (name : String) : Option String :=
  let cs := (Text.LowerCase.text name).toList
  if mark.toList.isPrefixOf cs then some (String.ofList (points (cs.drop mark.length))) else none

/-- The value that a text writes. -/
def value (s : String) : Scalar :=
  let lower := Text.LowerCase.text s
  if lower = "true" then .boolean true
  else if lower = "false" then .boolean false
  else
    match (Text.Numeral.integer? s.toList).filter fun n =>
        Binary64.leastWord ≤ n && n ≤ Binary64.greatestWord with
    | some n => .whole n
    | none =>
      match Binary64.read? s.toList with
      | some x => .real x
      | none => .text s

/-- The entries with what a variable says, in place of what was said of its key before. -/
def enter (entries : List (String × Tree)) (v : String × String) : List (String × Tree) :=
  match key? v.1 with
  | some k => Tree.alterEntry k (fun _ => .scalar (some .environment) (value v.2)) entries
  | none => entries

/-- What the variables say. -/
def entries (vars : List (String × String)) : List (String × Tree) := vars.foldl enter []

end Simulcast.Settings.Environment
