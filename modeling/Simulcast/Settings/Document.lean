import Simulcast.Json.Reader
import Simulcast.Settings.Fault
import Simulcast.Text.Mark
import Simulcast.Toml.Document

/-!
# Settings from a file

The ending of its name says which format a file is of. The entries of its root are what
it says; every part of them comes from the file.
-/

namespace Simulcast.Settings

/-- A format of files. -/
inductive Format where
  /-- TOML. -/
  | toml
  /-- JSON. -/
  | json
  deriving DecidableEq, Repr

/-- The last part of a path. -/
def lastPart (path : List Char) : List Char := (path.splitOn '/').getLastD []

/-- The ending of a name: what stands behind its last point, unless that is its first character. -/
def ending? (name : List Char) : Option String :=
  match name.reverse.span (· ≠ '.') with
  | (_, []) => none
  | (_, [_]) => none
  | (reversed, _ :: _ :: _) => some (String.ofList reversed.reverse)

/-- The formats by the endings of names. -/
def formats : List (String × Format) := [("toml", .toml), ("json", .json)]

/-- The format of the file with a name. -/
def formatOf? (name : String) : Option Format :=
  (ending? (lastPart name.toList)).bind fun e => formats.lookup e

/-! ### Documents as trees -/

/-- A scalar of a TOML document; a date or a time is a text. -/
def Scalar.ofToml : Toml.Scalar → Scalar
  | .boolean b => .boolean b
  | .whole n => .whole n
  | .real x => .real x
  | .text s => .text s
  | .moment s => .text s

namespace Tree

mutual

/-- A part of a TOML document as a tree. -/
def ofToml (origin : Origin) : Toml.Node → Tree
  | .scalar s => .scalar (some origin) (.ofToml s)
  | .list items => .list (some origin) (listOfToml origin items)
  | .table _ entries => .table (some origin) (entriesOfToml origin entries)
  | .tables elements => .list (some origin) (tablesOfToml origin elements)

/-- The parts of a list. -/
def listOfToml (origin : Origin) : List Toml.Node → List Tree
  | [] => []
  | n :: ns => ofToml origin n :: listOfToml origin ns

/-- The entries of a table. -/
def entriesOfToml (origin : Origin) : List (String × Toml.Node) → List (String × Tree)
  | [] => []
  | (k, n) :: es => (k, ofToml origin n) :: entriesOfToml origin es

/-- Several tables. -/
def tablesOfToml (origin : Origin) : List (List (String × Toml.Node)) → List Tree
  | [] => []
  | es :: rest => .table (some origin) (entriesOfToml origin es) :: tablesOfToml origin rest

end

/-- A number of a JSON document. -/
def ofNumber : Number → Scalar
  | .whole n => .whole n
  | .real x => .real x

mutual

/-- A JSON document as a tree. -/
def ofJson (origin : Origin) : Json → Tree
  | .null => .scalar (some origin) .nothing
  | .boolean b => .scalar (some origin) (.boolean b)
  | .number n => .scalar (some origin) (ofNumber n)
  | .text s => .scalar (some origin) (.text s)
  | .list js => .list (some origin) (listOfJson origin js)
  | .object ms => .table (some origin) (entriesOfJson origin ms [])

/-- The parts of a list. -/
def listOfJson (origin : Origin) : List Json → List Tree
  | [] => []
  | j :: js => ofJson origin j :: listOfJson origin js

/-- The entries of an object; the last one with a name counts. -/
def entriesOfJson (origin : Origin) :
    List (String × Json) → List (String × Tree) → List (String × Tree)
  | [], entries => entries
  | (k, j) :: ms, entries =>
    let t := ofJson origin j
    entriesOfJson origin ms (alterEntry k (fun _ => t) entries)

end

end Tree

/-! ### Files -/

/-- A file. -/
structure File where
  /-- Its name. -/
  name : String
  /-- Its text. -/
  text : String
  deriving DecidableEq, Repr

/-- What a text of a format says, coming from an origin. -/
def Format.read? (origin : Origin) (s : String) : Format → Option (List (String × Tree))
  | .toml => (Toml.parse s).map (Tree.entriesOfToml origin)
  | .json =>
    match Json.parse s with
    | .ok (.object ms) => some (Tree.entriesOfJson origin ms [])
    | _ => none

/-- A relative path without the parts that lead nowhere. -/
def direct (path : String) : String :=
  String.ofList (['/'].intercalate ((path.toList.splitOn '/').filter fun p => p ≠ [] && p ≠ ['.']))

/-- What a file says. -/
def File.entries (f : File) : Except Fault (List (String × Tree)) :=
  match formatOf? f.name with
  | none => .error .unknownFormat
  | some format =>
    match format.read? (.file (direct f.name)) (String.ofList (Text.Mark.strip f.text.toList)) with
    | some es => .ok es
    | none => .error .malformedFile

end Simulcast.Settings
