import Simulcast.Settings.Tree
import Simulcast.Text.Quoted
import Simulcast.Binary64.Layout

/-!
# Why settings cannot be taken

A file may be of no known format or not follow it, and a value may not be of the kind
that a setting asks for. `Fault.message` has the wording of the latter.
-/

namespace Simulcast.Settings

/-- What a setting asks for. -/
inductive Expected where
  /-- A whole number. -/
  | whole
  /-- A whole number of at most 64 bits with its sign. -/
  | longWhole
  /-- A whole number of 32 bits with its sign. -/
  | shortWhole
  /-- A truth value. -/
  | boolean
  /-- A text. -/
  | text
  /-- A table of the given kind. -/
  | record (name : String)
  deriving DecidableEq, Repr

/-- What stands in place of it. -/
inductive Found where
  /-- A scalar. -/
  | scalar (value : Scalar)
  /-- A list. -/
  | list
  /-- A table. -/
  | table
  deriving DecidableEq, Repr

/-- A value of another kind than a setting asks for. -/
structure Mismatch where
  /-- What stands there. -/
  found : Found
  /-- What is asked for. -/
  expected : Expected
  /-- The path of the setting as text, as far as it is known. -/
  key : String := ""
  /-- Where the value comes from, as far as it is told. -/
  origin : Option Origin := none
  deriving DecidableEq, Repr

/-- Why settings cannot be taken. -/
inductive Fault where
  /-- The file is of no known format. -/
  | unknownFormat
  /-- The file does not follow its format. -/
  | malformedFile
  /-- The text that names a setting is no path. -/
  | malformedKey (key : String)
  /-- A value is of another kind. -/
  | mismatch (cause : Mismatch)
  deriving DecidableEq, Repr

/-! ### Wording -/

/-- What is asked for, in words. -/
def Expected.phrase : Expected → String
  | .whole => "an integer"
  | .longWhole => "an signed 64 bit or less integer"
  | .shortWhole => "an signed 32 bit integer"
  | .boolean => "a boolean"
  | .text => "a string"
  | .record name => "struct " ++ name

/-- A truth value in words. -/
def booleanPhrase (b : Bool) : String := "boolean `" ++ (if b then "true" else "false") ++ "`"

/-- A scalar in place of a scalar, in words; a whole number is named by the bits that it needs. -/
def Scalar.phrase : Scalar → String
  | .nothing => "unit value"
  | .boolean b => booleanPhrase b
  | .whole n =>
    (if n ≤ Binary64.greatestWord then "64-bit integer `" else "64-bit unsigned integer `")
      ++ Text.Numeral.text n ++ "`"
  | .real x => "floating point `" ++ Layout.plain.write x ++ "`"
  | .text s => "string " ++ Text.Quoted.text s

/-- A scalar in place of a table, in words. -/
def Scalar.phraseForTable : Scalar → String
  | .whole n => "integer `" ++ Text.Numeral.text n ++ "`"
  | .real x => "floating point `" ++ Layout.pointed.write x ++ "`"
  | s => s.phrase

/-- What stands in place of what is asked for, in words. -/
def Found.phrase (expected : Expected) : Found → String
  | .scalar value =>
    match expected with
    | .record _ => value.phraseForTable
    | _ => value.phrase
  | .list => "sequence"
  | .table => "map"

/-- The source of a value, in words. -/
def Origin.phrase : Origin → String
  | .file name => name
  | .environment => "the environment"

namespace Mismatch

/-- The wording of a mismatch. -/
def message (m : Mismatch) : String :=
  "invalid type: " ++ m.found.phrase m.expected ++ ", expected " ++ m.expected.phrase
    ++ (if m.key = "" then "" else " for key `" ++ m.key ++ "`")
    ++ (match m.origin with
      | some o => " in " ++ o.phrase
      | none => "")

/-- The mismatch of a value that lies behind one more step: its key begins with a name. -/
def under (name : String) (m : Mismatch) : Mismatch :=
  { m with key :=
      if m.key = "" then name
      else if m.key.startsWith "[" then name ++ m.key
      else name ++ "." ++ m.key }

end Mismatch

/-- The wording of a fault. -/
def Fault.message : Fault → String
  | .unknownFormat => "the file is of no known format"
  | .malformedFile => "the file does not follow its format"
  | .malformedKey key => "no path: " ++ Text.Quoted.text key
  | .mismatch cause => cause.message

end Simulcast.Settings
