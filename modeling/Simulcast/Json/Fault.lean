import Simulcast.Json.Basic
import Simulcast.Binary64.Layout
import Simulcast.Text.Quoted

/-!
# Why a document cannot be read

A text is refused because it ends too early, because it is not JSON, or because the
document is not of the kind asked for. `Mismatch.message` has the wording of the
last.
-/

namespace Simulcast.Json

/-- What stood where something else was asked for. -/
inductive Found where
  /-- The absent value. -/
  | null
  /-- A truth value. -/
  | boolean (b : Bool)
  /-- A number. -/
  | number (n : Number)
  /-- A text. -/
  | text (s : String)
  /-- A list. -/
  | list
  /-- An object. -/
  | object
  /-- The bare name of an alternative. -/
  | bareAlternative
  deriving DecidableEq, Repr

/-- What was asked for. -/
inductive Expected where
  /-- A number of 8 bits. -/
  | byte
  /-- A number of 32 bits. -/
  | word
  /-- A signed number of 32 bits. -/
  | signedWord
  /-- A number of 64 bits. -/
  | longWord
  /-- A truth value. -/
  | boolean
  /-- A text. -/
  | text
  /-- A list. -/
  | list
  /-- Nothing. -/
  | nothing
  /-- A record of the given name. -/
  | record (name : String)
  /-- An alternative together with its value. -/
  | alternativeWithValue
  deriving DecidableEq, Repr

/-- Why a well-formed document is not of the kind asked for. -/
inductive Mismatch where
  /-- Something of another kind was found. -/
  | wrongKind (found : Found) (expected : Expected)
  /-- A whole number lies outside the range. -/
  | outOfRange (n : Int) (expected : Expected)
  /-- A field without a default is absent. -/
  | missingField (name : String)
  /-- A field occurs twice. -/
  | repeatedField (name : String)
  /-- A record written as a list has too few items. -/
  | tooShort (length : Nat) (record : String) (fields : Nat)
  /-- No alternative has the name. -/
  | unknownAlternative (name : String) (known : List String)
  deriving DecidableEq, Repr

/-- Why a text cannot be read. -/
inductive Fault where
  /-- The text ends too early. -/
  | endOfText
  /-- The text is not JSON. -/
  | malformed
  /-- The document is not of the kind asked for. -/
  | mismatch (cause : Mismatch)
  deriving DecidableEq, Repr

/-- A number as a message names it. -/
def describeNumber : Number → String
  | .whole n => "integer `" ++ Text.Numeral.text n ++ "`"
  | .real x => "floating point `" ++ Layout.compact.write x ++ "`"

/-- What was found, in words. -/
def Found.phrase : Found → String
  | .null => "null"
  | .boolean b => "boolean `" ++ (if b then "true" else "false") ++ "`"
  | .number n => describeNumber n
  | .text s => "string " ++ Text.Quoted.text s
  | .list => "sequence"
  | .object => "map"
  | .bareAlternative => "unit variant"

/-- What was asked for, in words. -/
def Expected.phrase : Expected → String
  | .byte => "u8"
  | .word => "u32"
  | .signedWord => "i32"
  | .longWord => "u64"
  | .boolean => "a boolean"
  | .text => "a string"
  | .list => "a sequence"
  | .nothing => "unit"
  | .record name => "struct " ++ name
  | .alternativeWithValue => "newtype variant"

/-- A name between backticks. -/
def ticked (name : String) : String := "`" ++ name ++ "`"

/-- The names that an alternative could have had: two are joined by a word, more are listed. -/
def listAlternatives : List String → String
  | [a] => ticked a
  | [a, b] => ticked a ++ " or " ++ ticked b
  | names => "one of " ++ ", ".intercalate (names.map ticked)

/-- The wording of a mismatch. -/
def Mismatch.message : Mismatch → String
  | .wrongKind found expected =>
    "invalid type: " ++ found.phrase ++ ", expected " ++ expected.phrase
  | .outOfRange n expected =>
    "invalid value: " ++ describeNumber (.whole n) ++ ", expected " ++ expected.phrase
  | .missingField name => "missing field " ++ ticked name
  | .repeatedField name => "duplicate field " ++ ticked name
  | .tooShort length record fields =>
    "invalid length " ++ Text.Numeral.text length ++ ", expected struct " ++ record ++ " with " ++
      Text.Numeral.text fields ++ (if fields = 1 then " element" else " elements")
  | .unknownAlternative name known =>
    "unknown variant " ++ ticked name ++ ", expected " ++ listAlternatives known

end Simulcast.Json
