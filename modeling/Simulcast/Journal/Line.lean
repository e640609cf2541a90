import Simulcast.Journal.Event
import Simulcast.Json.Writer

/-!
# Entries as they are written

An entry is written as a line of text or as a JSON object.
-/

namespace Simulcast.Journal

namespace Value

/-- A value in a line of text. -/
def text : Value → String
  | .bare s => s
  | .quoted s => Text.Quoted.text s
  | .number n => Text.Numeral.text n
  | .boolean b => if b then "true" else "false"

/-- A value in a JSON object. -/
def document : Value → Json
  | .bare s => .text s
  | .quoted s => .text s
  | .number n => .whole n
  | .boolean b => .boolean b

end Value

namespace Entry

/-- The names of the values of the entry, of which the message is one. -/
def names (e : Entry) : List String := "message" :: e.fields.map (·.1)

/-- The entry as a line: level, target and message, then the values. -/
def line (e : Entry) : String :=
  e.level.label ++ " " ++ e.topic.path ++ ": " ++ e.message
    ++ String.join (e.fields.map fun f => ", " ++ f.1 ++ ": " ++ f.2.text)

/-- The entry as an object, the message being one of its values. -/
def document (e : Entry) : Json :=
  .object
    [("level", .text e.level.label), ("target", .text e.topic.path),
      ("fields", .object
        (("message", .text e.message) :: e.fields.map fun f => (f.1, f.2.document)))]

end Entry

end Simulcast.Journal
