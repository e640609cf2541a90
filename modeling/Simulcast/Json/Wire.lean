import Simulcast.Json.Reader
import Simulcast.Json.Writer

/-!
# Types with a JSON form

A type with a JSON form says how its values are written, how a text is read, and which
value a document that was read stands for. Reading is by `Wire.parse`, writing by
`Wire.render`.
-/

namespace Simulcast

/-- A type with a JSON form. -/
class Wire (α : Type) where
  /-- The document of a value. -/
  encode : α → Json
  /-- Reads a document of the kind that the type asks for. -/
  reader : Json.Reader Json
  /-- The value of a document that the reader gave. -/
  decode? : Json → Option α

namespace Wire

/-- The JSON text of a value. -/
def render {α : Type} [Wire α] (a : α) : String := (encode a).render

/-- The value that a text writes. -/
def parse {α : Type} [Wire α] (s : String) : Except Json.Fault α := do
  let j ← Json.Reader.whole (reader α) s
  match decode? j with
  | some a => pure a
  | none => throw .malformed

/-- The values of a list of documents, if each has one. -/
def decodeList? {α : Type} [Wire α] : Json → Option (List α)
  | .list js => js.mapM decode?
  | _ => none

/-- The value of a document that may be absent. -/
def decodeOption? {α : Type} [Wire α] : Json → Option (Option α)
  | .null => some none
  | j => (decode? j).map some

/-- A field that must be there. -/
def required (α : Type) [Wire α] (name : String) : Json.Field := ⟨name, reader α, none, none⟩

/-- A field that may be absent from an object. -/
def optional (α : Type) [Wire α] (name : String) : Json.Field :=
  ⟨name, .optional (reader α), some .null, none⟩

/-- A field with a default. -/
def defaulted (name : String) (read : Json.Reader Json) (default : Json) : Json.Field :=
  ⟨name, read, some default, some default⟩

end Wire

/-! ### Numbers, truth values and texts -/

instance : Wire UInt8 where
  encode n := .natural n.toNat
  reader := .byte
  decode?
    | .number (.whole n) => some (.ofNat n.toNat)
    | _ => none

instance : Wire UInt32 where
  encode n := .natural n.toNat
  reader := .word32
  decode?
    | .number (.whole n) => some (.ofNat n.toNat)
    | _ => none

instance : Wire UInt64 where
  encode n := .natural n.toNat
  reader := .longWord
  decode?
    | .number (.whole n) => some (.ofNat n.toNat)
    | _ => none

instance : Wire Int32 where
  encode n := .whole n.toInt
  reader := .signedWord
  decode?
    | .number (.whole n) => some (.ofInt n)
    | _ => none

instance : Wire Bool where
  encode b := .boolean b
  reader := .boolean
  decode?
    | .boolean b => some b
    | _ => none

instance : Wire String where
  encode s := .text s
  reader := .text
  decode?
    | .text s => some s
    | _ => none

end Simulcast
