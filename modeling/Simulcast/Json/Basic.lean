import Simulcast.Binary64.Basic

/-!
# JSON trees

A JSON document as a tree. A number is a whole number or a binary64 number, as it
was written; the members of an object keep their order.
-/

namespace Simulcast

/-- A number of a document. -/
inductive Number where
  /-- Written without a point and a power of ten, and within the range of 64-bit words. -/
  | whole (n : Int)
  /-- Any other number. -/
  | real (x : Binary64)
  deriving DecidableEq, Repr

/-- A JSON document. -/
inductive Json where
  /-- The absent value. -/
  | null
  /-- A truth value. -/
  | boolean (b : Bool)
  /-- A number. -/
  | number (n : Number)
  /-- A text. -/
  | text (s : String)
  /-- A list of documents. -/
  | list (items : List Json)
  /-- Named documents. -/
  | object (members : List (String × Json))
  deriving Repr, Inhabited

namespace Json

/-- A whole number as a document. -/
def whole (n : Int) : Json := .number (.whole n)

/-- A natural number as a document. -/
def natural (n : Nat) : Json := .whole n

/-- What is there, or the absent value. -/
def ofOption {α : Type} (f : α → Json) : Option α → Json
  | some a => f a
  | none => .null

/-- The member of an object with a name, the last one if it occurs more than once. -/
def get? (name : String) : Json → Option Json
  | .object members => (members.reverse.find? fun m => m.1 = name).map (·.2)
  | _ => none

end Json

end Simulcast
