import Simulcast.Proofs.Json.Record
import Simulcast.Announcement.Kind
import Simulcast.Endpoint.Id
import Simulcast.Switching.Request

/-!
# Types whose values are read back

A JSON form is lawful if what the writer writes for a value is read as a document that stands for
the value again (`Wire.Lawful`). A text that is read as such a document is parsed as the value, with
blanks around it (`parse_of_reads`), and so every value is parsed from its own text
(`parse_render`). The numbers, texts and alternatives of this library are lawful; its records follow
in other modules.
-/

namespace Simulcast

open Json Json.Reader

namespace Wire

/-- A JSON form in which every value is read back. -/
class Lawful (α : Type) [Wire α] where
  /-- The document that is read where a value is written. -/
  document : α → Json
  /-- The document stands for the value. -/
  decode?_document : ∀ a, decode? (document a) = some a
  /-- The text of the value is read as the document. -/
  reads : ∀ a, Reads (reader α) (encode a).write (document a)

section Texts

variable {α : Type} [Wire α]

/-- A text that is read as a document for a value is parsed as the value, with blanks around it. -/
theorem parse_of_reads {a : α} {j : Json} (decoded : decode? j = some a) {b t b' : List Char}
    (reads : Reads (reader α) t j) (before : Blanks b) (after : Blanks b') :
    parse (String.ofList (b ++ (t ++ b'))) = .ok a := by
  have ends : Ends b' := by simpa using ends_nil.append after
  have rest : skipBlanks b' = [] := after.skipBlanks_eq
  simp [parse, Reader.whole, reads.read b b' before ends, rest, decoded]

/-- Every value is parsed from the text that is written for it. -/
theorem parse_render [Lawful α] (a : α) : parse (render a) = .ok a := by
  have parsed := parse_of_reads (Lawful.decode?_document a) (Lawful.reads a) blanks_nil blanks_nil
  simpa [render, Json.render] using parsed

/-- Two values are written differently. -/
theorem render_injective [Lawful α] : Function.Injective (render : α → String) := by
  intro a b same
  have parsed := parse_render a
  rw [same, parse_render b] at parsed
  exact (Except.ok.inj parsed).symm

end Texts

/-! ### Numbers, truth values and texts -/

instance : Lawful UInt8 where
  document := encode
  decode?_document _ := congrArg some UInt8.ofNat_toNat
  reads n := wholeBetween_reads (by decide) (by decide) (by have := n.toNat_lt; omega)

instance : Lawful UInt32 where
  document := encode
  decode?_document _ := congrArg some UInt32.ofNat_toNat
  reads n := wholeBetween_reads (by decide) (by decide) (by have := n.toNat_lt; omega)

instance : Lawful UInt64 where
  document := encode
  decode?_document _ := congrArg some UInt64.ofNat_toNat
  reads n := wholeBetween_reads (by decide) (by decide) (by have := n.toNat_lt; omega)

instance : Lawful Int32 where
  document := encode
  decode?_document n := congrArg some (Int32.ofInt_toInt n)
  reads n := wholeBetween_reads (by decide) (by decide)
    (by have := n.le_toInt; have := n.toInt_lt; omega)

instance : Lawful Bool where
  document := encode
  decode?_document _ := rfl
  reads := boolean_reads

instance : Lawful String where
  document := encode
  decode?_document _ := rfl
  reads := text_reads

/-! ### Names and alternatives -/

instance : Lawful Endpoint.Id where
  document := encode
  decode?_document _ := rfl
  reads i := text_reads i.text

instance : Lawful Layer.Order where
  document := encode
  decode?_document o := congrArg (Option.map Layer.Order.mk) (Lawful.decode?_document o.rank)
  reads o := Lawful.reads o.rank

instance : Lawful Announcement.Kind where
  document k := .list [.text k.name, .null]
  decode?_document k := by cases k <;> rfl
  reads k := choice_bare_reads (by cases k <;> rfl)

instance : Lawful Switching.Target where
  document
    | .clear => .list [.text Switching.Target.clearName, .null]
    | .layer o => .list [.text Switching.Target.layerName, encode o]
  decode?_document
    | .clear => rfl
    | .layer o => congrArg (Option.map Switching.Target.layer) (Lawful.decode?_document o)
  reads
    | .clear => choice_bare_reads rfl
    | .layer o =>
      choice_reads rfl (Lawful.reads o) (member_writeMember (Switching.Target.layerName, encode o))
        (bracketed_object [(Switching.Target.layerName, encode o)])

end Wire

end Simulcast
