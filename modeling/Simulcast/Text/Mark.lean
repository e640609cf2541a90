/-!
# The mark of a text

A text may begin with a byte order mark, which is no part of what it says.
-/

namespace Simulcast.Text.Mark

/-- The character that may mark the beginning of a text. -/
def byteOrder : Char := Char.ofNat 0xFEFF

/-- A text without its mark. -/
def strip : List Char → List Char
  | [] => []
  | c :: cs => if c = byteOrder then cs else c :: cs

end Simulcast.Text.Mark
