import Simulcast.Text.Numeral
import Simulcast.Text.Hidden

/-!
# Quoted texts in messages

How a message quotes a text that it found: between double quotes, with a
backslash before a quote and a backslash, letters for the common controls, and
the code point in braces for what would not be seen.
-/

namespace Simulcast.Text.Quoted

/-- One character inside a quotation. -/
def character (c : Char) : List Char :=
  match c with
  | '"' => ['\\', '"']
  | '\\' => ['\\', '\\']
  | '\n' => ['\\', 'n']
  | '\r' => ['\\', 'r']
  | '\t' => ['\\', 't']
  | c =>
    if c.toNat = 0 then ['\\', '0']
    else if Hidden.hidden c then
      ['\\', 'u', '{'] ++ Numeral.hexadecimal c.toNat ++ ['}']
    else [c]

/-- A text between double quotes. -/
def text (s : String) : String :=
  String.ofList ('"' :: s.toList.flatMap character ++ ['"'])

end Simulcast.Text.Quoted
