import Simulcast.Json.Basic
import Simulcast.Binary64.Layout
import Simulcast.Text.Numeral

/-!
# Writing JSON

Documents are written without blanks, members in their order. In a text a quote, a
backslash and the controls below U+0020 are escaped, by a letter where there is one
and by four small hexadecimal digits elsewhere; everything else stands for itself.
-/

namespace Simulcast.Json

/-- The letter that stands for a character behind a backslash. -/
def escapeLetter? (c : Char) : Option Char :=
  if c = '"' then some '"'
  else if c = '\\' then some '\\'
  else if c = '\n' then some 'n'
  else if c = '\r' then some 'r'
  else if c = '\t' then some 't'
  else if c.toNat = 0x08 then some 'b'
  else if c.toNat = 0x0C then some 'f'
  else none

/-- The hexadecimal digit of a number below sixteen. -/
def hexDigit (n : Nat) : Char := Nat.digitChar n

/-- One character inside a text. -/
def escape (c : Char) : List Char :=
  match escapeLetter? c with
  | some l => ['\\', l]
  | none =>
    if c.toNat < 0x20 then
      ['\\', 'u', '0', '0', hexDigit (c.toNat / 16), hexDigit (c.toNat % 16)]
    else [c]

/-- A text between quotes. -/
def writeText (s : List Char) : List Char := '"' :: (s.flatMap escape ++ ['"'])

/-- A number. What is infinite or no number has no JSON form and is written as absent. -/
def writeNumber : Number → List Char
  | .whole n => Text.Numeral.signed n
  | .real (.finite s m e) => (Layout.compact.write (.finite s m e)).toList
  | .real _ => ['n', 'u', 'l', 'l']

mutual

/-- The characters of a document. -/
def write : Json → List Char
  | .null => ['n', 'u', 'l', 'l']
  | .boolean true => ['t', 'r', 'u', 'e']
  | .boolean false => ['f', 'a', 'l', 's', 'e']
  | .number n => writeNumber n
  | .text s => writeText s.toList
  | .list [] => ['[', ']']
  | .list (j :: js) => '[' :: (write j ++ writeItems js)
  | .object [] => ['{', '}']
  | .object ((k, j) :: ms) => '{' :: (writeText k.toList ++ ':' :: (write j ++ writeMembers ms))

/-- The items of a list after the first, and its end. -/
def writeItems : List Json → List Char
  | [] => [']']
  | j :: js => ',' :: (write j ++ writeItems js)

/-- The members of an object after the first, and its end. -/
def writeMembers : List (String × Json) → List Char
  | [] => ['}']
  | (k, j) :: ms => ',' :: (writeText k.toList ++ ':' :: (write j ++ writeMembers ms))

end

/-- A document as text. -/
def render (j : Json) : String := String.ofList j.write

end Simulcast.Json
