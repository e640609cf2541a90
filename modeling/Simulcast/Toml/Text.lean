import Simulcast.Text.Numeral

/-!
# Texts in TOML

A text stands between quotes, with escapes, or between apostrophes, as it is; three of
either allow it to run over several lines, whose breaks stay as they are written.
-/

namespace Simulcast.Toml

/-- A reader: what it read and the characters after it, unless they do not follow the format. -/
abbrev Reader (α : Type) := List Char → Option (α × List Char)

/-- Whether a character is a blank within a line. -/
def isBlank (c : Char) : Bool := c == ' ' || c == '\t'

/-- Whether a character may stand in a comment or a text. -/
def isPlain (c : Char) : Bool := c == '\t' || (0x20 ≤ c.toNat && c.toNat ≠ 0x7F)

/-- The characters after a line break, if one stands here. -/
def lineBreak? : List Char → Option (List Char)
  | '\n' :: cs => some cs
  | '\r' :: '\n' :: cs => some cs
  | _ => none

/-- Passes over blanks and line breaks, at most as many as `fuel`. -/
def skipLines : Nat → List Char → List Char
  | 0, cs => cs
  | fuel + 1, cs =>
    match lineBreak? cs with
    | some cs => skipLines fuel cs
    | none =>
      match cs with
      | c :: rest => if isBlank c then skipLines fuel rest else cs
      | [] => []

namespace Text

/-! ### Escapes -/

/-- The number that a run of hexadecimal digits writes. -/
def hexadecimal? (ds : List Char) : Option Nat :=
  ds.foldl (fun n d => do pure ((← n) * 16 + (← Text.Numeral.hexDigit? d))) (some 0)

/-- Reads the character that a number of hexadecimal digits name. -/
def codePoint (digits : Nat) : Reader Char := fun cs => do
  let ds := cs.take digits
  if ds.length < digits then none
  else
    let n ← hexadecimal? ds
    if n.isValidChar then some (Char.ofNat n, cs.drop digits) else none

/-- Reads an escape from behind its backslash. -/
def escape : Reader Char
  | 'b' :: cs => some (Char.ofNat 0x08, cs)
  | 'e' :: cs => some (Char.ofNat 0x1B, cs)
  | 't' :: cs => some ('\t', cs)
  | 'n' :: cs => some ('\n', cs)
  | 'f' :: cs => some (Char.ofNat 0x0C, cs)
  | 'r' :: cs => some ('\r', cs)
  | '"' :: cs => some ('"', cs)
  | '\\' :: cs => some ('\\', cs)
  | 'x' :: cs => codePoint 2 cs
  | 'u' :: cs => codePoint 4 cs
  | 'U' :: cs => codePoint 8 cs
  | _ => none

/-! ### Texts of one line -/

/-- Reads a text from behind its quote. -/
def basic : Nat → List Char → Reader (List Char)
  | 0, _, _ => none
  | _ + 1, _, [] => none
  | fuel + 1, acc, c :: cs =>
    if c = '"' then some (acc.reverse, cs)
    else if c = '\\' then do
      let (d, cs) ← escape cs
      basic fuel (d :: acc) cs
    else if isPlain c then basic fuel (c :: acc) cs
    else none

/-- Reads a text from behind its apostrophe. -/
def literal : Reader (List Char) := fun cs =>
  let body := cs.takeWhile fun c => isPlain c && c != '\''
  match cs.drop body.length with
  | '\'' :: cs => some (body, cs)
  | _ => none

/-! ### Texts of several lines -/

/-- Reads a run of a quote: three of them end the text, and up to two more before them belong to
it. Fewer belong to it, too. -/
def closing (quote : Char) (cs : List Char) : List Char × Bool × List Char :=
  let n := (cs.takeWhile (· == quote)).length
  if n < 3 then (List.replicate n quote, false, cs.drop n)
  else
    let inside := min (n - 3) 2
    (List.replicate inside quote, true, cs.drop (inside + 3))

/-- Reads a text of several lines from behind its opening quotes; a backslash is the beginning of an
escape if `escapes` says so. -/
def lines (quote : Char) (escapes : Bool) : Nat → List Char → Reader (List Char)
  | 0, _, _ => none
  | _ + 1, _, [] => none
  | fuel + 1, acc, c :: cs =>
    if c = quote then
      let (inside, ended, rest) := closing quote (c :: cs)
      if ended then some ((inside ++ acc).reverse, rest)
      else lines quote escapes fuel (inside ++ acc) rest
    else if escapes && c == '\\' then
      match lineBreak? (cs.dropWhile isBlank) with
      | some rest => lines quote escapes fuel acc (skipLines rest.length rest)
      | none => do
        let (d, cs) ← escape cs
        lines quote escapes fuel (d :: acc) cs
    else
      match lineBreak? (c :: cs) with
      | some rest =>
        let acc := if c = '\r' then '\n' :: c :: acc else c :: acc
        lines quote escapes fuel acc rest
      | none => if isPlain c then lines quote escapes fuel (c :: acc) cs else none

/-- Reads a text of several lines; a line break right behind the opening quotes is no part of it. -/
def multiline (quote : Char) (escapes : Bool) : Reader (List Char) := fun cs =>
  let cs := (lineBreak? cs).getD cs
  lines quote escapes (cs.length + 1) [] cs

/-! ### Any text -/

/-- Reads a text of one line. -/
def single : Reader String
  | '"' :: cs => (basic (cs.length + 1) [] cs).map fun r => (String.ofList r.1, r.2)
  | '\'' :: cs => (literal cs).map fun r => (String.ofList r.1, r.2)
  | _ => none

/-- Reads a text. -/
def any : Reader String
  | '"' :: '"' :: '"' :: cs => (multiline '"' true cs).map fun r => (String.ofList r.1, r.2)
  | '\'' :: '\'' :: '\'' :: cs => (multiline '\'' false cs).map fun r => (String.ofList r.1, r.2)
  | cs => single cs

end Text

end Simulcast.Toml
