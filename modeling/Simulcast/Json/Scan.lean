import Simulcast.Json.Fault
import Simulcast.Text.Numeral

/-!
# The lexical parts of JSON

Readers of the parts of a document: blanks, the words `null`, `true` and `false`,
texts and numbers. A reader takes the characters still to be read and gives a value
with the characters after it, or the first fault in reading order.
-/

namespace Simulcast.Json

/-- A reader of values: what it read, and the characters after it. -/
abbrev Reader (α : Type) := List Char → Except Fault (α × List Char)

/-- Whether a character is a blank between the parts of a document. -/
def isBlank (c : Char) : Bool := c = ' ' || c = '\n' || c = '\t' || c = '\r'

/-- The characters from the first one that is no blank. -/
def skipBlanks (cs : List Char) : List Char := cs.dropWhile isBlank

/-- Passes over the given characters. -/
def word : List Char → List Char → Except Fault (List Char)
  | [], cs => .ok cs
  | _ :: _, [] => .error .endOfText
  | w :: ws, c :: cs => if w = c then word ws cs else .error .malformed

namespace Reader

/-! ### Texts -/

/-- The character that a letter behind a backslash stands for. -/
def unescape? (c : Char) : Option Char :=
  if c = '"' then some '"'
  else if c = '\\' then some '\\'
  else if c = '/' then some '/'
  else if c = 'b' then some (Char.ofNat 0x08)
  else if c = 'f' then some (Char.ofNat 0x0C)
  else if c = 'n' then some '\n'
  else if c = 'r' then some '\r'
  else if c = 't' then some '\t'
  else none

/-- The number that four hexadecimal digits write. -/
def quad? (a b c d : Char) : Option Nat := do
  let a ← Text.Numeral.hexDigit? a
  let b ← Text.Numeral.hexDigit? b
  let c ← Text.Numeral.hexDigit? c
  let d ← Text.Numeral.hexDigit? d
  pure (((a * 16 + b) * 16 + c) * 16 + d)

/-- The number of bytes that characters take in UTF-8. -/
def byteLength (cs : List Char) : Nat := cs.foldl (fun n c => n + c.utf8Size) 0

/-- The fault of fewer than four characters behind `\u`: the text ends too early if fewer than
four bytes are left, and is malformed otherwise. -/
def shortQuad (cs : List Char) : Fault :=
  if byteLength cs < 4 then .endOfText else .malformed

/-- Whether a number is the first half of a pair that writes one character. -/
def isHighHalf (n : Nat) : Bool := 0xD800 ≤ n && n ≤ 0xDBFF

/-- Whether a number is the second half of a pair that writes one character. -/
def isLowHalf (n : Nat) : Bool := 0xDC00 ≤ n && n ≤ 0xDFFF

/-- The character that a pair of halves writes. -/
def joinHalves (high low : Nat) : Char :=
  Char.ofNat ((high - 0xD800) * 0x400 + (low - 0xDC00) + 0x10000)

/-- Reads a text from behind its opening quote. The characters read so far are in `acc`, the last
one first. -/
def textBody (acc : List Char) : Reader (List Char)
  | [] => .error .endOfText
  | c :: cs =>
    if c = '"' then .ok (acc.reverse, cs)
    else if c = '\\' then
      match cs with
      | [] => .error .endOfText
      | e :: cs =>
        match unescape? e with
        | some d => textBody (d :: acc) cs
        | none =>
          if e = 'u' then
            match cs with
            | h₁ :: h₂ :: h₃ :: h₄ :: cs =>
              match quad? h₁ h₂ h₃ h₄ with
              | none => .error .malformed
              | some n =>
                if isLowHalf n then .error .malformed
                else if isHighHalf n then
                  match cs with
                  | [] => .error .endOfText
                  | b :: cs =>
                    if b ≠ '\\' then .error .malformed
                    else match cs with
                      | [] => .error .endOfText
                      | u :: cs =>
                        if u ≠ 'u' then .error .malformed
                        else match cs with
                          | l₁ :: l₂ :: l₃ :: l₄ :: cs =>
                            match quad? l₁ l₂ l₃ l₄ with
                            | none => .error .malformed
                            | some m =>
                              if isLowHalf m then textBody (joinHalves n m :: acc) cs
                              else .error .malformed
                          | cs => .error (shortQuad cs)
                else textBody (Char.ofNat n :: acc) cs
            | cs => .error (shortQuad cs)
          else .error .malformed
    else if c.toNat < 0x20 then .error .malformed
    else textBody (c :: acc) cs

/-! ### Numbers -/

/-- The greatest significand that is kept exactly. -/
def greatestSignificand : Nat := 0xFFFFFFFFFFFFFFFF

/-- Takes up leading digits as long as the significand does not exceed the greatest one: the
significand, how many digits were taken, and the characters after them. -/
def absorb (significand : Nat) : List Char → Nat × Nat × List Char
  | [] => (significand, 0, [])
  | c :: cs =>
    let next := significand * 10 + (c.toNat - '0'.toNat)
    if c.isDigit && next ≤ greatestSignificand then
      let (s, k, rest) := absorb next cs
      (s, k + 1, rest)
    else (significand, 0, c :: cs)

/-- Divides by `10 ^ k`, in steps of at most `10 ^ 308` that each round. -/
def divideByPower : Nat → Nat → Binary64 → Binary64
  | 0, k, x => x.div (.powerOfTen k)
  | steps + 1, k, x =>
    if x.isZero then x else divideByPower steps (k - 308) (x.div (.powerOfTen 308))

/-- The number `± significand · 10 ^ exponent`, the significand and the power of ten being rounded
before they are multiplied. A number too great is refused. -/
def realOfParts (negative : Bool) (significand : Nat) (exponent : Int) : Except Fault Number :=
  let x := Binary64.ofNat significand
  let signed (y : Binary64) : Number := .real (if negative then y.neg else y)
  if 0 ≤ exponent then
    if exponent ≤ 308 then
      let y := x.mul (.powerOfTen exponent.toNat)
      if y.isInfinite then .error .malformed else .ok (signed y)
    else if x.isZero then .ok (signed x) else .error .malformed
  else
    let k := (-exponent).toNat
    .ok (signed (divideByPower ((k - 1) / 308) k x))

/-- The greatest power of ten that is computed. -/
def greatestPower : Nat := 0x7FFFFFFF

/-- Reads a power of ten from behind its mark. -/
def powerPart (negative : Bool) (significand : Nat) (exponent : Int) : Reader Number := fun cs =>
  let (down, cs) :=
    match cs with
    | '+' :: cs => (false, cs)
    | '-' :: cs => (true, cs)
    | cs => (false, cs)
  match Text.Numeral.span cs with
  | ([], []) => .error .endOfText
  | ([], _ :: _) => .error .malformed
  | (ds, rest) =>
    let power := Text.Numeral.value ds
    if power ≤ greatestPower then do
      let n ← realOfParts negative significand (if down then exponent - power else exponent + power)
      pure (n, rest)
    else if significand ≠ 0 ∧ !down then .error .malformed
    else .ok (.real (.zero negative), rest)

/-- Reads what may follow the digits of a number that has a point or a power of ten. -/
def realTail (negative : Bool) (significand : Nat) (exponent : Int) : Reader Number := fun cs =>
  match cs with
  | 'e' :: cs => powerPart negative significand exponent cs
  | 'E' :: cs => powerPart negative significand exponent cs
  | cs => do
    let n ← realOfParts negative significand exponent
    pure (n, cs)

/-- Reads the digits behind a point. Digits that do not fit the significand are passed over. -/
def fraction (negative : Bool) (significand : Nat) (exponent : Int) : Reader Number := fun cs =>
  let (significand, taken, rest) := absorb significand cs
  let after := rest.dropWhile Char.isDigit
  if taken = 0 ∧ after.length = cs.length then
    .error (if after = [] then .endOfText else .malformed)
  else realTail negative significand (exponent - taken) after

/-- Reads what follows the digits before a point, of which `dropped` did not fit the significand. -/
def numberTail (negative : Bool) (significand : Nat) (dropped : Nat) : Reader Number := fun cs =>
  match cs with
  | '.' :: cs => fraction negative significand dropped cs
  | cs =>
    if dropped = 0 ∧ !(cs.head? = some 'e' ∨ cs.head? = some 'E') then
      if !negative then .ok (.whole significand, cs)
      else if significand = 0 ∨ 0x8000000000000000 < significand then
        .ok (.real (Binary64.ofNat significand).neg, cs)
      else .ok (.whole (-(significand : Int)), cs)
    else realTail negative significand dropped cs

/-- Reads a number from behind its sign. -/
def magnitude (negative : Bool) : Reader Number
  | [] => .error .endOfText
  | c :: cs =>
    if c = '0' then
      match cs with
      | d :: _ => if d.isDigit then .error .malformed else numberTail negative 0 0 cs
      | [] => numberTail negative 0 0 []
    else if c.isDigit then
      let (significand, _, rest) := absorb (c.toNat - '0'.toNat) cs
      let after := rest.dropWhile Char.isDigit
      numberTail negative significand (rest.length - after.length) after
    else .error .malformed

/-- Reads a number. -/
def number : Reader Number
  | '-' :: cs => magnitude true cs
  | cs => magnitude false cs

/-- Whether a number begins with a character. -/
def startsNumber (c : Char) : Bool := c = '-' || c.isDigit

/-! ### Refusals -/

/-- What a value that begins here is, a scalar being read to its end. -/
def found : List Char → Except Fault Found
  | [] => .error .endOfText
  | c :: cs =>
    if c = 'n' then (word ['u', 'l', 'l'] cs).map fun _ => .null
    else if c = 't' then (word ['r', 'u', 'e'] cs).map fun _ => .boolean true
    else if c = 'f' then (word ['a', 'l', 's', 'e'] cs).map fun _ => .boolean false
    else if startsNumber c then (number (c :: cs)).map fun r => .number r.1
    else if c = '"' then (textBody [] cs).map fun r => .text (String.ofList r.1)
    else if c = '[' then .ok .list
    else if c = '{' then .ok .object
    else .error .malformed

/-- Refuses a value of another kind than asked for. -/
def refuse {α : Type} (expected : Expected) (cs : List Char) : Except Fault α := do
  let f ← found cs
  throw (.mismatch (.wrongKind f expected))

end Reader

end Simulcast.Json
