import Simulcast.Binary64.Reading

/-!
# Words in TOML

Truth values, numbers, dates and times, each written as one word. Underscores may stand
between the digits of a number. A date or a time is kept as its text, in the form with
`T` and `Z`; a time may lack its seconds.
-/

namespace Simulcast.Toml

/-- A value that is written as a word or as a text. -/
inductive Scalar where
  /-- A truth value. -/
  | boolean (b : Bool)
  /-- A whole number of 64 bits. -/
  | whole (n : Int)
  /-- Any other number. -/
  | real (x : Binary64)
  /-- A text. -/
  | text (s : String)
  /-- A date, a time or both. -/
  | moment (written : String)
  deriving DecidableEq, Repr

namespace Word

/-! ### Numbers -/

/-- The digits of a text with underscores between them. -/
def digits? (isDigit : Char → Bool) (cs : List Char) : Option (List Char) :=
  let runs := cs.splitOn '_'
  if runs.all fun r => r ≠ [] && r.all isDigit then some runs.flatten else none

/-- The number that digits of a base write. -/
def inBase (base : Nat) (ds : List Char) : Nat :=
  ds.foldl (fun n d => n * base + (Text.Numeral.hexDigit? d).getD 0) 0

/-- Whether a character is a digit of a base up to sixteen. -/
def isDigitOf (base : Nat) (c : Char) : Bool := (Text.Numeral.hexDigit? c).any (· < base)

/-- A number as a value, within the range of 64 bits. -/
def wholeInRange (n : Int) : Option Scalar :=
  if Binary64.leastWord ≤ n ∧ n ≤ Binary64.greatestWord then some (.whole n) else none

/-- The number that a text writes in a base. -/
def based? (base : Nat) (cs : List Char) : Option Scalar :=
  (digits? (isDigitOf base) cs).bind fun ds => wholeInRange (inBase base ds)

/-- The decimal digits of a whole part, which has no leading zero. -/
def wholeDigits? (cs : List Char) : Option (List Char) :=
  (digits? Char.isDigit cs).filter fun ds => ds.length = 1 || ds.head? != some '0'

/-- A sign, and what follows it: whether the sign is a minus. -/
def signed : List Char → Bool × List Char
  | '-' :: cs => (true, cs)
  | '+' :: cs => (false, cs)
  | cs => (false, cs)

/-- The power of ten that a text writes behind its mark. -/
def power? (cs : List Char) : Option Int :=
  let (negative, cs) := signed cs
  (digits? Char.isDigit cs).map fun ds =>
    if negative then -(Text.Numeral.value ds : Int) else Text.Numeral.value ds

/-- The mantissa of a number and the text of its power of ten. -/
def splitPower (cs : List Char) : List Char × Option (List Char) :=
  match cs.span fun c => c != 'e' && c != 'E' with
  | (mantissa, []) => (mantissa, none)
  | (mantissa, _ :: power) => (mantissa, some power)

/-- The digits before and behind the point of a mantissa. -/
def mantissa? (cs : List Char) : Option (List Char × List Char) :=
  match cs.span (· != '.') with
  | (whole, []) => (wholeDigits? whole).map fun ds => (ds, [])
  | (whole, _ :: part) => do pure (← wholeDigits? whole, ← digits? Char.isDigit part)

/-- The number that a text without a sign writes in decimal. -/
def decimal? (negative : Bool) (cs : List Char) : Option Scalar := do
  let (mantissa, power) := splitPower cs
  let (whole, part) ← mantissa? mantissa
  if part = [] ∧ power.isNone then
    let n : Int := Text.Numeral.value whole
    wholeInRange (if negative then -n else n)
  else
    let e ← power.elim (some 0) power?
    let x := Binary64.ofDecimal negative (Text.Numeral.value (whole ++ part)) (e - part.length)
    if x.isInfinite then none else some (.real x)

/-- The number that a word writes. -/
def number? (cs : List Char) : Option Scalar :=
  match cs with
  | '0' :: 'x' :: cs => based? 16 cs
  | '0' :: 'o' :: cs => based? 8 cs
  | '0' :: 'b' :: cs => based? 2 cs
  | cs =>
    let (negative, cs) := signed cs
    if cs = ['i', 'n', 'f'] then some (.real (.infinite negative))
    else if cs = ['n', 'a', 'n'] then some (.real .nan)
    else decimal? negative cs

/-! ### Dates and times -/

/-- Reads a number of a fixed count of digits within a range. -/
def field (count low high : Nat) (cs : List Char) : Option (Nat × List Char) :=
  (Text.Numeral.natural? (cs.take count)).bind fun n =>
    if cs.length < count || n < low || high < n then none else some (n, cs.drop count)

/-- Passes over a character. -/
def mark (c : Char) : List Char → Option (List Char)
  | d :: cs => if c = d then some cs else none
  | [] => none

/-- The days of a month. -/
def daysOf (year month : Nat) : Nat :=
  if month = 2 then
    if year % 4 = 0 ∧ (year % 100 ≠ 0 ∨ year % 400 = 0) then 29 else 28
  else if month = 4 ∨ month = 6 ∨ month = 9 ∨ month = 11 then 30 else 31

/-- Reads a date: what follows it. -/
def date? (cs : List Char) : Option (List Char) := do
  let (year, cs) ← field 4 0 9999 cs
  let cs ← mark '-' cs
  let (month, cs) ← field 2 1 12 cs
  let cs ← mark '-' cs
  let (_, cs) ← field 2 1 (daysOf year month) cs
  pure cs

/-- A fraction of a second as it is kept: nine digits at most, without zeros at the end except for
a single one. -/
def fraction (ds : List Char) : List Char :=
  match ((ds.take 9).reverse.dropWhile (· == '0')).reverse with
  | [] => ['.', '0']
  | ds => '.' :: ds

/-- Reads a fraction of a second, if there is one: how it is kept, and what follows it. -/
def fraction? : List Char → Option (List Char × List Char)
  | '.' :: cs =>
    let (ds, rest) := Text.Numeral.span cs
    if ds = [] then none else some (fraction ds, rest)
  | cs => some ([], cs)

/-- Reads the seconds of a time, if there are any: how they are kept, and what follows them. -/
def seconds? : List Char → Option (List Char × List Char)
  | ':' :: cs => do
    let (_, rest) ← field 2 0 60 cs
    let (part, rest) ← fraction? rest
    pure (':' :: cs.take 2 ++ part, rest)
  | cs => some ([], cs)

/-- Reads a time: how it is kept, and what follows it. -/
def time? (cs : List Char) : Option (List Char × List Char) := do
  let (_, rest) ← field 2 0 23 cs
  let rest ← mark ':' rest
  let (_, rest) ← field 2 0 59 rest
  let (seconds, rest) ← seconds? rest
  pure (cs.take 5 ++ seconds, rest)

/-- The distance from universal time that a text writes, as it is kept: none has a plus sign. -/
def offset? : List Char → Option (List Char)
  | [] => some []
  | ['Z'] => some ['Z']
  | ['z'] => some ['Z']
  | s :: cs =>
    if s = '+' ∨ s = '-' then do
      let (hours, rest) ← field 2 0 23 cs
      let rest ← mark ':' rest
      let (minutes, rest) ← field 2 0 59 rest
      if rest = [] then pure ((if hours = 0 ∧ minutes = 0 then '+' else s) :: cs) else none
    else none

/-- The date, time or both that a word writes, as it is kept. -/
def moment? (cs : List Char) : Option (List Char) :=
  match date? cs with
  | some [] => some cs
  | some (c :: rest) =>
    if c = 'T' ∨ c = 't' ∨ c = ' ' then do
      let (time, rest) ← time? rest
      let offset ← offset? rest
      pure (cs.take 10 ++ 'T' :: (time ++ offset))
    else none
  | none =>
    match time? cs with
    | some (time, []) => some time
    | _ => none

/-! ### Any word -/

/-- The value that a word writes. -/
def read? (cs : List Char) : Option Scalar :=
  if cs = ['t', 'r', 'u', 'e'] then some (.boolean true)
  else if cs = ['f', 'a', 'l', 's', 'e'] then some (.boolean false)
  else
    match moment? cs with
    | some m => some (.moment (String.ofList m))
    | none => number? cs

/-- Whether a character ends a word. -/
def isEnd (c : Char) : Bool :=
  c == ',' || c == ']' || c == '}' || c == '#' || c == ' ' || c == '\t' || c == '\r' || c == '\n'

/-- The word at the beginning of a text, and what follows it. A date goes on behind a blank if a
digit follows. -/
def span (cs : List Char) : List Char × List Char :=
  let word := cs.takeWhile fun c => !isEnd c
  match cs.dropWhile fun c => !isEnd c with
  | ' ' :: d :: rest =>
    if d.isDigit && date? word == some [] then
      (word ++ ' ' :: (d :: rest).takeWhile (fun c => !isEnd c),
        (d :: rest).dropWhile fun c => !isEnd c)
    else (word, ' ' :: d :: rest)
  | rest => (word, rest)

end Word

end Simulcast.Toml
