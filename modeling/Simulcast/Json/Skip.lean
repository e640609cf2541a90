import Simulcast.Json.Scan

/-!
# Values that are passed over

A value that nobody asked for is passed over: it must be JSON, but its numbers may
be of any size and its texts may hold half pairs. A nesting of any depth is passed
over; the `fuel` of the readers below bounds their calls, and `skip` gives them
twice the length of the text, which no value exceeds.
-/

namespace Simulcast.Json.Skip

/-- Passes over a text from behind its opening quote. -/
def textBody : List Char → Except Fault (List Char)
  | [] => .error .endOfText
  | c :: cs =>
    if c = '"' then .ok cs
    else if c = '\\' then
      match cs with
      | [] => .error .endOfText
      | e :: cs =>
        if (Reader.unescape? e).isSome then textBody cs
        else if e = 'u' then
          match cs with
          | h₁ :: h₂ :: h₃ :: h₄ :: cs =>
            if (Reader.quad? h₁ h₂ h₃ h₄).isSome then textBody cs else .error .malformed
          | cs => .error (Reader.shortQuad cs)
        else .error .malformed
    else if c.toNat < 0x20 then .error .malformed
    else textBody cs

/-- Passes over one digit or more. -/
def digits (cs : List Char) : Except Fault (List Char) :=
  match Text.Numeral.span cs with
  | ([], _) => .error .malformed
  | (_, rest) => .ok rest

/-- Passes over a power of ten, if there is one. -/
def power : List Char → Except Fault (List Char)
  | c :: cs =>
    if c = 'e' ∨ c = 'E' then
      match cs with
      | '+' :: cs => digits cs
      | '-' :: cs => digits cs
      | cs => digits cs
    else .ok (c :: cs)
  | [] => .ok []

/-- Passes over the part behind a point, if there is one, and a power of ten. -/
def fraction : List Char → Except Fault (List Char)
  | '.' :: cs => do
    let cs ← digits cs
    power cs
  | cs => power cs

/-- Passes over a number from behind its sign. -/
def magnitude : List Char → Except Fault (List Char)
  | [] => .error .malformed
  | c :: cs =>
    if c = '0' then
      match cs with
      | d :: _ => if d.isDigit then .error .malformed else fraction cs
      | [] => .ok []
    else if c.isDigit then fraction (cs.dropWhile Char.isDigit)
    else .error .malformed

/-- Passes over a value that is neither a list nor an object and begins with `c`. -/
def scalar (c : Char) (cs : List Char) : Except Fault (List Char) :=
  if c = 'n' then word ['u', 'l', 'l'] cs
  else if c = 't' then word ['r', 'u', 'e'] cs
  else if c = 'f' then word ['a', 'l', 's', 'e'] cs
  else if c = '-' then magnitude cs
  else if c.isDigit then magnitude (c :: cs)
  else if c = '"' then textBody cs
  else .error .malformed

/-- Passes over the colon between a name and a value. -/
def colon (cs : List Char) : Except Fault (List Char) :=
  match skipBlanks cs with
  | ':' :: cs => .ok cs
  | [] => .error .endOfText
  | _ => .error .malformed

mutual

/-- Passes over a value. -/
def value : Nat → List Char → Except Fault (List Char)
  | 0, _ => .error .malformed
  | fuel + 1, cs =>
    match skipBlanks cs with
    | [] => .error .endOfText
    | c :: cs =>
      if c = '[' then
        match skipBlanks cs with
        | [] => .error .endOfText
        | d :: rest => if d = ']' then .ok rest else items fuel (d :: rest)
      else if c = '{' then
        match skipBlanks cs with
        | [] => .error .endOfText
        | d :: rest => if d = '}' then .ok rest else members fuel (d :: rest)
      else scalar c cs

/-- Passes over the items of a list, one or more, and its end. -/
def items : Nat → List Char → Except Fault (List Char)
  | 0, _ => .error .malformed
  | fuel + 1, cs => do
    let cs ← value fuel cs
    match skipBlanks cs with
    | [] => .error .endOfText
    | c :: cs =>
      if c = ']' then .ok cs else if c = ',' then items fuel cs else .error .malformed

/-- Passes over the members of an object, one or more, and its end. -/
def members : Nat → List Char → Except Fault (List Char)
  | 0, _ => .error .malformed
  | fuel + 1, cs =>
    match skipBlanks cs with
    | [] => .error .endOfText
    | q :: cs =>
      if q ≠ '"' then .error .malformed
      else do
        let cs ← textBody cs
        let cs ← colon cs
        let cs ← value fuel cs
        match skipBlanks cs with
        | [] => .error .endOfText
        | c :: cs =>
          if c = '}' then .ok cs else if c = ',' then members fuel cs else .error .malformed

end

/-- Passes over a value of any size. -/
def skip (cs : List Char) : Except Fault (List Char) := value (2 * cs.length + 2) cs

end Simulcast.Json.Skip
