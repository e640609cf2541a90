import Simulcast.Json.Skip

/-!
# Readers of documents

Readers for the kinds of values that documents are made of. Each reads in the order
of the text, so that the first problem in it decides: a boolean, a number within a
range, a text, a list, a record, one of several alternatives.

A record is written as an object, its fields in any order and other members passed
over, or as the list of its fields. What is read of a record is the list of its
fields' values, in the order in which the record declares them.
-/

namespace Simulcast.Json

/-- A field of a record. -/
structure Field where
  /-- The name of the field. -/
  name : String
  /-- Reads the value of the field. -/
  read : Reader Json
  /-- The value of a field that has no member in the object. -/
  absent : Option Json
  /-- The value of a field that has no item in the list. -/
  beyond : Option Json

namespace Reader

/-! ### Scalars -/

/-- Reads a truth value. -/
def boolean : Reader Json := fun cs =>
  match skipBlanks cs with
  | [] => .error .endOfText
  | c :: cs =>
    if c = 't' then (word ['r', 'u', 'e'] cs).map fun cs => (.boolean true, cs)
    else if c = 'f' then (word ['a', 'l', 's', 'e'] cs).map fun cs => (.boolean false, cs)
    else refuse .boolean (c :: cs)

/-- Reads a whole number from `low` to `high`. -/
def wholeBetween (low high : Int) (expected : Expected) : Reader Json := fun cs =>
  match skipBlanks cs with
  | [] => .error .endOfText
  | c :: cs =>
    if startsNumber c then do
      let (n, cs) ← number (c :: cs)
      match n with
      | .whole n =>
        if low ≤ n ∧ n ≤ high then pure (Json.whole n, cs)
        else throw (.mismatch (.outOfRange n expected))
      | .real x => throw (.mismatch (.wrongKind (.number (.real x)) expected))
    else refuse expected (c :: cs)

/-- Reads a number of 8 bits. -/
def byte : Reader Json := wholeBetween 0 0xFF .byte

/-- Reads a number of 32 bits. -/
def word32 : Reader Json := wholeBetween 0 0xFFFFFFFF .word

/-- Reads a signed number of 32 bits. -/
def signedWord : Reader Json := wholeBetween (-0x80000000) 0x7FFFFFFF .signedWord

/-- Reads a number of 64 bits. -/
def longWord : Reader Json := wholeBetween 0 0xFFFFFFFFFFFFFFFF .longWord

/-- Reads a text. -/
def text : Reader Json := fun cs =>
  match skipBlanks cs with
  | [] => .error .endOfText
  | c :: cs =>
    if c = '"' then (textBody [] cs).map fun r => (.text (String.ofList r.1), r.2)
    else refuse .text (c :: cs)

/-- Reads the absent value. -/
def nothing : Reader Json := fun cs =>
  match skipBlanks cs with
  | [] => .error .endOfText
  | c :: cs =>
    if c = 'n' then (word ['u', 'l', 'l'] cs).map fun cs => (.null, cs)
    else refuse .nothing (c :: cs)

/-- Reads the absent value, or what `inner` reads. -/
def optional (inner : Reader Json) : Reader Json := fun cs =>
  match skipBlanks cs with
  | [] => .error .endOfText
  | c :: cs =>
    if c = 'n' then (word ['u', 'l', 'l'] cs).map fun cs => (.null, cs)
    else inner (c :: cs)

/-! ### Lists -/

/-- Reads the items of a list and its end, the first of them being the first of the list if
`first` says so. -/
def items (item : Reader Json) : Nat → Bool → Reader (List Json)
  | 0, _, _ => .error .malformed
  | fuel + 1, first, cs =>
    let next (cs : List Char) : Except Fault (List Json × List Char) := do
      let (j, cs) ← item cs
      let (js, cs) ← items item fuel false cs
      pure (j :: js, cs)
    match skipBlanks cs with
    | [] => .error .endOfText
    | c :: cs =>
      if c = ']' then .ok ([], cs)
      else if first then next (c :: cs)
      else if c = ',' then
        match skipBlanks cs with
        | [] => .error .endOfText
        | d :: cs => if d = ']' then .error .malformed else next (d :: cs)
      else .error .malformed

/-- Reads a list. -/
def list (item : Reader Json) : Reader Json := fun cs =>
  match skipBlanks cs with
  | [] => .error .endOfText
  | c :: cs =>
    if c = '[' then (items item (cs.length + 1) true cs).map fun r => (.list r.1, r.2)
    else refuse .list (c :: cs)

/-! ### Records -/

/-- Reads the fields of a record from the items of a list. -/
def positional (record : String) (total : Nat) : Nat → Bool → List Field → Reader (List Json)
  | _, _, [], cs => .ok ([], cs)
  | index, first, f :: fs, cs =>
    let next (cs : List Char) : Except Fault (List Json × List Char) := do
      let (j, cs) ← f.read cs
      let (js, cs) ← positional record total (index + 1) false fs cs
      pure (j :: js, cs)
    match skipBlanks cs with
    | [] => .error .endOfText
    | c :: cs =>
      if c = ']' then
        match f.beyond with
        | some j => do
          let (js, cs) ← positional record total (index + 1) first fs (c :: cs)
          pure (j :: js, cs)
        | none => .error (.mismatch (.tooShort index record total))
      else if first then next (c :: cs)
      else if c = ',' then
        match skipBlanks cs with
        | [] => .error .endOfText
        | d :: cs => if d = ']' then .error .malformed else next (d :: cs)
      else .error .malformed

/-- Passes over the end of a list whose items have all been read. -/
def listEnd (cs : List Char) : Except Fault (List Char) :=
  match skipBlanks cs with
  | [] => .error .endOfText
  | c :: cs => if c = ']' then .ok cs else .error .malformed

/-- The values of the fields, in their order, from the members read. -/
def collect (members : List (String × Json)) : List Field → Except Fault (List Json)
  | [] => .ok []
  | f :: fs =>
    match members.lookup f.name <|> f.absent with
    | some j => (collect members fs).map (j :: ·)
    | none => .error (.mismatch (.missingField f.name))

/-- Reads the value of the member with a name: a field's by its reader, another being passed
over. -/
def memberValue (fields : List Field) (name : String) (members : List (String × Json)) :
    Reader (List (String × Json)) := fun cs =>
  match fields.find? fun f => f.name = name with
  | some f =>
    if (members.lookup name).isSome then .error (.mismatch (.repeatedField name))
    else do
      let cs ← Skip.colon cs
      let (j, cs) ← f.read cs
      pure ((name, j) :: members, cs)
  | none => do
    let cs ← Skip.colon cs
    let cs ← Skip.skip cs
    pure (members, cs)

/-- Reads the members of an object from behind the opening quote of a name, and its end. -/
def membersFrom (fields : List Field) :
    Nat → List (String × Json) → Reader (List (String × Json))
  | 0, _, _ => .error .malformed
  | fuel + 1, members, cs => do
    let (name, cs) ← textBody [] cs
    let (members, cs) ← memberValue fields (String.ofList name) members cs
    match skipBlanks cs with
    | [] => .error .endOfText
    | c :: cs =>
      if c = '}' then pure (members, cs)
      else if c = ',' then
        match skipBlanks cs with
        | [] => .error .endOfText
        | q :: cs => if q = '"' then membersFrom fields fuel members cs else .error .malformed
      else .error .malformed

/-- Reads the members of an object and its end. -/
def members (fields : List Field) : Reader (List (String × Json)) := fun cs =>
  match skipBlanks cs with
  | [] => .error .endOfText
  | c :: cs =>
    if c = '}' then .ok ([], cs)
    else if c = '"' then membersFrom fields (cs.length + 1) [] cs
    else .error .malformed

/-- Reads a record: the list of the values of its fields. -/
def record (name : String) (fields : List Field) : Reader Json := fun cs =>
  match skipBlanks cs with
  | [] => .error .endOfText
  | c :: cs =>
    if c = '[' then do
      let (js, cs) ← positional name fields.length 0 true fields cs
      let cs ← listEnd cs
      pure (.list js, cs)
    else if c = '{' then do
      let (ms, cs) ← members fields cs
      let js ← collect ms fields
      pure (.list js, cs)
    else refuse (.record name) (c :: cs)

/-! ### Alternatives -/

/-- Reads one of several alternatives: a bare name for one without a value, or an object with the
name and the value as its only member. What is read is the list of the name and the value. -/
def choice (alternatives : List (String × Option (Reader Json))) : Reader Json := fun cs =>
  let known := alternatives.map (·.1)
  match skipBlanks cs with
  | [] => .error .endOfText
  | c :: cs =>
    if c = '"' then do
      let (name, cs) ← textBody [] cs
      match alternatives.lookup (String.ofList name) with
      | none => throw (.mismatch (.unknownAlternative (String.ofList name) known))
      | some none => pure (.list [.text (String.ofList name), .null], cs)
      | some (some _) => throw (.mismatch (.wrongKind .bareAlternative .alternativeWithValue))
    else if c = '{' then
      match skipBlanks cs with
      | [] => .error .endOfText
      | q :: cs =>
        if q ≠ '"' then .error .malformed
        else do
          let (name, cs) ← textBody [] cs
          match alternatives.lookup (String.ofList name) with
          | none => throw (.mismatch (.unknownAlternative (String.ofList name) known))
          | some value =>
            let cs ← Skip.colon cs
            let (j, cs) ← (value.getD nothing) cs
            match skipBlanks cs with
            | [] => throw .endOfText
            | d :: cs =>
              if d = '}' then pure (.list [.text (String.ofList name), j], cs)
              else throw .malformed
    else .error .malformed

/-! ### Trees -/

/-- Reads the members of an object of a tree from behind the opening quote of a name, and its
end. -/
def treeMembers (value : Reader Json) : Nat → Reader (List (String × Json))
  | 0, _ => .error .malformed
  | fuel + 1, cs => do
    let (name, cs) ← textBody [] cs
    let cs ← Skip.colon cs
    let (j, cs) ← value cs
    match skipBlanks cs with
    | [] => .error .endOfText
    | c :: cs =>
      if c = '}' then pure ([(String.ofList name, j)], cs)
      else if c = ',' then
        match skipBlanks cs with
        | [] => .error .endOfText
        | q :: cs =>
          if q = '"' then do
            let (ms, cs) ← treeMembers value fuel cs
            pure ((String.ofList name, j) :: ms, cs)
          else .error .malformed
      else .error .malformed

/-- Reads a list or an object whose parts `value` reads. -/
def branch (value : Reader Json) (c : Char) (cs : List Char) : Except Fault (Json × List Char) :=
  if c = '[' then (items value (cs.length + 1) true cs).map fun r => (.list r.1, r.2)
  else
    match skipBlanks cs with
    | [] => .error .endOfText
    | d :: cs =>
      if d = '}' then .ok (.object [], cs)
      else if d = '"' then (treeMembers value (cs.length + 1) cs).map fun r => (.object r.1, r.2)
      else .error .malformed

/-- Reads any document with at most `depth` lists and objects inside one another. -/
def tree (depth : Nat) : Reader Json := fun cs =>
  match skipBlanks cs with
  | [] => .error .endOfText
  | c :: cs =>
    if c = 'n' then (word ['u', 'l', 'l'] cs).map fun cs => (.null, cs)
    else if c = 't' then (word ['r', 'u', 'e'] cs).map fun cs => (.boolean true, cs)
    else if c = 'f' then (word ['a', 'l', 's', 'e'] cs).map fun cs => (.boolean false, cs)
    else if startsNumber c then (number (c :: cs)).map fun r => (.number r.1, r.2)
    else if c = '"' then (textBody [] cs).map fun r => (.text (String.ofList r.1), r.2)
    else if c = '[' ∨ c = '{' then
      match depth with
      | 0 => .error .malformed
      | depth + 1 => branch (tree depth) c cs
    else .error .malformed

/-! ### Whole texts -/

/-- Reads a text that holds one value and blanks around it. -/
def whole {α : Type} (r : Reader α) (s : String) : Except Fault α := do
  let (a, cs) ← r s.toList
  if skipBlanks cs = [] then pure a else throw .malformed

end Reader

/-- The number of lists and objects that may be inside one another in a tree. -/
def greatestDepth : Nat := 127

/-- The document that a text writes. -/
def parse (s : String) : Except Fault Json := Reader.whole (Reader.tree greatestDepth) s

end Simulcast.Json
