import Simulcast.Text.Mark
import Simulcast.Toml.Table
import Simulcast.Toml.Text

/-!
# TOML documents

A document is a sequence of lines: headers, values with their keys, comments. What is
read is the entries of the root, or nothing if the text does not follow the format.
-/

namespace Simulcast.Toml

/-! ### Blanks and comments -/

/-- Passes over blanks within a line. -/
def skipBlanks (cs : List Char) : List Char := cs.dropWhile isBlank

/-- Passes over a comment, if one stands here. -/
def skipComment : List Char → List Char
  | '#' :: cs => cs.dropWhile isPlain
  | cs => cs

/-- Passes over the rest of a line: blanks, a comment and the line break. -/
def endLine? (cs : List Char) : Option (List Char) :=
  match skipComment (skipBlanks cs) with
  | [] => some []
  | cs => lineBreak? cs

/-- Passes over blanks, comments and line breaks, at most as many as `fuel`. -/
def skipAll : Nat → List Char → List Char
  | 0, cs => cs
  | fuel + 1, cs =>
    let cs := skipComment (skipBlanks cs)
    match lineBreak? cs with
    | some cs => skipAll fuel cs
    | none => cs

/-- Passes over blanks, comments and line breaks. -/
def skipBetween (cs : List Char) : List Char := skipAll cs.length cs

/-! ### Keys -/

/-- Whether a character may stand in a name without quotes. -/
def isNameCharacter (c : Char) : Bool := c.isAlphanum || c == '_' || c == '-'

/-- Reads a name. -/
def name : Reader String := fun cs =>
  match cs with
  | [] => none
  | c :: _ =>
    if c = '"' ∨ c = '\'' then Text.single cs
    else
      let ds := cs.takeWhile isNameCharacter
      if ds = [] then none else some (String.ofList ds, cs.drop ds.length)

/-- Reads a key: names with points between them, at most as many as the number says. -/
def keyWithin : Nat → Reader (List String)
  | 0, _ => none
  | names + 1, cs => do
    let (k, cs) ← name (skipBlanks cs)
    match skipBlanks cs with
    | '.' :: rest => do
      let (ks, rest) ← keyWithin names rest
      pure (k :: ks, rest)
    | rest => pure ([k], rest)

/-- The number of names in a key, and of lists and tables inside one another, that there may be. -/
def greatestDepth : Nat := 80

/-- Reads a key. -/
def key : Reader (List String) := keyWithin greatestDepth

/-! ### Values -/

/-- Reads the items of a list and its end. -/
def items (value : Reader Node) : Nat → Reader (List Node)
  | 0, _ => none
  | fuel + 1, cs =>
    match skipBetween cs with
    | ']' :: rest => some ([], rest)
    | cs => do
      let (n, cs) ← value cs
      match skipBetween cs with
      | ',' :: rest => do
        let (ns, rest) ← items value fuel rest
        pure (n :: ns, rest)
      | ']' :: rest => pure ([n], rest)
      | _ => none

/-- Reads a value with its key. -/
def pair (value : Reader Node) : Reader (List String × Node) := fun cs => do
  let (k, cs) ← key cs
  match cs with
  | '=' :: cs => do
    let (n, cs) ← value (skipBlanks cs)
    pure ((k, n), cs)
  | _ => none

/-- Reads the entries of a table in braces, of which `entries` holds those read so far, and its
end. -/
def closedEntries (value : Reader Node) : Nat → Entries → Reader Entries
  | 0, _, _ => none
  | fuel + 1, entries, cs =>
    match skipBetween cs with
    | '}' :: rest => some (entries, rest)
    | cs => do
      let ((k, n), cs) ← pair value cs
      let entries ← Entries.insert? n k entries
      match skipBetween cs with
      | ',' :: rest => closedEntries value fuel entries rest
      | '}' :: rest => pure (entries, rest)
      | _ => none

/-- Reads a table in braces from behind the opening one. -/
def closedTable (value : Reader Node) : Reader Node := fun cs =>
  (closedEntries value (cs.length + 1) [] cs).map fun r => (.table .closed r.1, r.2)

/-- Reads a word. -/
def word : Reader Node := fun cs =>
  let (w, rest) := Word.span cs
  (Word.read? w).map fun s => (.scalar s, rest)

/-- Reads a list or a table in braces from behind the character that opens it. -/
def branch (value : Reader Node) (c : Char) : Reader Node := fun cs =>
  if c = '[' then (items value (cs.length + 1) cs).map fun r => (.list r.1, r.2)
  else closedTable value cs

/-- Reads a value with at most `depth` lists and tables inside one another. -/
def value (depth : Nat) : Reader Node
  | [] => none
  | c :: rest =>
    if c = '"' ∨ c = '\'' then (Text.any (c :: rest)).map fun r => (.scalar (.text r.1), r.2)
    else if c = '[' ∨ c = '{' then
      match depth with
      | 0 => none
      | depth + 1 => branch (value depth) c rest
    else word (c :: rest)

/-! ### Lines -/

/-- A document as far as it was read. -/
structure Draft where
  /-- The entries of the root. -/
  entries : Entries := []
  /-- The path of the table that is being filled. -/
  header : List String := []

namespace Draft

/-- Reads a header from behind its opening bracket. -/
def readHeader (d : Draft) : Reader Draft := fun cs => do
  let (path, cs) ← key cs
  match cs with
  | ']' :: cs => pure (⟨← Entries.follow? Entries.opened? path d.entries, path⟩, cs)
  | _ => none

/-- Reads a repeated header from behind its opening brackets. -/
def readRepeatedHeader (d : Draft) : Reader Draft := fun cs => do
  let (path, cs) ← key cs
  match cs with
  | ']' :: ']' :: cs => pure (⟨← Entries.follow? Entries.repeated? path d.entries, path⟩, cs)
  | _ => none

/-- Reads a value with its key. -/
def readPair (d : Draft) : Reader Draft := fun cs => do
  let ((k, n), cs) ← pair (value greatestDepth) cs
  pure ({ d with entries := ← Entries.within? (Entries.insert? n k) d.header d.entries }, cs)

/-- Reads what stands in a line. -/
def readStatement (d : Draft) : Reader Draft
  | '[' :: '[' :: cs => d.readRepeatedHeader cs
  | '[' :: cs => d.readHeader cs
  | cs => d.readPair cs

/-- Reads lines to the end, at most as many as `fuel`. -/
def readLines : Nat → Draft → List Char → Option Draft
  | 0, _, _ => none
  | fuel + 1, d, cs =>
    match skipBetween cs with
    | [] => some d
    | cs => do
      let (d, cs) ← d.readStatement cs
      readLines fuel d (← endLine? cs)

end Draft

/-- The entries of the root of the document that a text writes. -/
def parse (s : String) : Option Entries :=
  let cs := Text.Mark.strip s.toList
  (Draft.readLines (cs.length + 1) {} cs).map (·.entries)

end Simulcast.Toml
