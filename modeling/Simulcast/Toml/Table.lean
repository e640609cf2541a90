import Simulcast.Toml.Word

/-!
# Tables in TOML

How statements build up tables. A table is made by its header, implied by the header
of a table inside it, or made by a key with points. A table made by its header is not
extended by keys with points from outside, and one written in braces not at all. A name
stands for one thing.
-/

namespace Simulcast.Toml

/-- How a table came about. -/
inductive Form where
  /-- By its header. -/
  | header
  /-- By the header of a table inside it. -/
  | implied
  /-- By a key with points. -/
  | dotted
  /-- By braces. -/
  | closed
  deriving DecidableEq, Repr

/-- A part of a document. -/
inductive Node where
  /-- A value without parts. -/
  | scalar (s : Scalar)
  /-- Values in brackets. -/
  | list (items : List Node)
  /-- A table. -/
  | table (form : Form) (entries : List (String × Node))
  /-- Tables under one repeated header, in order. -/
  | tables (elements : List (List (String × Node)))
  deriving Repr

/-- The entries of a table. -/
abbrev Entries := List (String × Node)

namespace Entries

/-- Changes the entry with a name, which is none if it is not there yet. -/
def alter? (k : String) (f : Option Node → Option Node) : Entries → Option Entries
  | [] => (f none).map fun n => [(k, n)]
  | (k', n) :: es =>
    if k' = k then (f (some n)).map fun n => (k, n) :: es
    else (alter? k f es).map ((k', n) :: ·)

/-! ### Headers -/

/-- Changes the last of several tables. -/
def alterLast? (f : Entries → Option Entries) : List Entries → Option (List Entries)
  | [] => none
  | [es] => (f es).map fun es => [es]
  | es :: rest => (alterLast? f rest).map (es :: ·)

/-- Goes into what a header leads through: a table, which is implied if it is not there, or the last
of several ones. -/
def enter? (f : Entries → Option Entries) : Option Node → Option Node
  | none => (f []).map (.table .implied)
  | some (.table form es) => if form = .closed then none else (f es).map (.table form)
  | some (.tables elements) => (alterLast? f elements).map .tables
  | some _ => none

/-- What a header makes of what has its name. -/
def opened? : Option Node → Option Node
  | none => some (.table .header [])
  | some (.table .implied es) => some (.table .header es)
  | some _ => none

/-- What a repeated header makes of what has its name. -/
def repeated? : Option Node → Option Node
  | none => some (.tables [[]])
  | some (.tables elements) => some (.tables (elements ++ [[]]))
  | some _ => none

/-- Follows a header, changing what its last name stands for. -/
def follow? (last : Option Node → Option Node) : List String → Entries → Option Entries
  | [], _ => none
  | [k], es => alter? k last es
  | k :: path, es => alter? k (enter? (follow? last path)) es

/-- Changes the table that a header made. -/
def within? (f : Entries → Option Entries) : List String → Entries → Option Entries
  | [], es => f es
  | k :: path, es => alter? k (enter? (within? f path)) es

/-! ### Keys -/

/-- Adds a value by its key, whose names lead through tables that have no header of their own, and
through the last of several ones to a table inside it. -/
def insert? (v : Node) : List String → Entries → Option Entries
  | [], _ => none
  | [k], es =>
    alter? k (fun n => match n with
      | none => some v
      | some _ => none) es
  | k :: path, es =>
    alter? k (fun n => match n with
      | none => (insert? v path []).map (.table .dotted)
      | some (.table .dotted es) => (insert? v path es).map (.table .dotted)
      | some (.table .implied es) => (insert? v path es).map (.table .implied)
      | some (.tables elements) =>
        if path.length = 1 then none else (alterLast? (insert? v path) elements).map .tables
      | some _ => none) es

end Entries

end Simulcast.Toml
