import Simulcast.Json.Basic

/-!
# Trees of settings

What a source of settings says, before it is known which settings there are: scalars,
lists and tables with named entries. Each part remembers the source that it comes
from, for the wording of a complaint. `Tree.alter` changes the part at the end of a
path, making the tables and lists on the way; `Tree.overlay` lays one tree over
another entry by entry.
-/

namespace Simulcast.Settings

/-- Where a part of a tree comes from. -/
inductive Origin where
  /-- A file with a name. -/
  | file (name : String)
  /-- The variables of the environment. -/
  | environment
  deriving DecidableEq, Repr

/-- A value without parts. -/
inductive Scalar where
  /-- No value. -/
  | nothing
  /-- A truth value. -/
  | boolean (b : Bool)
  /-- A whole number. -/
  | whole (n : Int)
  /-- Any other number. -/
  | real (x : Binary64)
  /-- A text. -/
  | text (s : String)
  deriving DecidableEq, Repr

/-- A tree of settings. -/
inductive Tree where
  /-- A value without parts. -/
  | scalar (origin : Option Origin) (value : Scalar)
  /-- Values in order. -/
  | list (origin : Option Origin) (items : List Tree)
  /-- Values with names. -/
  | table (origin : Option Origin) (entries : List (String × Tree))
  deriving Repr

namespace Tree

/-- No value, from no source. -/
def nothing : Tree := .scalar none .nothing

instance : Inhabited Tree := ⟨nothing⟩

/-- The table without entries, from no source. -/
def root : Tree := .table none []

end Tree

/-! ### Paths -/

/-- One step into a tree. -/
inductive Segment where
  /-- To the entry with a name. -/
  | key (name : String)
  /-- To an item, counted from the end if below zero. -/
  | index (i : Int)
  deriving DecidableEq, Repr

/-- The way to a part of a tree. -/
abbrev Path := List Segment

/-- The position that an index means in a list of a length. -/
def position? (i : Int) (length : Nat) : Option Nat :=
  if 0 ≤ i then some i.toNat
  else if i.natAbs ≤ length then some (length - i.natAbs) else none

namespace Tree

/-- The part of a tree to which one step leads. -/
def child? : Segment → Tree → Option Tree
  | .key k, .table _ entries => entries.lookup k
  | .index i, .list _ items => (position? i items.length).bind fun n => items[n]?
  | _, _ => none

/-- The part of a tree to which a path leads. -/
def get? : Path → Tree → Option Tree
  | [], t => some t
  | s :: path, t => (t.child? s).bind (get? path)

/-! ### Changing a part -/

/-- Changes the entry with a name, which is made if it is not there. -/
def alterEntry (k : String) (f : Tree → Tree) : List (String × Tree) → List (String × Tree)
  | [] => [(k, f nothing)]
  | (k', t) :: entries =>
    if k' = k then (k', f t) :: entries else (k', t) :: alterEntry k f entries

/-- Changes an item; the list grows, at the end or in front, until it is there. -/
def alterItem (i : Int) (f : Tree → Tree) (items : List Tree) : List Tree :=
  match position? i items.length with
  | some n => (items ++ List.replicate (n + 1 - items.length) nothing).modify n f
  | none => (List.replicate (i.natAbs - items.length) nothing ++ items).modify 0 f

/-- Changes an entry of a table; what is no table gives way to one. -/
def alterKey (k : String) (f : Tree → Tree) : Tree → Tree
  | .table origin entries => .table origin (alterEntry k f entries)
  | _ => .table none (alterEntry k f [])

/-- Changes an item of a list; what is no list gives way to one. -/
def alterIndex (i : Int) (f : Tree → Tree) : Tree → Tree
  | .list origin items => .list origin (alterItem i f items)
  | _ => .list none (alterItem i f [])

/-- Changes the part to which a path leads. -/
def alter (f : Tree → Tree) : Path → Tree → Tree
  | [], t => f t
  | .key k :: path, t => t.alterKey k (alter f path)
  | .index i :: path, t => t.alterIndex i (alter f path)

/-! ### Laying one tree over another -/

/-- What takes the entries of a table: no value gives way to an empty table. -/
def ground : Tree → Tree
  | .scalar _ .nothing => root
  | t => t

mutual

/-- Lays a tree over another: the entries of a table one by one, anything else as a whole. -/
def overlay : Tree → Tree → Tree
  | .table _ entries, below => overlayEntries entries below.ground
  | .list origin items, _ => .list origin items
  | .scalar origin value, _ => .scalar origin value

/-- Lays the entries of a table over a tree. -/
def overlayEntries : List (String × Tree) → Tree → Tree
  | [], below => below
  | (k, t) :: entries, below => overlayEntries entries (below.alterKey k (overlay t))

end

end Tree

end Simulcast.Settings
