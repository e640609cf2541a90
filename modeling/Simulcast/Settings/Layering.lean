import Simulcast.Settings.Fault
import Simulcast.Settings.Path

/-!
# Sources of settings, one over the other

A source names values by keys. A key that is a path leads into the tree; any other key
is the name of an entry of the root. What a later source says lies over what an earlier
one said.
-/

namespace Simulcast.Settings.Tree

/-- Lays a value over what a key names. -/
def put (t : Tree) (key : String) (value : Tree) : Tree :=
  t.alter value.overlay (Path.ofKey key)

/-- Lays the values of a source over a tree, in order. -/
def putAll (t : Tree) (source : List (String × Tree)) : Tree :=
  source.foldl (fun t e => t.put e.1 e.2) t

/-- Gives a path its value, in place of an earlier one. -/
def assign (source : List (Path × Tree)) (e : Path × Tree) : List (Path × Tree) :=
  if source.any fun f => f.1 = e.1 then source.map fun f => if f.1 = e.1 then e else f
  else source ++ [e]

/-- A value with its key, which must be a path. -/
def withPath (e : String × Tree) : Except Fault (Path × Tree) :=
  match Path.read? e.1 with
  | some path => .ok (path, e.2)
  | none => .error (.malformedKey e.1)

/-- The tree of values given by their keys, of which the last one for a path counts. -/
def ofOverrides (source : List (String × Tree)) : Except Fault Tree := do
  let source ← source.mapM withPath
  pure ((source.foldl assign []).foldl (fun t e => t.alter e.2.overlay e.1) root)

end Simulcast.Settings.Tree
