import Simulcast.Settings.Coercion
import Simulcast.Settings.Document
import Simulcast.Settings.Environment
import Simulcast.Settings.Layering
import Simulcast.Settings.Schema

/-!
# Loading settings

A file comes first and the variables of the environment lie over it. The entries of
one source are laid over each other in some order, which is another one every time that the
sources are merged. The settings are taken from the tree field by field: each from its own
value, or else its default.
-/

namespace Simulcast.Settings

/-! ### Records -/

namespace Tree

/-- One field of a record in a tree. A table has it by its name, a list by its position; without it,
the field has its default. -/
def field {α : Type} (t : Tree) (index : Nat) (name : String)
    (take : Tree → Except Mismatch α) (default : α) : Except Mismatch α :=
  let step := "[" ++ Text.Numeral.text index ++ "]"
  match t with
  | .table _ entries =>
    match entries.lookup name with
    | some v => (take v).mapError (·.under name)
    | none => .ok default
  | .list _ items =>
    match items[index]? with
    | some v => (take v).mapError (·.under step)
    | none => .ok default
  | .scalar _ _ => .ok default

/-- Refuses a scalar in place of a record. -/
def checkRecord (record : String) : Tree → Except Mismatch Unit
  | .scalar _ value => .error { found := .scalar value, expected := .record record }
  | _ => .ok ()

/-- The settings of switching in a tree. -/
def toSwitching (t : Tree) : Except Mismatch Switching := do
  let d : Switching := {}
  t.checkRecord "SwitchingConfig"
  pure { minNextSeen := ← t.field 0 minNextSeenName toShort d.minNextSeen }

/-- The settings of the journal in a tree. -/
def toLogging (t : Tree) : Except Mismatch Logging := do
  let d : Logging := {}
  t.checkRecord "LoggingConfig"
  pure
    { level := ← t.field 0 levelName toText d.level
      format := ← t.field 1 formatName toText d.format
      filePath := ← t.field 2 filePathName (toOption toText) d.filePath
      packetTrace := ← t.field 3 packetTraceName toBoolean d.packetTrace }

/-- All settings in a tree. -/
def toAll (t : Tree) : Except Mismatch All := do
  let d : All := {}
  t.checkRecord "SimulcastConfig"
  pure
    { switching := ← t.field 0 switchingName toSwitching d.switching
      logging := ← t.field 1 loggingName toLogging d.logging }

end Tree

/-! ### The order of entries -/

/-- An order for the entries of a source, which have none of their own. -/
structure Arrangement where
  /-- The entries in that order. -/
  arrange : List (String × Tree) → List (String × Tree)
  /-- They are the same ones. -/
  perm : ∀ entries, (arrange entries).Perm entries

/-- The order in which the entries are given. -/
def Arrangement.asGiven : Arrangement := ⟨id, List.Perm.refl⟩

/-- The orders in which the entries of the sources come when they are merged. -/
structure Build where
  /-- The order for the file. -/
  file : Arrangement := .asGiven
  /-- The order for the variables. -/
  environment : Arrangement := .asGiven

/-! ### Sources -/

/-- The sources of settings. -/
structure Sources where
  /-- The file, if there is one. -/
  file : Option File := none
  /-- The variables of the environment, with their texts. -/
  environment : List (String × String) := []
  deriving DecidableEq, Repr

namespace Sources

/-- The sources if a file is asked for by its name, of which the disk has the text if it is there. A
file that is not there is not a source. -/
def ofName (disk : String → Option String) (name : Option String)
    (environment : List (String × String)) : Sources where
  file := name.bind fun n => (disk n).map (⟨n, ·⟩)
  environment := environment

/-- What the file says, if there is one. -/
def fileEntries (s : Sources) : Except Fault (List (String × Tree)) :=
  match s.file with
  | some f => f.entries
  | none => .ok []

/-- The tree of what the sources say. -/
def tree (s : Sources) (b : Build := {}) : Except Fault Tree := do
  let entries ← s.fileEntries
  let t := Tree.root.putAll (b.file.arrange entries)
  pure (t.putAll (b.environment.arrange (Environment.entries s.environment)))

/-- The settings that the sources give. -/
def load (s : Sources) (b : Build := {}) : Except Fault All := do
  let t ← s.tree b
  t.toAll.mapError .mismatch

end Sources

end Simulcast.Settings
