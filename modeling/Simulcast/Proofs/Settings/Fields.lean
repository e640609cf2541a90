import Simulcast.Proofs.Settings.Overlay

/-!
# The fields of the settings

The settings have five fields. They are taken from a tree field by field: each from what the path to
it leads to, or else it has its default (`Tree.toAll_eq_ok_iff`). A value that is put at the end of
the path to one field is no concern of the others (`Tree.get?_alter_path`).
-/

namespace Simulcast.Settings

/-! ### Fields -/

/-- A field of the settings. -/
inductive Field where
  /-- The packets of the next layer to be seen before it takes over. -/
  | minNextSeen
  /-- The least level that is written. -/
  | level
  /-- The format of an entry. -/
  | format
  /-- The file that entries are written to. -/
  | filePath
  /-- Whether each decision about a packet is written. -/
  | packetTrace
  deriving DecidableEq

namespace Field

/-- The name of the settings that the field is one of. -/
def group : Field → String
  | .minNextSeen => switchingName
  | .level | .format | .filePath | .packetTrace => loggingName

/-- The name of the field. -/
def name : Field → String
  | .minNextSeen => minNextSeenName
  | .level => levelName
  | .format => formatName
  | .filePath => filePathName
  | .packetTrace => packetTraceName

/-- The path to the field. -/
def path (v : Field) : Path := [.key v.group, .key v.name]

/-- The name of the variable that sets the field, in small letters. -/
def variableName : Field → String
  | .minNextSeen => "synctv__switching__min_next_seen"
  | .level => "synctv__logging__level"
  | .format => "synctv__logging__format"
  | .filePath => "synctv__logging__file_path"
  | .packetTrace => "synctv__logging__packet_trace"

/-- What the values of the field are. -/
def Value : Field → Type
  | .minNextSeen => Int32
  | .level | .format => String
  | .filePath => Option String
  | .packetTrace => Bool

/-- The default of the field. -/
def fallback : (v : Field) → v.Value
  | .minNextSeen => (125 : Int32)
  | .level => "info"
  | .format => "pretty"
  | .filePath => (none : Option String)
  | .packetTrace => false

/-- A tree taken as a value of the field. -/
def take : (v : Field) → Tree → Except Mismatch v.Value
  | .minNextSeen => Tree.toShort
  | .level | .format => Tree.toText
  | .filePath => Tree.toOption Tree.toText
  | .packetTrace => Tree.toBoolean

/-- The value of the field in settings. -/
def of (a : All) : (v : Field) → v.Value
  | .minNextSeen => a.switching.minNextSeen
  | .level => a.logging.level
  | .format => a.logging.format
  | .filePath => a.logging.filePath
  | .packetTrace => a.logging.packetTrace

/-- The settings with values for the fields. -/
def all (x : (v : Field) → v.Value) : All where
  switching := ⟨x .minNextSeen⟩
  logging := ⟨x .level, x .format, x .filePath, x .packetTrace⟩

@[simp] theorem of_all (x : (v : Field) → v.Value) (v : Field) : v.of (all x) = x v := by
  cases v <;> rfl

theorem path_inj {v w : Field} (group : w.group = v.group) (name : w.name = v.name) : w = v := by
  revert group name
  cases v <;> cases w <;> decide

theorem forall_iff {P : Field → Prop} :
    (∀ v, P v) ↔ P .minNextSeen ∧ P .level ∧ P .format ∧ P .filePath ∧ P .packetTrace := by
  constructor
  · exact fun all => ⟨all _, all _, all _, all _, all _⟩
  · rintro ⟨minNextSeen, level, format, filePath, packetTrace⟩ (_ | _ | _ | _ | _) <;> assumption

end Field

/-- A value is what is taken from a tree, and the default if there is none. -/
def Takes {α : Type} (take : Tree → Except Mismatch α) (default : α) : Option Tree → α → Prop
  | none, x => x = default
  | some t, x => take t = .ok x

/-- A value of a field is taken from what sets the field, if anything does. -/
def Field.Gives (v : Field) (source : Option Tree) (x : v.Value) : Prop :=
  Takes v.take v.fallback source x

/-! ### Taking the settings -/

namespace Tree

variable {t u : Tree}

theorem field_eq_ok_iff {α : Type} (table : t.isTable = true) {index : Nat} {name : String}
    {take : Tree → Except Mismatch α} {default a : α} :
    t.field index name take default = .ok a ↔ Takes take default (t.child? (.key name)) a := by
  obtain ⟨origin, entries, rfl⟩ := eq_table_of_isTable table
  simp only [field, child?]
  cases entries.lookup name with
  | none => exact ⟨fun taken => (Except.ok.inj taken).symm, fun unset => congrArg _ unset.symm⟩
  | some v => exact mapError_eq_ok_iff

theorem toSwitching_eq_ok_iff (table : t.isTable = true) {w : Switching} :
    t.toSwitching = .ok w ↔
      Takes toShort 125 (t.child? (.key minNextSeenName)) w.minNextSeen := by
  have fields : t.toSwitching = (do
      let minNextSeen ← t.field 0 minNextSeenName toShort 125
      .ok ⟨minNextSeen⟩) := by
    obtain ⟨origin, entries, rfl⟩ := eq_table_of_isTable table
    rfl
  simp only [fields, bind_eq_ok_iff, field_eq_ok_iff table, Except.ok.injEq]
  constructor
  · rintro ⟨_, takes, rfl⟩
    exact takes
  · exact fun takes => ⟨_, takes, rfl⟩

theorem toLogging_eq_ok_iff (table : t.isTable = true) {l : Logging} :
    t.toLogging = .ok l ↔
      Takes toText "info" (t.child? (.key levelName)) l.level ∧
      Takes toText "pretty" (t.child? (.key formatName)) l.format ∧
      Takes (toOption toText) none (t.child? (.key filePathName)) l.filePath ∧
      Takes toBoolean false (t.child? (.key packetTraceName)) l.packetTrace := by
  have fields : t.toLogging = (do
      let level ← t.field 0 levelName toText "info"
      let format ← t.field 1 formatName toText "pretty"
      let filePath ← t.field 2 filePathName (toOption toText) none
      let packetTrace ← t.field 3 packetTraceName toBoolean false
      .ok ⟨level, format, filePath, packetTrace⟩) := by
    obtain ⟨origin, entries, rfl⟩ := eq_table_of_isTable table
    rfl
  simp only [fields, bind_eq_ok_iff, field_eq_ok_iff table, Except.ok.injEq]
  constructor
  · rintro ⟨_, level, _, format, _, filePath, _, packetTrace, rfl⟩
    exact ⟨level, format, filePath, packetTrace⟩
  · rintro ⟨level, format, filePath, packetTrace⟩
    exact ⟨_, level, _, format, _, filePath, _, packetTrace, rfl⟩

/-- A tree is a table, and so are the settings of switching and those of the journal in it, if they
are there. -/
structure Grouped (t : Tree) : Prop where
  /-- The tree is a table. -/
  table : t.isTable = true
  /-- The settings in it are tables. -/
  groups : ∀ (v : Field) (u : Tree), t.child? (.key v.group) = some u → u.isTable = true

theorem get?_path (v : Field) (t : Tree) :
    t.get? v.path = (t.child? (.key v.group)).bind fun u => u.child? (.key v.name) := by
  simp only [Field.path, get?, Option.bind_fun_some]

/-- The settings of switching are taken if their field is, -/
theorem takes_toSwitching_iff (grouped : t.Grouped) {w : Switching} :
    Takes toSwitching {} (t.child? (.key switchingName)) w ↔
      Field.Gives .minNextSeen (t.get? (Field.path .minNextSeen)) w.minNextSeen := by
  simp only [get?_path, Field.Gives, Field.group, Field.name, Field.take, Field.fallback]
  cases entry : t.child? (.key switchingName) with
  | none => exact ⟨congrArg Switching.minNextSeen, congrArg Switching.mk⟩
  | some u => exact toSwitching_eq_ok_iff (grouped.groups .minNextSeen u entry)

/-- and those of the journal if their four fields are. -/
theorem takes_toLogging_iff (grouped : t.Grouped) {l : Logging} :
    Takes toLogging {} (t.child? (.key loggingName)) l ↔
      Field.Gives .level (t.get? (Field.path .level)) l.level ∧
      Field.Gives .format (t.get? (Field.path .format)) l.format ∧
      Field.Gives .filePath (t.get? (Field.path .filePath)) l.filePath ∧
      Field.Gives .packetTrace (t.get? (Field.path .packetTrace)) l.packetTrace := by
  simp only [get?_path, Field.Gives, Field.group, Field.name, Field.take, Field.fallback]
  cases entry : t.child? (.key loggingName) with
  | none =>
    simp only [Takes, Option.bind_none]
    constructor
    · rintro rfl
      exact ⟨rfl, rfl, rfl, rfl⟩
    · obtain ⟨level, format, filePath, packetTrace⟩ := l
      rintro ⟨rfl, rfl, rfl, rfl⟩
      rfl
  | some u => exact toLogging_eq_ok_iff (grouped.groups .level u entry)

/-- **The settings are taken from a tree field by field.** -/
theorem toAll_eq_ok_iff (grouped : t.Grouped) {a : All} :
    t.toAll = .ok a ↔ ∀ v : Field, v.Gives (t.get? v.path) (v.of a) := by
  have fields : t.toAll = (do
      let switching ← t.field 0 switchingName toSwitching {}
      let logging ← t.field 1 loggingName toLogging {}
      .ok ⟨switching, logging⟩) := by
    obtain ⟨origin, entries, rfl⟩ := eq_table_of_isTable grouped.table
    rfl
  rw [Field.forall_iff, fields]
  simp only [bind_eq_ok_iff, field_eq_ok_iff grouped.table, takes_toSwitching_iff grouped,
    takes_toLogging_iff grouped, Except.ok.injEq]
  constructor
  · rintro ⟨_, switching, _, logging, rfl⟩
    exact ⟨switching, logging⟩
  · rintro ⟨switching, logging⟩
    exact ⟨_, switching, _, logging, rfl⟩

/-! ### Paths to fields -/

/-- A value that is put at the end of the path to a field is there afterwards, and the other fields
are left as they are. -/
theorem get?_alter_path (v w : Field) (f : Tree → Tree) (t : Tree) :
    (t.alter f v.path).get? w.path =
      if w = v then some (f ((t.get? v.path).getD nothing)) else t.get? w.path := by
  have steps : t.alter f v.path = t.alterKey v.group (alterKey v.name f) := rfl
  rw [steps, get?_path, get?_path, get?_path, child?_alterKey]
  by_cases group : w.group = v.group
  · rw [if_pos group, Option.bind_some, child?_alterKey, child?_getD_nothing, child?_getD_nothing,
      ← group]
    by_cases name : w.name = v.name
    · rw [if_pos name, if_pos (Field.path_inj group name)]
    · rw [if_neg name, if_neg fun same => name (congrArg Field.name same)]
  · rw [if_neg group, if_neg fun same => group (congrArg Field.group same)]

theorem Grouped.alter_path (grouped : t.Grouped) (v : Field) (f : Tree → Tree) :
    (t.alter f v.path).Grouped where
  table := isTable_alterKey ..
  groups := by
    intro w u entry
    have steps : t.alter f v.path = t.alterKey v.group (alterKey v.name f) := rfl
    rw [steps, child?_alterKey] at entry
    split at entry
    · obtain rfl := Option.some.inj entry
      exact isTable_alterKey ..
    · exact grouped.groups w u entry

end Tree

end Simulcast.Settings
