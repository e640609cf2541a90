import Simulcast.Journal.Filter
import Simulcast.Journal.Line
import Simulcast.Settings.Schema
import Simulcast.Text.LowerCase

/-!
# Setting up the journal

The settings name the least level that is written and the format. A text of directives,
if there is one that can be read, takes the place of the level; the switch for
decisions about packets adds a directive of its own to either.
-/

namespace Simulcast.Journal

/-- Why the journal cannot be set up. -/
inductive SetupFault where
  /-- No level has the name. -/
  | unknownLevel (name : String)
  /-- The file cannot be opened. -/
  | unreachableFile
  deriving DecidableEq, Repr

/-- The wording of a fault. -/
def SetupFault.message : SetupFault → String
  | .unknownLevel name => "Invalid log level: " ++ name
  | .unreachableFile => "the file cannot be opened"

/-- The level that settings name, in letters of either case. -/
def settingLevel? (name : String) : Option Level :=
  (Level.names ++ [("warning", Level.warn)]).lookup (Text.LowerCase.text name)

/-- The directive that writes each decision about a packet. -/
def packetDirective : Directive := { target := some Topic.engine.path, limit := .everything }

/-- The directive that writes each decision about a packet, as text. -/
def packetDirectiveText : String := Topic.engine.path ++ "=trace"

/-- How the journal is written. -/
structure Setup where
  /-- What is left out. -/
  filter : Filter
  /-- Whether entries are written as objects. -/
  asDocuments : Bool
  deriving DecidableEq, Repr

/-- The filter for a level of the settings and a text of directives. -/
def filterFor (level : Level) (directives : Option String) : Filter :=
  (directives.bind Filter.read?).getD (.ofDirectives [{ target := none, limit := .atLeast level }])

/-- Sets up the journal. -/
def setup (s : Settings.Logging) (directives : Option String) : Except SetupFault Setup :=
  match settingLevel? s.level with
  | none => .error (.unknownLevel s.level)
  | some level =>
    let filter := filterFor level directives
    .ok
      { filter := if s.packetTrace then filter.add packetDirective else filter
        asDocuments := s.format = "json" }

namespace Setup

/-- An entry that is not left out. -/
def admits (u : Setup) (e : Entry) : Bool := u.filter.admits e.topic.path e.names e.level

/-- An entry as it is written. -/
def write (u : Setup) (e : Entry) : Json :=
  if u.asDocuments then e.document else .text e.line

/-- What is written of events, in order. -/
def lines (u : Setup) (events : List Event) : List Json :=
  ((events.map Event.entry).filter u.admits).map u.write

end Setup

/-! ### Files -/

/-- The greatest number of bytes in the name of a file. -/
def greatestName : Nat := 255

/-- The greatest number of bytes in a path. -/
def greatestPath : Nat := 4095

/-- Whether a path names a file of the working directory: before its last part it has none but
`.`, and the last part is a name, in which the character zero has no place. -/
def isInWorkingDirectory (path : String) : Bool :=
  let parts := path.toList.splitOn '/'
  match parts.reverse with
  | [] => false
  | name :: before =>
    name ≠ [] && name ≠ ['.'] && name ≠ ['.', '.'] && !name.contains (Char.ofNat 0)
      && (String.ofList name).utf8ByteSize ≤ greatestName && path.utf8ByteSize ≤ greatestPath
      && parts.head? ≠ some []
      && before.all fun p => p = [] || p = ['.']

/-- Sets up the journal in an empty working directory, opening its file if there is one. -/
def setupWithFile (s : Settings.Logging) (directives : Option String) :
    Except SetupFault Setup := do
  let u ← setup s directives
  if s.filePath.all isInWorkingDirectory then pure u else throw .unreachableFile

end Simulcast.Journal
