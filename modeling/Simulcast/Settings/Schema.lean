import Simulcast.Json.Wire

/-!
# The settings

The settings of switching and of the journal, with their defaults and their JSON form.
A setting that a document leaves out has its default.
-/

namespace Simulcast.Settings

/-- The settings of switching. -/
structure Switching where
  /-- The packets of the next layer to be seen before it takes over. -/
  minNextSeen : Int32 := 125
  deriving DecidableEq, Repr, Inhabited

/-- The settings of the journal. -/
structure Logging where
  /-- The least level that is written. -/
  level : String := "info"
  /-- The format of an entry. -/
  format : String := "pretty"
  /-- The file that entries are written to, if not to the screen. -/
  filePath : Option String := none
  /-- Whether each decision about a packet is written. -/
  packetTrace : Bool := false
  deriving DecidableEq, Repr, Inhabited

/-- All settings. -/
structure All where
  /-- The settings of switching. -/
  switching : Switching := {}
  /-- The settings of the journal. -/
  logging : Logging := {}
  deriving DecidableEq, Repr, Inhabited

/-! ### Names -/

/-- The name of the settings of switching. -/
def switchingName : String := "switching"

/-- The name of the settings of the journal. -/
def loggingName : String := "logging"

/-- The name of the number of packets to be seen. -/
def minNextSeenName : String := "min_next_seen"

/-- The name of the least level. -/
def levelName : String := "level"

/-- The name of the format. -/
def formatName : String := "format"

/-- The name of the file. -/
def filePathName : String := "file_path"

/-- The name of the switch for decisions. -/
def packetTraceName : String := "packet_trace"

/-! ### JSON forms -/

instance : Wire Switching where
  encode s := .object [(minNextSeenName, Wire.encode s.minNextSeen)]
  reader := .record "SwitchingConfig"
    [Wire.defaulted minNextSeenName (Wire.reader Int32)
      (Wire.encode ({} : Switching).minNextSeen)]
  decode?
    | .list [minNextSeen] => do pure ⟨← Wire.decode? minNextSeen⟩
    | _ => none

/-- The values of the fields of the settings of the journal, as the reader gives them. -/
def Logging.values (l : Logging) : List Json :=
  [Wire.encode l.level, Wire.encode l.format, Json.ofOption Wire.encode l.filePath,
    Wire.encode l.packetTrace]

instance : Wire Logging where
  encode l := .object
    [(levelName, Wire.encode l.level), (formatName, Wire.encode l.format),
      (filePathName, Json.ofOption Wire.encode l.filePath),
      (packetTraceName, Wire.encode l.packetTrace)]
  reader :=
    let d : Logging := {}
    .record "LoggingConfig"
      [Wire.defaulted levelName (Wire.reader String) (Wire.encode d.level),
        Wire.defaulted formatName (Wire.reader String) (Wire.encode d.format),
        Wire.defaulted filePathName (.optional (Wire.reader String)) .null,
        Wire.defaulted packetTraceName (Wire.reader Bool) (Wire.encode d.packetTrace)]
  decode?
    | .list [level, format, filePath, packetTrace] => do
      pure ⟨← Wire.decode? level, ← Wire.decode? format, ← Wire.decodeOption? filePath,
        ← Wire.decode? packetTrace⟩
    | _ => none

instance : Wire All where
  encode a := .object
    [(switchingName, Wire.encode a.switching), (loggingName, Wire.encode a.logging)]
  reader :=
    let d : All := {}
    .record "SimulcastConfig"
      [Wire.defaulted switchingName (Wire.reader Switching)
          (.list [Wire.encode d.switching.minNextSeen]),
        Wire.defaulted loggingName (Wire.reader Logging) (.list d.logging.values)]
  decode?
    | .list [switching, logging] => do
      pure ⟨← Wire.decode? switching, ← Wire.decode? logging⟩
    | _ => none

end Simulcast.Settings
