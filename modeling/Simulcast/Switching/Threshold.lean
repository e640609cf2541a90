import Simulcast.Journal.Event
import Simulcast.Settings.Coercion
import Simulcast.Settings.Path
import Simulcast.Settings.Schema

/-!
# Where thresholds come from

An engine asks for its threshold once, by the key of the setting and with a default.
The answer may come with events for the journal.
-/

namespace Simulcast.Switching

/-- The answer to a look-up. -/
structure Answer where
  /-- The value. -/
  value : Int32
  /-- What the journal records. -/
  events : List Journal.Event := []
  deriving DecidableEq, Repr

/-- What answers look-ups of whole numbers by a key, with a default. -/
structure Thresholds where
  /-- The answer to a look-up. -/
  lookup : String → Int32 → Answer

/-- The packets of the next layer to be seen unless something else is said. -/
def defaultMinNextSeen : Int32 := ({} : Settings.Switching).minNextSeen

/-- The key of the number of packets of the next layer to be seen. -/
def minNextSeenKey : String := Settings.switchingName ++ "." ++ Settings.minNextSeenName

namespace Thresholds

/-- The look-up in given settings, which know one key. -/
def ofSettings (s : Settings.All) : Thresholds where
  lookup key default :=
    { value := if key = minNextSeenKey then s.switching.minNextSeen else default }

/-- The look-up that gives the same threshold under the one key. -/
def fixed (m : Int32) : Thresholds := ofSettings { switching := ⟨m⟩ }

/-- A value of a tree as the answer to a look-up. -/
def answerOf (key : String) (default : Int32) (t : Settings.Tree) : Answer :=
  match t.toWhole with
  | .ok n =>
    if Settings.fitsShort n then { value := .ofInt n }
    else { value := default, events := [.thresholdOutOfRange key n] }
  | .error m =>
    { value := default, events := [.thresholdInvalid key (.mismatch { m with key := key })] }

/-- The look-up in a tree of settings, by paths. -/
def ofTree (t : Settings.Tree) : Thresholds where
  lookup key default :=
    match Settings.Path.read? key with
    | some path => ((t.get? path).map (answerOf key default)).getD { value := default }
    | none => { value := default, events := [.thresholdInvalid key (.malformedKey key)] }

instance : Inhabited Thresholds := ⟨ofSettings {}⟩

end Thresholds

end Simulcast.Switching
