/-!
# Levels of the journal
-/

namespace Simulcast.Journal

/-- How much an entry of the journal matters. -/
inductive Level where
  /-- Each decision about a packet. -/
  | trace
  /-- Steps of interest to who looks for a defect. -/
  | debug
  /-- Changes of what is forwarded. -/
  | info
  /-- Requests that could not be met. -/
  | warn
  /-- Losses. -/
  | error
  deriving DecidableEq, Repr

namespace Level

/-- The level as a number, the least important first. -/
def weight : Level → Nat
  | .trace => 0
  | .debug => 1
  | .info => 2
  | .warn => 3
  | .error => 4

/-- The level as entries show it. -/
def label : Level → String
  | .trace => "TRACE"
  | .debug => "DEBUG"
  | .info => "INFO"
  | .warn => "WARN"
  | .error => "ERROR"

/-- The levels by the names that settings and directives use. -/
def names : List (String × Level) :=
  [("trace", .trace), ("debug", .debug), ("info", .info), ("warn", .warn), ("error", .error)]

end Level

end Simulcast.Journal
