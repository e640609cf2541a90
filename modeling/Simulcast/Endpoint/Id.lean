import Simulcast.Json.Wire

/-!
# Names of endpoints
-/

namespace Simulcast.Endpoint

/-- The name of a participant of a conference. -/
structure Id where
  /-- The name as text. -/
  text : String
  deriving DecidableEq, Repr, Inhabited

instance : Wire Id where
  encode i := .text i.text
  reader := Wire.reader String
  decode? j := (Wire.decode? j).map Id.mk

end Simulcast.Endpoint
