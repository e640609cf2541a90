import Simulcast.Json.Wire

/-!
# The order of layers

The layers of a sender are ranked by quality; a layer of lower order is more degraded.
The layers of order zero can always be switched to.
-/

namespace Simulcast.Layer

/-- The rank of a layer. -/
structure Order where
  /-- The rank as a number. -/
  rank : UInt8
  deriving DecidableEq, Repr, Inhabited

namespace Order

/-- The order of the most degraded layers. -/
def lowest : Order := ⟨0⟩

/-- Whether this is the order of the most degraded layers. -/
def isLowest (o : Order) : Bool := o == lowest

instance : Ord Order where
  compare a b := compare a.rank b.rank

/-- The higher of two orders. -/
def higher (a b : Order) : Order := if a.rank < b.rank then b else a

/-- The order as text. -/
def text (o : Order) : String := Text.Numeral.text o.rank.toNat

instance : Wire Order where
  encode o := Wire.encode o.rank
  reader := Wire.reader UInt8
  decode? j := (Wire.decode? j).map Order.mk

end Order

end Simulcast.Layer
