import Simulcast.Layer.Order

/-!
# When the next layer takes over

Each layer up roughly doubles the rate of packets. So that the time until the next
layer takes over is about the same for every order, the number of packets that must be
exceeded is scaled by two to the power of the order. It is computed in 64 bits and
stays at the ends of their range.
-/

namespace Simulcast.Switching

/-- A number brought into the range of 64 bits. -/
def saturate (n : Int) : Int64 :=
  .ofInt (max Int64.minValue.toInt (min Int64.maxValue.toInt n))

/-- Two to the power of an order, or the greatest number where that has no place in 64 bits. -/
def scale (o : Layer.Order) : Int64 :=
  if o.rank < 64 then
    let s := (1 : Int64) <<< Int64.ofNat o.rank.toNat
    if 0 < s then s else Int64.maxValue
  else Int64.maxValue

/-- The packets of the next layer that must be exceeded for it to take over. -/
def promotionThreshold (minNextSeen : Int32) (o : Layer.Order) : Int64 :=
  saturate (minNextSeen.toInt * (scale o).toInt)

/-- Whether the next layer takes over after a number of its packets. -/
def exceeds (seen : UInt32) (minNextSeen : Int32) (o : Layer.Order) : Bool :=
  promotionThreshold minNextSeen o < Int64.ofNat seen.toNat

/-- A count after one more, which stays at the greatest one. -/
def countUp (seen : UInt32) : UInt32 := if seen = 0xFFFFFFFF then seen else seen + 1

end Simulcast.Switching
