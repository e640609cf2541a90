import Mathlib.Algebra.Group.Int.Defs
import Mathlib.Algebra.Group.Nat.Defs
import Simulcast.Switching.Promotion

/-!
# The threshold over the integers

The number of packets that must be exceeded is computed in 64 bits, and the packets are counted
in 32 bits. `exceeds_iff` says that the comparison comes out as it would over the integers,
and `toNat_countUp` that the count is exact until it stops at the greatest word. The threshold that
is computed is not always the exact one: `saturation_harmless` says how far it is, and that
the decision does not depend on the rest.
-/

namespace Simulcast.Switching

/-- The greatest number of packets that is counted. -/
def greatestCount : Nat := 2 ^ 32 - 1

/-- The packets of a layer that must be exceeded, over the integers. -/
def exactThreshold (minNextSeen : Int32) (o : Layer.Order) : Int :=
  minNextSeen.toInt * 2 ^ o.rank.toNat

/-! ### The scale -/

theorem toInt_shift : ∀ n : Fin 63, ((1 : Int64) <<< Int64.ofNat n.val).toInt = 2 ^ n.val := by
  decide

/-- Where the power has a place in 64 bits, it is the scale. -/
theorem toInt_scale_of_lt {o : Layer.Order} (h : o.rank.toNat < 63) :
    (scale o).toInt = 2 ^ o.rank.toNat := by
  have shift := toInt_shift ⟨o.rank.toNat, h⟩
  have small : o.rank < 64 := UInt8.lt_iff_toNat_lt.2 (Nat.lt_trans h (by decide))
  have positive : 0 < (1 : Int64) <<< Int64.ofNat o.rank.toNat := by
    rw [Int64.lt_iff_toInt_lt, shift]
    exact Int.pow_pos (by decide)
  rw [scale, if_pos small]
  simp only [positive, if_true]
  exact shift

/-- Where it has none, the scale is the greatest number. -/
theorem toInt_scale_of_le {o : Layer.Order} (h : 63 ≤ o.rank.toNat) :
    (scale o).toInt = 2 ^ 63 - 1 := by
  unfold scale
  split
  · -- of the orders below 64 only the last one is left, whose power is the sign bit
    rename_i small
    have last : o.rank.toNat = 63 := by
      have := UInt8.lt_iff_toNat_lt.1 small
      have : (64 : UInt8).toNat = 64 := rfl
      omega
    rw [last]
    decide
  · decide

/-! ### The comparison -/

/-- A number brought into the range of 64 bits is below a count if and only if it was before. -/
theorem toInt_saturate_lt_iff (n : Int) {count : Nat} (h : count ≤ greatestCount) :
    (saturate n).toInt < count ↔ n < count := by
  have least : Int64.minValue.toInt = -2 ^ 63 := by decide
  have greatest : Int64.maxValue.toInt = 2 ^ 63 - 1 := by decide
  unfold greatestCount at h
  rw [saturate, least, greatest, Int64.toInt_ofInt_of_le (by omega) (by omega)]
  omega

/-- A multiple of a power that is out of range is below a count if and only if the multiple of the
greatest number is: the factor is not positive. -/
theorem mul_lt_iff_of_large (m : Int) {count : Nat} (h : count ≤ greatestCount) {a b : Int}
    (ha : 2 ^ 62 ≤ a) (hb : 2 ^ 62 ≤ b) : m * a < count ↔ m * b < count := by
  unfold greatestCount at h
  obtain negative | zero | positive := Int.lt_trichotomy m 0
  · have := Int.mul_neg_of_neg_of_pos negative (show 0 < a by omega)
    have := Int.mul_neg_of_neg_of_pos negative (show 0 < b by omega)
    omega
  · rw [zero, Int.zero_mul, Int.zero_mul]
  · have := Int.mul_le_mul_of_nonneg_right (show 1 ≤ m by omega) (show 0 ≤ a by omega)
    have := Int.mul_le_mul_of_nonneg_right (show 1 ≤ m by omega) (show 0 ≤ b by omega)
    omega

theorem toNat_le_greatestCount (seen : UInt32) : seen.toNat ≤ greatestCount :=
  Nat.le_pred_of_lt seen.toNat_lt

/-- **The comparison is exact**: neither the shift nor the product in 64 bits changes it. -/
theorem exceeds_iff (seen : UInt32) (minNextSeen : Int32) (o : Layer.Order) :
    exceeds seen minNextSeen o = true ↔ exactThreshold minNextSeen o < seen.toNat := by
  have count := toNat_le_greatestCount seen
  have seenInt : (Int64.ofNat seen.toNat).toInt = seen.toNat :=
    Int64.toInt_ofNat_of_lt (Nat.lt_of_le_of_lt count (by decide))
  rw [exceeds, decide_eq_true_iff, Int64.lt_iff_toInt_lt, seenInt, promotionThreshold,
    toInt_saturate_lt_iff _ count, exactThreshold]
  by_cases h : o.rank.toNat < 63
  · rw [toInt_scale_of_lt h]
  · have power : (2 : Int) ^ 62 ≤ 2 ^ o.rank.toNat := by
      exact_mod_cast Nat.pow_le_pow_right (n := 2) (by decide) (show 62 ≤ o.rank.toNat by omega)
    rw [toInt_scale_of_le (Nat.le_of_not_lt h)]
    exact mul_lt_iff_of_large _ count (by decide) power

/-! ### The threshold -/

/-- A number that is not negative is brought into the range of 64 bits from above only. -/
theorem toInt_saturate_of_nonneg {n : Int} (h : 0 ≤ n) :
    (saturate n).toInt = min n (2 ^ 63 - 1) := by
  have least : Int64.minValue.toInt = -2 ^ 63 := by decide
  have greatest : Int64.maxValue.toInt = 2 ^ 63 - 1 := by decide
  rw [saturate, least, greatest, Int64.toInt_ofInt_of_le (by omega) (by omega)]
  omega

/-- **A threshold that is not negative is exact or the greatest number.** Where the power has no
place in 64 bits, the greatest number stands for it; a positive multiple of either is out
of range, and zero stays zero. -/
theorem toInt_promotionThreshold {minNextSeen : Int32} (o : Layer.Order)
    (h : 0 ≤ minNextSeen.toInt) :
    (promotionThreshold minNextSeen o).toInt =
      min (exactThreshold minNextSeen o) (2 ^ 63 - 1) := by
  unfold promotionThreshold exactThreshold
  by_cases fits : o.rank.toNat < 63
  · rw [toInt_scale_of_lt fits]
    exact toInt_saturate_of_nonneg (Int.mul_nonneg h (Int.le_of_lt (Int.pow_pos (by decide))))
  · have power : (2 : Int) ^ 63 ≤ 2 ^ o.rank.toNat := by
      exact_mod_cast Nat.pow_le_pow_right (n := 2) (by decide) (Nat.le_of_not_lt fits)
    rw [toInt_scale_of_le (Nat.le_of_not_lt fits),
      toInt_saturate_of_nonneg (Int.mul_nonneg h (by decide))]
    rcases Int.le_iff_eq_or_lt.1 h with zero | positive
    · rw [← zero, Int.zero_mul, Int.zero_mul]
    · have computed := Int.mul_le_mul_of_nonneg_right (show 1 ≤ minNextSeen.toInt by omega)
        (show 0 ≤ (2 : Int) ^ 63 - 1 by decide)
      have exact := Int.mul_le_mul_of_nonneg_right (show 1 ≤ minNextSeen.toInt by omega)
        (show 0 ≤ (2 : Int) ^ o.rank.toNat by omega)
      omega

/-- **Saturation changes no decision.** The next layer takes over after a number of its packets if
and only if this number exceeds, over the integers, the threshold times two to the power of
the order: whether the shift fails, whether it runs into the sign, and at whichever end the product
stays. The product itself is the exact one up to the greatest number of 64 bits, if the threshold is
not negative. -/
theorem saturation_harmless (seen : UInt32) (minNextSeen : Int32) (o : Layer.Order) :
    (exceeds seen minNextSeen o = true ↔
        (seen.toNat : Int) > minNextSeen.toInt * 2 ^ o.rank.toNat) ∧
      (0 ≤ minNextSeen.toInt →
        (promotionThreshold minNextSeen o).toInt =
          min (minNextSeen.toInt * 2 ^ o.rank.toNat) (2 ^ 63 - 1)) :=
  ⟨exceeds_iff seen minNextSeen o, toInt_promotionThreshold o⟩

/-- At the order whose power is the sign bit, the threshold falls short of the exact one by one, and
the greatest count does not exceed it all the same. -/
theorem threshold_at_sign_bit :
    0 ≤ (1 : Int32).toInt ∧ (promotionThreshold 1 ⟨63⟩).toInt = 2 ^ 63 - 1 ∧
      exceeds 0xFFFFFFFF 1 ⟨63⟩ = false := by
  have sign : 0 ≤ (1 : Int32).toInt := by decide
  obtain ⟨decision, threshold⟩ := saturation_harmless 0xFFFFFFFF 1 ⟨63⟩
  refine ⟨sign, ?_, ?_⟩
  · rw [threshold sign]
    decide
  · rw [← Bool.not_eq_true, decision]
    decide

/-! ### The count -/

/-- A count goes up by one, unless it is at the greatest one. -/
theorem toNat_countUp (seen : UInt32) :
    (countUp seen).toNat = min (seen.toNat + 1) greatestCount := by
  have bound := toNat_le_greatestCount seen
  have greatest : (0xFFFFFFFF : UInt32).toNat = greatestCount := rfl
  unfold countUp
  split
  · rename_i full
    rw [full, greatest]
    omega
  · rename_i room
    have below : seen.toNat ≠ greatestCount := fun e => room (UInt32.toNat_inj.1 (e.trans greatest))
    have one : (1 : UInt32).toNat = 1 := rfl
    unfold greatestCount at *
    rw [UInt32.toNat_add, one]
    omega

end Simulcast.Switching
