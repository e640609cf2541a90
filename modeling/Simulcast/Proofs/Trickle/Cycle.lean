import Simulcast.Trickle.Ledger

/-!
# What the counters of sources say

`Ledger.Counted l source d` says that `d` packets of a source were counted since it was last
forgotten: there is no counter as long as there was no packet, and after `d + 1` packets the
counter stands at `d % 2048`. Counting one more packet of the source moves to `d + 1` and leaves
all other sources alone (`counted_advance`).
-/

namespace Simulcast.Trickle

/-- The counter of a source after a number of packets, if it has one by then. -/
def counterAfter : Nat → Option Counter
  | 0 => none
  | d + 1 => some ⟨cycle, UInt32.ofNat (d % 2048)⟩

section Steps

variable {bound : UInt32} (positive : 0 < bound)
include positive

/-- A step leads from one residue of the bound to the next, and nothing overflows on the way. -/
theorem step_residue (d : Nat) :
    (Counter.mk bound (UInt32.ofNat (d % bound.toNat))).step =
      ⟨bound, UInt32.ofNat ((d + 1) % bound.toNat)⟩ := by
  have nonzero : 0 < bound.toNat := positive
  have width := bound.toNat_lt
  have below := Nat.mod_lt d nonzero
  have value : (UInt32.ofNat (d % bound.toNat) + 1) % bound =
      UInt32.ofNat ((d + 1) % bound.toNat) := by
    apply UInt32.toNat_inj.1
    have one : (1 : UInt32).toNat = 1 := rfl
    have next := Nat.mod_lt (d + 1) nonzero
    rw [UInt32.toNat_mod, UInt32.toNat_add, UInt32.toNat_ofNat', UInt32.toNat_ofNat', one,
      Nat.mod_eq_of_lt (show d % bound.toNat < 2 ^ 32 by omega),
      Nat.mod_eq_of_lt (show (d + 1) % bound.toNat < 2 ^ 32 by omega),
      Nat.mod_eq_of_lt (show d % bound.toNat + 1 < 2 ^ 32 by omega), Nat.mod_add_mod]
  simp only [Counter.step, value]

/-- A new counter is one step before zero. -/
theorem new_step : (Counter.new bound).step = ⟨bound, UInt32.ofNat (0 % bound.toNat)⟩ := by
  have nonzero : 0 < bound.toNat := positive
  have value : (bound - 1 + 1) % bound = UInt32.ofNat (0 % bound.toNat) := by
    apply UInt32.toNat_inj.1
    rw [UInt32.sub_add_cancel, UInt32.toNat_mod, Nat.mod_self, Nat.zero_mod]
    rfl
  simp only [Counter.new, Counter.step, value]

end Steps

/-- A counter that stands at a residue lets the packet through that led to it, or not. -/
theorem residue_lt_admitted (d : Nat) : UInt32.ofNat (d % 2048) < admitted ↔ d % 2048 < 8 := by
  have eight : admitted.toNat = 8 := rfl
  rw [UInt32.lt_iff_toNat_lt, UInt32.toNat_ofNat', eight]
  omega

namespace Ledger

variable {l : Ledger} {source other : Source} {d : Nat}

/-- A number of packets of a source were counted since it was last forgotten. -/
def Counted (l : Ledger) (source : Source) (d : Nat) : Prop :=
  (l.get? source).map (·.counter) = counterAfter d

/-- Counts a packet of a source, which gets a counter if it has none. -/
def advance (source : Source) (l : Ledger) : Ledger := (l.ensure source cycle).step source

/-- The account of a source is its own. -/
theorem source_of_get? {a : Account} (h : l.get? source = some a) : a.source = source := by
  have found := List.find?_some h
  exact eq_of_beq found

theorem contains_iff : l.contains source = (l.get? source).isSome := rfl

/-- Counting a packet of one source leaves the account of another one as it was. -/
theorem get?_advance_of_ne (h : other ≠ source) :
    (l.advance source).get? other = l.get? other := by
  rw [advance, get?_step, get?_ensure, if_neg (by simp [Ne.symm h])]
  cases ha : l.get? other with
  | none => rfl
  | some a => simp [source_of_get? ha, h]

theorem counted_advance_of_ne (h : other ≠ source) :
    (l.advance source).Counted other d ↔ l.Counted other d := by
  rw [Counted, Counted, get?_advance_of_ne h]

/-- Counting a packet of a source counts one more. -/
theorem counted_advance (h : l.Counted source d) : (l.advance source).Counted source (d + 1) := by
  unfold Counted at h ⊢
  rw [advance, get?_step, get?_ensure]
  have positive : 0 < cycle := by decide
  cases d with
  | zero =>
    -- the source has no counter yet
    have vacant : l.get? source = none := by simpa [counterAfter] using h
    simp [contains_iff, vacant, new_step positive, counterAfter]
  | succ d =>
    have next : (Counter.mk cycle (UInt32.ofNat (d % 2048))).step =
        ⟨cycle, UInt32.ofNat ((d + 1) % 2048)⟩ := step_residue positive d
    obtain ⟨a, ha, hc⟩ := Option.map_eq_some_iff.1 h
    simp [contains_iff, ha, source_of_get? ha, hc, next, counterAfter]

/-- A packet that was just counted passes at the beginning of a cycle. -/
theorem passes_of_counted (h : l.Counted source (d + 1)) :
    (l.get? source).any (fun a => a.counter.value < admitted) = true ↔ d % 2048 < 8 := by
  obtain ⟨a, ha, hc⟩ := Option.map_eq_some_iff.1 h
  rw [ha, Option.any_some, decide_eq_true_iff, hc]
  exact residue_lt_admitted d

/-- A source that is forgotten starts over, -/
theorem counted_erase : (l.erase source).Counted source 0 := by
  rw [Counted, get?_erase, if_pos rfl]
  rfl

/-- and the others do not notice. -/
theorem counted_erase_of_ne (h : other ≠ source) :
    (l.erase source).Counted other d ↔ l.Counted other d := by
  rw [Counted, Counted, get?_erase, if_neg h]

/-- A source without an account was not counted. -/
theorem counted_zero_iff : l.Counted source 0 ↔ l.contains source = false := by
  simp [Counted, counterAfter, contains_iff]

end Ledger

end Simulcast.Trickle
