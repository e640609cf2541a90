import Simulcast.Text.Numeral

/-!
# Handles

A handle names an entry of a roster by the index of its slot and the generation in
which the slot holds it. Generations start at one and never become zero, so that a
handle packs into a 64-bit word that is not zero, and zero can mean that there is no
handle.
-/

namespace Simulcast

/-- The generation of a slot, which is never zero. -/
structure Generation where
  /-- The generation as a number. -/
  number : UInt32
  /-- A generation is not zero. -/
  number_ne_zero : number ≠ 0
  deriving DecidableEq, Repr

namespace Generation

/-- The generation of a new slot. -/
def first : Generation := ⟨1, by decide⟩

instance : Inhabited Generation := ⟨first⟩

/-- The generation after another one; the greatest is followed by the first. -/
def next (g : Generation) : Generation :=
  if h : g.number + 1 ≠ 0 then ⟨g.number + 1, h⟩ else first

end Generation

/-- The name of an entry of a roster. -/
structure Handle where
  /-- The index of the slot. -/
  index : UInt32
  /-- The generation of the slot that holds the entry. -/
  generation : Generation
  deriving DecidableEq, Repr, Inhabited

namespace Handle

/-- The handle as a word: the generation in the upper half, the index in the lower. -/
def toWord (h : Handle) : UInt64 := (h.generation.number.toUInt64 <<< 32) ||| h.index.toUInt64

/-- The handle that a word packs. -/
def ofWord? (w : UInt64) : Option Handle :=
  if h : (w >>> 32).toUInt32 ≠ 0 then some ⟨w.toUInt32, ⟨(w >>> 32).toUInt32, h⟩⟩ else none

/-- The upper half of the word of a handle counts the generation, the lower half the index. -/
theorem toNat_toWord (h : Handle) :
    h.toWord.toNat = h.generation.number.toNat * 0x100000000 + h.index.toNat := by
  have index_lt := h.index.toNat_lt
  have generation_lt := h.generation.number.toNat_lt
  have width : UInt64.toNat 32 % 64 = 32 := rfl
  rw [toWord, UInt64.toNat_or, UInt64.toNat_shiftLeft, width, UInt32.toNat_toUInt64,
    UInt32.toNat_toUInt64, Nat.mod_eq_of_lt (by rw [Nat.shiftLeft_eq]; omega),
    ← Nat.shiftLeft_add_eq_or_of_lt index_lt, Nat.shiftLeft_eq]

/-- The lower half of the word of a handle is the index, -/
theorem toUInt32_toWord (h : Handle) : h.toWord.toUInt32 = h.index := by
  have number := h.toNat_toWord
  have index_lt := h.index.toNat_lt
  apply UInt32.toNat_inj.1
  rw [UInt64.toNat_toUInt32, number]
  omega

/-- and the upper half the generation. -/
theorem toUInt32_shiftRight_toWord (h : Handle) :
    (h.toWord >>> 32).toUInt32 = h.generation.number := by
  have number := h.toNat_toWord
  have index_lt := h.index.toNat_lt
  have generation_lt := h.generation.number.toNat_lt
  have width : UInt64.toNat 32 % 64 = 32 := rfl
  apply UInt32.toNat_inj.1
  rw [UInt64.toNat_toUInt32, UInt64.toNat_shiftRight, number, width, Nat.shiftRight_eq_div_pow]
  omega

/-- The word of a handle packs that handle. -/
@[simp] theorem ofWord?_toWord (h : Handle) : ofWord? h.toWord = some h := by
  simp [ofWord?, toUInt32_toWord, toUInt32_shiftRight_toWord, h.generation.number_ne_zero]

/-- The handle as text. -/
def text (h : Handle) : String :=
  Text.Numeral.text h.index.toNat ++ "v" ++ Text.Numeral.text h.generation.number.toNat

end Handle

end Simulcast
