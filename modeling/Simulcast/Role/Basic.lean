import Simulcast.Roster.Handle

/-!
# The roles of layers

Three roles decide which packets are forwarded. Each is kept as one word that packs
the handle of its layer, zero meaning that no layer has the role. A role whose layer
has left the roster keeps its handle, which resolves to nothing.
-/

namespace Simulcast

/-- A part that a layer plays in forwarding. -/
inductive Role where
  /-- The layer that is forwarded. -/
  | current
  /-- The layer that is forwarded beside it until it takes its place. -/
  | next
  /-- The layer that is forced, alone, in place of the others. -/
  | override
  deriving DecidableEq, Repr

/-- Which handle each role holds. -/
structure Roles where
  /-- The word of the current role. -/
  currentWord : UInt64 := 0
  /-- The word of the next role. -/
  nextWord : UInt64 := 0
  /-- The word of the override role. -/
  overrideWord : UInt64 := 0
  deriving DecidableEq, Repr, Inhabited

namespace Roles

/-- The roles while no layer has one. -/
def unset : Roles := {}

/-- The word of a role. -/
def word (r : Roles) : Role → UInt64
  | .current => r.currentWord
  | .next => r.nextWord
  | .override => r.overrideWord

/-- The word that stands for a handle, or for none. -/
def wordOf : Option Handle → UInt64
  | some h => h.toWord
  | none => 0

/-- The handle that a role holds. -/
def handle? (r : Roles) (role : Role) : Option Handle := Handle.ofWord? (r.word role)

/-- The word that stands for a handle, or for none, packs just that. -/
@[simp] theorem ofWord?_wordOf (h : Option Handle) : Handle.ofWord? (wordOf h) = h := by
  cases h with
  | none => rfl
  | some h => exact h.ofWord?_toWord

/-- Gives a role to what a handle names, or to nothing. -/
def set (role : Role) (h : Option Handle) (r : Roles) : Roles :=
  match role with
  | .current => { r with currentWord := wordOf h }
  | .next => { r with nextWord := wordOf h }
  | .override => { r with overrideWord := wordOf h }

/-- Giving a role changes its word and no other. -/
theorem word_set (r : Roles) (role other : Role) (h : Option Handle) :
    (r.set role h).word other = if other = role then wordOf h else r.word other := by
  cases role <;> cases other <;> rfl

/-- A role holds what it was given last, whatever the others are given. -/
@[simp] theorem handle?_set (r : Roles) (role other : Role) (h : Option Handle) :
    (r.set role h).handle? other = if other = role then h else r.handle? other := by
  unfold handle?
  rw [word_set]
  split
  · exact ofWord?_wordOf h
  · rfl

end Roles

end Simulcast
