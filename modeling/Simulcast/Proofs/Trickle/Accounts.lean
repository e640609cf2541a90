import Mathlib.Data.List.Nodup
import Mathlib.Data.Set.Card
import Simulcast.Proofs.Trickle.Cycle
import Simulcast.Trickle.Request

/-!
# Accounts

Each source has at most one account, which carries its counter and a number that tells the counter
from all others. `get?_serve` says what a request does to the accounts, and `Orderly` what holds of
them after any requests, so that there are as many accounts as sources with a counter
(`Orderly.size_eq`).
-/

namespace Simulcast.Trickle

namespace Ledger

variable {l : Ledger} {source other : Source} {bound : UInt32} {a : Account}

/-! ### What a request does to the accounts -/

/-- The account that a request gets is there afterwards. -/
theorem get?_ensure_self (source : Source) (bound : UInt32) (l : Ledger) :
    (l.ensure source bound).get? source = some (l.account source bound) := by
  rw [get?_ensure, account, contains_iff]
  cases l.get? source with
  | none => simp
  | some a => simp

theorem get?_ensure_of_ne (ne : other ≠ source) :
    (l.ensure source bound).get? other = l.get? other := by
  rw [get?_ensure, if_neg (fun h => ne h.2.symm)]

theorem source_account (source : Source) (bound : UInt32) (l : Ledger) :
    (l.account source bound).source = source :=
  source_of_get? (get?_ensure_self source bound l)

theorem get?_steps (source other : Source) (n : Nat) (l : Ledger) :
    (l.steps source n).get? other =
      (l.get? other).map fun a =>
        if a.source = source then { a with counter := a.counter.steps n } else a := by
  induction n with
  | zero =>
    show l.get? other = _
    cases l.get? other <;> simp [Counter.steps, Nat.repeat]
  | succ n ih =>
    show ((l.steps source n).step source).get? other = _
    rw [get?_step, ih]
    cases l.get? other with
    | none => rfl
    | some a => by_cases same : a.source = source <;> simp [same, Counter.steps, Nat.repeat]

/-- **What a request does**: the account of its source is there, so many steps on, or is not there
any more; other accounts are left as they are. -/
theorem get?_serve (l : Ledger) (r : Request) (other : Source) :
    (l.serve r).2.get? other =
      if r.source = other then
        match r with
        | .count source bound times =>
          let a := l.account source bound
          some { a with counter := a.counter.steps times }
        | .forget _ => none
      else l.get? other := by
  cases r with
  | count source bound times =>
    show ((l.ensure source bound).steps source times).get? other = _
    rw [get?_steps]
    by_cases same : source = other
    · subst same
      simp [get?_ensure_self, source_account]
    · rw [get?_ensure_of_ne (Ne.symm same)]
      simp only [Request.source_count, same, if_false]
      cases found : l.get? other with
      | none => rfl
      | some a => simp [source_of_get? found, Ne.symm same]
  | forget source =>
    show (l.erase source).get? other = _
    rw [get?_erase]
    by_cases same : source = other
    · simp [same]
    · simp [same, Ne.symm same]

/-! ### Accounts in order -/

/-- No source has two accounts, and each account was made at a time of its own. -/
structure Orderly (l : Ledger) : Prop where
  /-- No source has two accounts. -/
  sources : (l.accounts.map (·.source)).Nodup
  /-- No two accounts are told by the same number, -/
  serials : (l.accounts.map (·.serial)).Nodup
  /-- which counts the accounts made before. -/
  made : ∀ a ∈ l.accounts, a.serial < l.made

theorem not_mem_of_not_contains (h : l.contains source = false) :
    source ∉ l.accounts.map (·.source) := by
  intro mem
  obtain ⟨a, here, rfl⟩ := List.mem_map.1 mem
  rw [contains_iff, get?, Option.isSome_eq_false_iff, Option.isNone_iff_eq_none,
    List.find?_eq_none] at h
  exact h a here (beq_self_eq_true _)

theorem Orderly.ensure (orderly : l.Orderly) (source : Source) (bound : UInt32) :
    (l.ensure source bound).Orderly := by
  unfold Ledger.ensure
  split
  · exact orderly
  · rename_i absent
    have fresh := not_mem_of_not_contains (Bool.eq_false_iff.2 absent)
    refine ⟨List.nodup_cons.2 ⟨fresh, orderly.sources⟩, List.nodup_cons.2 ⟨?_, orderly.serials⟩, ?_⟩
    · intro mem
      obtain ⟨a, here, same⟩ := List.mem_map.1 mem
      exact Nat.ne_of_lt (orderly.made a here) same
    · intro a here
      obtain rfl | old := List.mem_cons.1 here
      · exact Nat.lt_succ_self _
      · exact Nat.lt_succ_of_lt (orderly.made a old)

/-- Steps change nothing about an account but its counter. -/
theorem Orderly.step (orderly : l.Orderly) (source : Source) : (l.step source).Orderly := by
  have kept : ∀ {β : Type} (f : Account → β),
      (∀ a, f (if a.source = source then { a with counter := a.counter.step } else a) = f a) →
        (l.step source).accounts.map f = l.accounts.map f := by
    intro β f same
    rw [Ledger.step, List.map_map]
    exact List.map_congr_left fun a _ => same a
  have sources := kept (·.source) fun a => by split <;> rfl
  have serials := kept (·.serial) fun a => by split <;> rfl
  refine ⟨sources ▸ orderly.sources, serials ▸ orderly.serials, fun a here => ?_⟩
  have mem : a.serial ∈ (l.step source).accounts.map (·.serial) := List.mem_map_of_mem here
  rw [serials] at mem
  obtain ⟨b, there, same⟩ := List.mem_map.1 mem
  rw [← same]
  exact orderly.made b there

theorem Orderly.steps (orderly : l.Orderly) (source : Source) (n : Nat) :
    (l.steps source n).Orderly := by
  induction n with
  | zero => exact orderly
  | succ n ih => exact ih.step source

theorem Orderly.erase (orderly : l.Orderly) (source : Source) : (l.erase source).Orderly where
  sources := orderly.sources.sublist (List.filter_sublist.map _)
  serials := orderly.serials.sublist (List.filter_sublist.map _)
  made a here := orderly.made a (List.mem_of_mem_filter here)

theorem Orderly.serve (orderly : l.Orderly) (r : Request) : (l.serve r).2.Orderly := by
  cases r with
  | count source bound times => exact (orderly.ensure source bound).steps source times
  | forget source => exact orderly.erase source

/-- There are as many accounts as sources that have one. -/
theorem Orderly.size_eq (orderly : l.Orderly) :
    l.size = {source | l.contains source = true}.ncard := by
  have same : {source | l.contains source = true} =
      ((l.accounts.map (·.source)).toFinset : Set Source) := by
    ext source
    rw [List.coe_toFinset, Set.mem_ofPred_eq, Set.mem_ofPred_eq]
    constructor
    · intro here
      by_contra absent
      rw [contains_iff, get?, List.find?_isSome] at here
      obtain ⟨a, mem, own⟩ := here
      exact absent (List.mem_map.2 ⟨a, mem, eq_of_beq own⟩)
    · intro mem
      obtain ⟨a, here, rfl⟩ := List.mem_map.1 mem
      rw [contains_iff, get?, List.find?_isSome]
      exact ⟨a, here, beq_self_eq_true _⟩
  rw [same, Set.ncard_coe_finset, List.toFinset_card_of_nodup orderly.sources, List.length_map,
    size]

end Ledger

end Simulcast.Trickle
