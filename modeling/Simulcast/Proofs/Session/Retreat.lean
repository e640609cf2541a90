import Simulcast.Proofs.Session.Outcome

/-!
# Falling back to the lowest layer

The lowest layer is asked for in two changes: the request for it is followed, and then the next
layer is given up if its packets stopped (`stoppedNext?`). After both, packets of the next layer
arrive, or there is none. `receiveLow_outcome` says what becomes of the roles, and what is done
about a layer that is given up.
-/

namespace Simulcast.Session

open Switching

variable {s : Session} {layer : Nat}

/-! ### A next layer whose packets stopped -/

/-- The next layer, if its packets do not arrive. -/
def stoppedNext? (s : Session) : Option Nat :=
  (s.holder? .next).filter fun n => !(s.lineup.layer n).streaming

theorem stoppedNext?_eq_some_iff :
    s.stoppedNext? = some layer ↔
      s.holder? .next = some layer ∧ (s.lineup.layer layer).streaming = false := by
  simp [stoppedNext?, Option.filter_eq_some_iff]

theorem stoppedNext?_eq_none_iff :
    s.stoppedNext? = none ↔
      ∀ n, s.holder? .next = some n → (s.lineup.layer n).streaming = true := by
  simp [stoppedNext?, Option.filter_eq_none_iff]

/-- A next layer whose packets arrive is not given up. -/
theorem abandonNext_of_none (arrives : s.stoppedNext? = none) : s.abandonNext = ([], s) := by
  have streaming := stoppedNext?_eq_none_iff.1 arrives
  unfold abandonNext
  cases next : s.holder? .next with
  | none => rfl
  | some n => exact if_pos (streaming n next)

theorem commit_abandonNext_of_none (arrives : s.stoppedNext? = none) :
    commit s.abandonNext = s := by
  rw [abandonNext_of_none arrives]
  rfl

/-- One whose packets stopped is, and the receiver is told. -/
theorem abandonNext_of_some (stopped : s.stoppedNext? = some layer) :
    s.abandonNext =
      ([.announcement .stopped layer],
        (s.note (.nextStopped (s.lineup.layer layer).order)).dropNext) := by
  obtain ⟨next, silent⟩ := stoppedNext?_eq_some_iff.1 stopped
  unfold abandonNext
  rw [next]
  simp [silent]

theorem lineup_abandonNext (s : Session) : (commit s.abandonNext).lineup = s.lineup :=
  untouched_lineup.commit _ |>.trans (aside_lineup.apart.abandonNext s)

/-- Giving up takes the next role from a layer whose packets stopped, and no other role. -/
theorem handle?_abandonNext (role : Role) (s : Session) :
    (commit s.abandonNext).roles.handle? role =
      if role = .next ∧ s.stoppedNext?.isSome = true then none else s.roles.handle? role := by
  rw [commit_roles]
  cases stopped : s.stoppedNext? with
  | none => simp [abandonNext_of_none stopped]
  | some n => simp [abandonNext_of_some stopped]

/-- The count starts over with it. -/
theorem seenNext_abandonNext (s : Session) :
    (commit s.abandonNext).seenNext =
      if s.stoppedNext?.isSome = true then 0 else s.seenNext := by
  rw [commit_seenNext]
  cases stopped : s.stoppedNext? with
  | none => rw [abandonNext_of_none stopped, if_neg (by simp)]
  | some n => rw [abandonNext_of_some stopped]; rfl

/-- The threshold stays as it is. -/
theorem minNextSeen_abandonNext (s : Session) :
    (commit s.abandonNext).minNextSeen = s.minNextSeen := by
  rw [commit_minNextSeen]
  cases stopped : s.stoppedNext? with
  | none => rw [abandonNext_of_none stopped]
  | some n => rw [abandonNext_of_some stopped]; rfl

/-- All that is done is to announce that the layer stopped. -/
theorem deeds_abandonNext (s : Session) :
    (commit s.abandonNext).deeds =
      s.stoppedNext?.toList.map (.announcement .stopped) ++ s.deeds := by
  rw [deeds_commit, aside_deeds.apart.abandonNext]
  cases stopped : s.stoppedNext? with
  | none => rw [abandonNext_of_none stopped]; rfl
  | some n => rw [abandonNext_of_some stopped]; rfl

/-- Then packets of the next layer arrive, if there is one. -/
theorem stoppedNext?_abandonNext (s : Session) : (commit s.abandonNext).stoppedNext? = none := by
  cases stopped : s.stoppedNext? with
  | none => rw [commit_abandonNext_of_none stopped, stopped]
  | some n =>
    rw [stoppedNext?, holder?_commit, abandonNext_of_some stopped]
    simp

/-! ### What a request does -/

/-- What was done by following a request are the effects of its change. -/
theorem deeds_configure (r : Request) (s : Session) :
    (s.configure (some r)).deeds = (s.transition r).1.reverse ++ s.deeds := by
  rw [configure, deeds_commit, aside_deeds.apart.transition]

/-- A request does not announce that a layer stopped. -/
theorem stopped_not_mem_transition (r : Request) (s : Session) (n : Nat) :
    .announcement .stopped n ∉ (s.transition r).1 := by
  have followed := followed_transition r s
  generalize s.transition r = c at followed ⊢
  cases followed with
  | idle => simp
  | refused e => simp
  | stays order found held => simp
  | switches order found other =>
    rw [switchTo_fst, List.mem_append, not_or]
    constructor
    · split <;> simp
    · unfold announcementUnlessOverridden
      split
      · simp
      · split <;> simp

/-! ### The lowest layer -/

variable {urgent : Bool} {h : Handle}

/-- The first layer of order zero can be switched to. -/
theorem leads_lowest (first : s.lineup.first? .lowest = some layer)
    (found : s.lineup.lookup .lowest = some (h, layer)) :
    s.Leads (.toOrder .lowest urgent) .lowest h layer := by
  have order : (s.lineup.layer layer).order = .lowest := Lineup.order_of_first? first
  refine ⟨rfl, found, ?_⟩
  rw [ready, order]
  rfl

/-- After falling back to the first layer of order zero, it is the next one at most if its packets
arrive, -/
theorem next_receiveLow (leads : s.Leads (.toOrder .lowest urgent) .lowest h layer) :
    (s.receiveLow urgent).roles.handle? .next = none ∨
      (s.receiveLow urgent).roles.handle? .next = some h ∧
        (s.lineup.layer layer).streaming = true := by
  let c := s.configure (some (.toOrder .lowest urgent))
  have lineup : c.lineup = s.lineup := untouched_lineup.configure _ s
  rw [receiveLow, handle?_abandonNext]
  by_cases settles : s.Settles (.toOrder .lowest urgent) h
  · obtain ⟨-, next⟩ := leads.settled settles
    exact .inl (by rw [next, ite_self])
  · obtain ⟨-, next⟩ := leads.bridged settles
    cases stopped : c.stoppedNext? with
    | some n => exact .inl (if_pos ⟨rfl, rfl⟩)
    | none =>
      refine .inr ⟨by rw [if_neg (by simp), next], ?_⟩
      have holds : c.holder? .next = some layer := by
        rw [holder?, Roles.holder?, next, lineup]
        exact resolve_of_lookup leads.found
      exact lineup ▸ stoppedNext?_eq_none_iff.1 stopped layer holds

/-- and it is the current one if the switch takes place at once. -/
theorem current_receiveLow (leads : s.Leads (.toOrder .lowest urgent) .lowest h layer)
    (immediate : urgent = true ∨ s.holder? .current = none ∨ s.minNextSeen < 1) :
    (s.receiveLow urgent).roles.handle? .current = some h := by
  obtain ⟨current, -⟩ := leads.settled (.inr immediate)
  rw [receiveLow, handle?_abandonNext, if_neg (by simp), current]

/-- Without a lowest layer the request does nothing. -/
theorem configure_lowest_of_none (none : s.lineup.lookup .lowest = none) :
    ∃ journal, s.configure (some (.toOrder .lowest urgent)) = { s with journal := journal } :=
  configure_of_refused (some (.toOrder .lowest urgent)) (refused_of_lookup rfl none)

/-- **What becomes of falling back to the lowest layer.** Then packets of the next layer arrive, if
there is one. If there is a layer of order zero, the first one is the next one or there is none, and
it is the current one if the switch takes place at once. If there is none, the current layer stays,
and so does the next one with its count unless its packets stopped. The receiver is told that a
layer stopped exactly if, the request being followed, packets of the next layer do not arrive; it is
told once, of that layer, and after all that following the request does. The first layer of order
zero is the one that is looked up, as long as all handles are answered and the indices of the slots
have a place in a handle. -/
theorem receiveLow_outcome (urgent : Bool) (s : Session) :
    let c := s.configure (some (.toOrder .lowest urgent))
    let t := s.receiveLow urgent
    (∀ n, t.holder? .next = some n → (t.lineup.layer n).streaming = true) ∧
      (∀ layer h, s.lineup.first? .lowest = some layer →
        s.lineup.lookup .lowest = some (h, layer) →
          (t.roles.handle? .next = none ∨
            t.roles.handle? .next = some h ∧ (s.lineup.layer layer).streaming = true) ∧
          (urgent = true ∨ s.holder? .current = none ∨ s.minNextSeen < 1 →
            t.roles.handle? .current = some h)) ∧
      (s.lineup.lookup .lowest = none →
        t.roles.handle? .current = s.roles.handle? .current ∧
          t.roles.handle? .next =
            (if s.stoppedNext?.isSome = true then none else s.roles.handle? .next) ∧
          t.seenNext = if s.stoppedNext?.isSome = true then 0 else s.seenNext) ∧
      (∃ asked, c.deeds = asked ++ s.deeds ∧ (∀ n, .announcement .stopped n ∉ asked) ∧
        t.deeds = c.stoppedNext?.toList.map (.announcement .stopped) ++ c.deeds) ∧
      (s.lineup.first? .lowest = none → s.lineup.lookup .lowest = none) ∧
      (s.lineup.withheld = [] → s.lineup.roster.slots.length ≤ 2 ^ 32 →
        ∀ layer, s.lineup.first? .lowest = some layer →
          ∃ h, s.lineup.lookup .lowest = some (h, layer)) := by
  intro c t
  refine ⟨?_, ?_, ?_, ?_, Lineup.lookup_of_first?_eq_none, ?_⟩
  · exact stoppedNext?_eq_none_iff.1 (stoppedNext?_abandonNext c)
  · intro layer h first found
    have leads : s.Leads (.toOrder .lowest urgent) .lowest h layer := leads_lowest first found
    exact ⟨next_receiveLow leads, current_receiveLow leads⟩
  · intro none
    obtain ⟨journal, same⟩ : ∃ journal, c = { s with journal := journal } :=
      configure_lowest_of_none none
    have stopped : c.stoppedNext? = s.stoppedNext? := by rw [same]; rfl
    have fallen : t = commit c.abandonNext := rfl
    refine ⟨?_, ?_, ?_⟩
    · rw [fallen, handle?_abandonNext, if_neg (by simp), same]
    · rw [fallen, handle?_abandonNext, stopped, same]
      simp
    · rw [fallen, seenNext_abandonNext, stopped, same]
  · refine ⟨_, deeds_configure _ s, fun n => ?_, deeds_abandonNext c⟩
    rw [List.mem_reverse]
    exact stopped_not_mem_transition _ s n
  · intro answers small layer first
    have looked := Lineup.lookup_map_snd answers small .lowest
    rw [first] at looked
    obtain ⟨⟨h, _⟩, found, rfl⟩ := Option.map_eq_some_iff.1 looked
    exact ⟨h, found⟩

end Simulcast.Session
