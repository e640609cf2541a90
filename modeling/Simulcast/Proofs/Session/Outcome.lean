import Simulcast.Proofs.Lineup.Lookup
import Simulcast.Proofs.Session.Deeds

/-!
# What becomes of a request

A request for a switch is refused (`Refused` lists why) or leads to the first layer of the order
that it names (`Leads`). A refused request changes the threshold, if it carries one, and nothing
else. One that leads to a layer leaves it the current one or makes it that at once (`Settles`), or
makes it the next one beside the current one, and starts the count over. `configure_outcome` says so
of every session and every request.
-/

namespace Simulcast.Session

open Switching

variable {s : Session} {r : Request} {o : Layer.Order} {h : Handle} {layer : Nat}

/-! ### Refusals -/

/-- The layer can be switched to: it is lowest, or its packets arrive. -/
def ready (s : Session) (layer : Nat) : Bool :=
  (s.lineup.layer layer).order.isLowest || (s.lineup.layer layer).streaming

/-- Why a request for a switch is refused. -/
inductive Refused (s : Session) (r : Request) : Prop
  /-- It names no order. -/
  | aimless (order : r.nextOrder = none)
  /-- There are no layers. -/
  | empty (none : s.lineup.hasLayers = false)
  /-- No layer is of the order. -/
  | unknown {o : Layer.Order} (order : r.nextOrder = some o)
    (none : ∀ n ∈ s.lineup.roster.entries, s.lineup.order n ≠ o)
  /-- The handle of the first layer of the order is not answered. -/
  | unanswered {o : Layer.Order} {h : Handle} (order : r.nextOrder = some o)
    (first : s.lineup.find? o = some h) (gone : s.lineup.resolve h = none)
  /-- The layer is not lowest, and its packets do not arrive. -/
  | stopped {o : Layer.Order} {h : Handle} {layer : Nat} (order : r.nextOrder = some o)
    (found : s.lineup.lookup o = some (h, layer)) (unable : s.ready layer = false)

/-- A request is accepted: it leads to a layer, which the handle names. -/
structure Leads (s : Session) (r : Request) (o : Layer.Order) (h : Handle) (layer : Nat) : Prop
    where
  /-- The request names the order. -/
  order : r.nextOrder = some o
  /-- The layer is the first one of the order. -/
  found : s.lineup.lookup o = some (h, layer)
  /-- It can be switched to. -/
  able : s.ready layer = true

/-- A request that is not refused leads to a layer. -/
theorem refused_or_leads (s : Session) (r : Request) :
    s.Refused r ∨ ∃ o h layer, s.Leads r o h layer := by
  cases order : r.nextOrder with
  | none => exact .inl (.aimless order)
  | some o =>
    cases first : s.lineup.find? o with
    | none => exact .inl (.unknown order (Lineup.find?_eq_none_iff.1 first))
    | some h =>
      cases named : s.lineup.resolve h with
      | none => exact .inl (.unanswered order first named)
      | some layer =>
        have found := Lineup.lookup_eq_some_iff.2 ⟨first, named⟩
        cases able : s.ready layer with
        | false => exact .inl (.stopped order found able)
        | true => exact .inr ⟨o, h, layer, order, found, able⟩

/-- Where no layer is looked up for it, a request is refused. -/
theorem refused_of_lookup (order : r.nextOrder = some o) (none : s.lineup.lookup o = none) :
    s.Refused r := by
  obtain refused | ⟨o', h, layer, leads⟩ := s.refused_or_leads r
  · exact refused
  · obtain rfl : o = o' := Option.some_inj.1 (order.symm.trans leads.order)
    cases none.symm.trans leads.found

/-- A request that leads to a layer is not refused. -/
theorem Leads.not_refused (leads : s.Leads r o h layer) : ¬ s.Refused r := by
  obtain ⟨first, named⟩ := Lineup.lookup_eq_some_iff.1 leads.found
  have same {o' : Layer.Order} (order : r.nextOrder = some o') : o = o' :=
    Option.some_inj.1 (leads.order.symm.trans order)
  intro refused
  cases refused with
  | aimless order => simp [leads.order] at order
  | empty none => simp [Lineup.hasLayers_of_lookup leads.found] at none
  | unknown order none =>
    obtain rfl := same order
    simp [Lineup.find?_eq_none_iff.2 none] at first
  | unanswered order first' gone =>
    obtain rfl := same order
    obtain rfl : h = _ := Option.some_inj.1 (first.symm.trans first')
    simp [named] at gone
  | stopped order found unable =>
    obtain rfl := same order
    have layers := leads.found.symm.trans found
    simp only [Option.some.injEq, Prod.mk.injEq] at layers
    simp [← layers.2, leads.able] at unable

/-! ### Following a request -/

/-- **A refused request** has no effect; its threshold is taken over, and the refusal may be
recorded. -/
theorem transition_of_refused (refused : s.Refused r) :
    ∃ journal, s.transition r =
      ([], { s with minNextSeen := r.minNextSeen.getD s.minNextSeen, journal := journal }) := by
  unfold transition
  cases order : r.nextOrder with
  | none => exact ⟨s.journal, rfl⟩
  | some o =>
    simp only [switchToOrder]
    split
    · exact ⟨_, rfl⟩
    · cases found : (s.setThreshold r).lineup.lookup o with
      | none => exact ⟨_, rfl⟩
      | some l =>
        obtain ⟨h, layer⟩ := l
        simp only
        split
        · exact ⟨_, rfl⟩
        · -- the layer could be switched to
          rename_i able
          have unrefused : ¬ (!s.ready layer) = true := by
            rw [ready, Bool.not_or]
            exact able
          have leads : s.Leads r o h layer := ⟨order, found, by simpa using unrefused⟩
          exact absurd refused leads.not_refused

/-- **A request that leads to a layer** leaves it the current one, and gives up the next one, or
switches to it. -/
theorem transition_of_leads (leads : s.Leads r o h layer) :
    s.transition r =
      if s.roles.handle? .current = some h then ([], (s.setThreshold r).dropNext)
      else (s.setThreshold r).switchTo r o h layer := by
  have able : (!(s.lineup.layer layer).order.isLowest && !(s.lineup.layer layer).streaming) =
      false := by
    rw [← Bool.not_or]
    exact congrArg not leads.able
  have layers : (s.setThreshold r).lineup.hasLayers = true :=
    Lineup.hasLayers_of_lookup leads.found
  have found : (s.setThreshold r).lineup.lookup o = some (h, layer) := leads.found
  unfold transition
  rw [leads.order]
  simp only [switchToOrder, layers, found]
  exact if_neg (Bool.eq_false_iff.1 able)

/-- A request that is followed sets the threshold. -/
theorem minNextSeen_configure (r : Request) (s : Session) :
    (s.configure (some r)).minNextSeen = r.minNextSeen.getD s.minNextSeen := by
  have followed := followed_transition r s
  have threshold : (s.setThreshold r).minNextSeen = r.minNextSeen.getD s.minNextSeen := rfl
  rw [configure, commit_minNextSeen, ← threshold]
  generalize s.transition r = c at followed ⊢
  cases followed with
  | idle => rfl
  | refused e => rfl
  | stays order found held => rfl
  | switches order found other =>
    rw [switchTo_snd]
    split <;> rfl

/-! ### What the roles hold then -/

/-- A request leaves its layer, which the handle names, the current one or makes it that at once:
it is the current one already, the request is urgent, there is no current layer, or no packets of
the next layer need to be seen. -/
def Settles (s : Session) (r : Request) (h : Handle) : Prop :=
  s.roles.handle? .current = some h ∨ r.urgent = true ∨ s.holder? .current = none ∨
    r.minNextSeen.getD s.minNextSeen < 1

theorem isImmediate_setThreshold :
    (s.setThreshold r).isImmediate r = true ↔
      r.urgent = true ∨ s.holder? .current = none ∨ r.minNextSeen.getD s.minNextSeen < 1 := by
  have holder : (s.setThreshold r).holder? .current = s.holder? .current := rfl
  have threshold : (s.setThreshold r).minNextSeen = r.minNextSeen.getD s.minNextSeen := rfl
  simp [isImmediate, holder, threshold, or_assoc]

/-- A request that leads to a layer starts the count over. -/
theorem Leads.uncounted (leads : s.Leads r o h layer) : (s.configure (some r)).seenNext = 0 := by
  rw [configure, commit_seenNext, transition_of_leads leads]
  split
  · rfl
  · rw [switchTo_snd]
    split <;> rfl

/-- The layer of a request that settles is the current one, and there is no next one. -/
theorem Leads.settled (leads : s.Leads r o h layer) (settles : s.Settles r h) :
    (s.configure (some r)).roles.handle? .current = some h ∧
      (s.configure (some r)).roles.handle? .next = none := by
  rw [configure, commit_roles, transition_of_leads leads]
  by_cases held : s.roles.handle? .current = some h
  · rw [if_pos held]
    simp [held]
  · have immediate := isImmediate_setThreshold.2 (settles.resolve_left held)
    rw [if_neg held, switchTo_snd, if_pos immediate]
    simp

/-- The layer of any other request is the next one, beside the layer that stays the current one. -/
theorem Leads.bridged (leads : s.Leads r o h layer) (bridges : ¬ s.Settles r h) :
    (s.configure (some r)).roles.handle? .current = s.roles.handle? .current ∧
      (s.configure (some r)).roles.handle? .next = some h := by
  obtain ⟨other, beside⟩ := not_or.1 bridges
  rw [configure, commit_roles, transition_of_leads leads, if_neg other, switchTo_snd,
    if_neg fun immediate => beside (isImmediate_setThreshold.1 immediate)]
  simp

/-- The override role is no concern of requests for a switch. -/
theorem override_configure (r : Option Request) (s : Session) :
    (s.configure r).roles.handle? .override = s.roles.handle? .override := by
  cases r with
  | none => rfl
  | some r =>
    have followed := followed_transition r s
    rw [configure, commit_roles]
    generalize s.transition r = c at followed ⊢
    cases followed with
    | idle => rfl
    | refused e => rfl
    | stays order found held => simp
    | switches order found other =>
      rw [switchTo_snd]
      split <;> simp

/-- A request gives no role another handle than that of its layer. -/
theorem Leads.held_configure (leads : s.Leads r o h layer) {role : Role} {h' : Handle}
    (held : (s.configure (some r)).roles.handle? role = some h') :
    s.roles.handle? role = some h' ∨ h = h' := by
  have given (now : (s.configure (some r)).roles.handle? role = some h) : h = h' :=
    Option.some_inj.1 (now.symm.trans held)
  by_cases settles : s.Settles r h
  · obtain ⟨current, next⟩ := leads.settled settles
    cases role with
    | current => exact .inr (given current)
    | next => cases next.symm.trans held
    | override => exact .inl ((override_configure _ s).symm.trans held)
  · obtain ⟨current, next⟩ := leads.bridged settles
    cases role with
    | current => exact .inl (current.symm.trans held)
    | next => exact .inr (given next)
    | override => exact .inl ((override_configure _ s).symm.trans held)

/-! ### Every request -/

/-- A refused request, or one that is missing, changes the threshold and what is recorded. -/
theorem configure_of_refused (r : Option Request) (refused : s.Refused (r.getD .nothing)) :
    ∃ journal, s.configure r =
      { s with
        minNextSeen := (r.getD .nothing).minNextSeen.getD s.minNextSeen
        journal := journal } := by
  cases r with
  | none => exact ⟨_, rfl⟩
  | some r =>
    obtain ⟨journal, unmoved⟩ := transition_of_refused (r := r) refused
    refine ⟨journal, ?_⟩
    rw [configure, unmoved]
    rfl

/-- **What becomes of a request for a switch.** A refused request, or one that is missing, takes
over its threshold, may be recorded, and changes nothing else. Any other one leads to the first
layer of its order, which is lowest or whose packets arrive, and starts the count over: if it
settles, the layer is the current one and there is no next one; else it is the next one, beside the
layer that was the current one and still is. The override stays, and no role comes to hold another
handle than that of a layer that is lowest or whose packets arrive. -/
theorem configure_outcome (r : Option Request) (s : Session) :
    let q := r.getD .nothing
    let m := q.minNextSeen.getD s.minNextSeen
    let t := s.configure r
    (s.Refused q → ∃ journal, t = { s with minNextSeen := m, journal := journal }) ∧
      (¬ s.Refused q →
        ∃ o h layer, q.nextOrder = some o ∧ s.lineup.lookup o = some (h, layer) ∧
          s.ready layer = true ∧ t.minNextSeen = m ∧ t.seenNext = 0 ∧
          (s.Settles q h →
            t.roles.handle? .current = some h ∧ t.roles.handle? .next = none) ∧
          (¬ s.Settles q h →
            t.roles.handle? .current = s.roles.handle? .current ∧
              (t.holder? .current).isSome = true ∧ t.roles.handle? .next = some h)) ∧
      t.roles.handle? .override = s.roles.handle? .override ∧
      ∀ role h, t.roles.handle? role = some h →
        s.roles.handle? role = some h ∨
          ∃ layer, s.lineup.resolve h = some layer ∧ s.ready layer = true := by
  intro q m t
  have override := override_configure r s
  obtain refused | ⟨o, h, layer, leads⟩ := s.refused_or_leads q
  · obtain ⟨journal, same⟩ := configure_of_refused r refused
    refine ⟨fun _ => ⟨journal, same⟩, fun accepted => absurd refused accepted, override, ?_⟩
    intro role h held
    left
    rwa [show t = _ from same] at held
  · cases r with
    | none => cases leads.order
    | some r =>
      obtain ⟨-, named⟩ := Lineup.lookup_eq_some_iff.1 leads.found
      have threshold := minNextSeen_configure r s
      refine ⟨fun refused => absurd refused leads.not_refused, fun _ => ?_, override, ?_⟩
      · refine ⟨o, h, layer, leads.order, leads.found, leads.able, threshold, ?_, ?_, ?_⟩
        · exact leads.uncounted
        · exact leads.settled
        · intro bridges
          obtain ⟨current, next⟩ := leads.bridged bridges
          refine ⟨current, ?_, next⟩
          rw [holder?_congr (t := s) (untouched_lineup.configure (some r) s) current]
          exact Option.isSome_iff_ne_none.2 fun gone => bridges (.inr (.inr (.inl gone)))
      · intro role h' held
        refine (leads.held_configure held).imp_right fun same => ?_
        exact ⟨layer, same ▸ named, leads.able⟩

end Simulcast.Session
