import Mathlib.Logic.Function.Iterate
import Simulcast.Proofs.Session.Deeds

/-!
# Generations that start over

The greatest generation is followed by the first, so a slot that is vacated often enough comes to a
generation in which it was before, and a handle of that generation names what the slot holds now.
`revolution` says what this does to an engine: if all layers leave and come back again and again,
and other layers come in the end, roles that nobody touched pass to the other layers, and nothing
is done about it. This is why the theorems about roles count how often a slot is vacated.
-/

namespace Simulcast

namespace Generation

/-- The generations count up from one until the greatest is reached. -/
theorem toNat_iterate_next {k : Nat} (h : k < greatestGeneration) :
    (next^[k] .first).toNat = k + 1 := by
  induction k with
  | zero => rfl
  | succ k ih =>
    have before := ih (Nat.lt_of_succ_lt h)
    rw [Function.iterate_succ_apply', toNat_next (by omega), before]

end Generation

/-! ### Rosters without vacant slots -/

namespace Roster

variable {α : Type} {r : Roster α} {g : Generation}

/-- An entry fills the first vacant slot. -/
theorem fill_append (filled : List α) (a : α) (rest : List (Slot α)) :
    (fill a (filled.map (⟨g, some ·⟩) ++ ⟨g, none⟩ :: rest)).2.2 =
      filled.map (⟨g, some ·⟩) ++ ⟨g, some a⟩ :: rest := by
  induction filled with
  | nil => rfl
  | cons b filled ih => simpa [fill] using ih

/-- As many entries as there are vacant slots fill them in order. -/
theorem slots_foldl_insert (filled new : List α)
    (slots : r.slots = filled.map (⟨g, some ·⟩) ++ new.map fun _ => ⟨g, none⟩) :
    (new.foldl (fun r a => (r.insert a).2) r).slots = (filled ++ new).map (⟨g, some ·⟩) := by
  induction new generalizing filled r with
  | nil => simpa using slots
  | cons a new ih =>
    have step : (r.insert a).2.slots =
        (filled ++ [a]).map (⟨g, some ·⟩) ++ new.map fun _ => ⟨g, none⟩ := by
      rw [insert, slots, List.map_cons, List.map_append, List.append_assoc]
      exact fill_append filled a _
    rw [List.foldl_cons, ih (filled ++ [a]) step, List.append_assoc]
    rfl

/-- Clearing a roster without vacant slots vacates them all. -/
theorem slots_clear {old : List α} (slots : r.slots = old.map (⟨g, some ·⟩)) :
    r.clear.slots = old.map fun _ => ⟨g.next, none⟩ := by
  rw [clear, slots, List.map_map]
  rfl

end Roster

namespace Session

variable {s : Session} {g : Generation} {ns : List Nat}

/-! ### Operations on the roster -/

/-- Whether an operation makes layers come or leave. -/
def Operation.restocks : Operation → Bool
  | .add _ => true
  | .insert _ => true
  | .clear => true
  | _ => false

/-- The roles are not touched, nor what is counted for the next one, and nothing is done. -/
structure Undisturbed (s t : Session) : Prop where
  /-- The roles hold the same handles. -/
  roles : t.roles = s.roles
  /-- As many packets were seen. -/
  seenNext : t.seenNext = s.seenNext
  /-- The threshold is the same. -/
  minNextSeen : t.minNextSeen = s.minNextSeen
  /-- The same was done. -/
  deeds : t.deeds = s.deeds

/-- Layers that come or leave do not disturb the engine. -/
theorem undisturbed_perform {o : Operation} (restocks : o.restocks = true) (s : Session) :
    Undisturbed s (s.perform o) := by
  cases o with
  | add l => exact ⟨rfl, rfl, rfl, rfl⟩
  | insert layer => exact ⟨rfl, rfl, rfl, rfl⟩
  | clear => exact ⟨rfl, rfl, rfl, rfl⟩
  | _ => cases restocks

theorem undisturbed_foldl {os : List Operation} (restock : ∀ o ∈ os, o.restocks = true)
    (s : Session) : Undisturbed s (os.foldl perform s) := by
  induction os generalizing s with
  | nil => exact ⟨rfl, rfl, rfl, rfl⟩
  | cons o os ih =>
    have first := undisturbed_perform (restock o List.mem_cons_self) s
    have others := ih (fun o' here => restock o' (List.mem_cons_of_mem o here)) (s.perform o)
    exact ⟨others.roles.trans first.roles, others.seenNext.trans first.seenNext,
      others.minNextSeen.trans first.minNextSeen, others.deeds.trans first.deeds⟩

/-- Layers that become part of the roster one after the other. -/
theorem lineup_inserts (ns : List Nat) (s : Session) :
    ((ns.map .insert).foldl perform s).lineup.roster =
        ns.foldl (fun r n => (r.insert n).2) s.lineup.roster ∧
      ((ns.map .insert).foldl perform s).lineup.layers = s.lineup.layers ∧
      ((ns.map .insert).foldl perform s).lineup.withheld = s.lineup.withheld := by
  induction ns generalizing s with
  | nil => exact ⟨rfl, rfl, rfl⟩
  | cons n ns ih => exact ih (s.insert n).2

/-- Layers that come one after the other are numbered on. -/
theorem lineup_adds (ls : List Layer) (s : Session) :
    ((ls.map .add).foldl perform s).lineup.roster =
        (List.range' s.lineup.layers.length ls.length).foldl (fun r n => (r.insert n).2)
          s.lineup.roster ∧
      ((ls.map .add).foldl perform s).lineup.layers = s.lineup.layers ++ ls ∧
      ((ls.map .add).foldl perform s).lineup.withheld = s.lineup.withheld := by
  induction ls generalizing s with
  | nil => exact ⟨rfl, by simp, rfl⟩
  | cons l ls ih =>
    obtain ⟨roster, layers, withheld⟩ := ih (s.add l).2
    have more : (s.add l).2.lineup.layers = s.lineup.layers ++ [l] := rfl
    rw [more, List.length_append] at roster
    rw [more, List.append_assoc] at layers
    exact ⟨roster, layers, withheld⟩

/-! ### Rounds -/

/-- The slots hold these layers, all in one generation, and all handles are answered. -/
structure Full (g : Generation) (ns : List Nat) (s : Session) : Prop where
  /-- No slot is vacant. -/
  slots : s.lineup.roster.slots = ns.map (⟨g, some ·⟩)
  /-- No handle is withheld. -/
  withheld : s.lineup.withheld = []

/-- In such a session the handle of a slot names the layer that the slot holds. -/
theorem Full.resolve (full : Full g ns s) (i : UInt32) :
    s.lineup.resolve ⟨i, g⟩ = ns[i.toNat]? := by
  rw [resolve_of_withheld full.withheld, Roster.resolve, full.slots, List.getElem?_map]
  cases ns[i.toNat]? with
  | none => rfl
  | some n => simp

/-- As many entries as a full roster had, inserted after it was cleared, fill it again. -/
theorem slots_refill {r : Roster Nat} (slots : r.slots = ns.map (⟨g, some ·⟩)) {ms : List Nat}
    (as_many : ms.length = ns.length) :
    (ms.foldl (fun r n => (r.insert n).2) r.clear).slots = ms.map (⟨g.next, some ·⟩) := by
  refine Roster.slots_foldl_insert [] ms ?_
  rw [Roster.slots_clear slots, List.map_const', List.map_const', as_many]
  rfl

/-- All layers leave and become part of the roster once more. -/
def round (ns : List Nat) : List Operation := .clear :: ns.map .insert

/-- All layers leave, and others come. -/
def renewal (ls : List Layer) : List Operation := .clear :: ls.map .add

/-- In a round the slots move on by one generation, and the layers stay. -/
theorem full_round (full : Full g ns s) :
    Full g.next ns ((round ns).foldl perform s) ∧
      ((round ns).foldl perform s).lineup.layers = s.lineup.layers := by
  obtain ⟨roster, layers, withheld⟩ := lineup_inserts ns (s.perform .clear)
  refine ⟨⟨?_, withheld.trans full.withheld⟩, layers⟩
  exact (congrArg Roster.slots roster).trans (slots_refill full.slots rfl)

theorem full_rounds (full : Full g ns s) (k : Nat) :
    Full (Generation.next^[k] g) ns
        ((List.replicate k (round ns)).flatten.foldl perform s) ∧
      ((List.replicate k (round ns)).flatten.foldl perform s).lineup.layers =
        s.lineup.layers := by
  induction k generalizing g s with
  | zero => exact ⟨full, rfl⟩
  | succ k ih =>
    obtain ⟨full', layers⟩ := full_round full
    obtain ⟨rest, layers'⟩ := ih full'
    rw [List.replicate_succ, List.flatten_cons, List.foldl_append]
    exact ⟨rest, layers'.trans layers⟩

/-- In a renewal the slots move on by one generation, too, and hold the new layers. -/
theorem full_renewal (full : Full g ns s) {ls : List Layer} (as_many : ls.length = ns.length) :
    Full g.next (List.range' s.lineup.layers.length ls.length)
        ((renewal ls).foldl perform s) ∧
      ((renewal ls).foldl perform s).lineup.layers = s.lineup.layers ++ ls := by
  obtain ⟨roster, layers, withheld⟩ := lineup_adds ls (s.perform .clear)
  refine ⟨⟨?_, withheld.trans full.withheld⟩, layers⟩
  exact (congrArg Roster.slots roster).trans
    (slots_refill full.slots (List.length_range'.trans as_many))

/-- The rounds until the slots are in their greatest generation, and the renewal after them. -/
def revolve (k : Nat) (ns : List Nat) (ls : List Layer) : List Operation :=
  (List.replicate k (round ns)).flatten ++ renewal ls

theorem restocks_revolve (k : Nat) (ns : List Nat) (ls : List Layer) :
    ∀ o ∈ revolve k ns ls, o.restocks = true := by
  intro o here
  have new : ∀ {o}, o ∈ renewal ls → o.restocks = true := by
    intro o here
    obtain rfl | ⟨l, -, rfl⟩ := by simpa [renewal] using here
    · rfl
    · rfl
  have again : ∀ {o}, o ∈ round ns → o.restocks = true := by
    intro o here
    obtain rfl | ⟨n, -, rfl⟩ := by simpa [round] using here
    · rfl
    · rfl
  obtain rounds | last := List.mem_append.1 here
  · obtain ⟨os, replicated, here⟩ := List.mem_flatten.1 rounds
    rw [List.eq_of_mem_replicate replicated] at here
    exact again here
  · exact new last

/-- **Roles pass to layers that come after generations have started over.** Let the slots of a
session hold layers, all in the first generation; let them leave and come back until the
generations are at the greatest one, and let as many other layers take their places. Then the
handles that named the old layers name the new ones, the roles hold the handles that they held, and
nothing was done. -/
theorem revolution {k : Nat} (turns : k + 1 = greatestGeneration) (full : Full .first ns s)
    (ls : List Layer) (as_many : ls.length = ns.length) :
    Full .first (List.range' s.lineup.layers.length ls.length)
        ((revolve k ns ls).foldl perform s) ∧
      ((revolve k ns ls).foldl perform s).lineup.layers = s.lineup.layers ++ ls ∧
      Undisturbed s ((revolve k ns ls).foldl perform s) := by
  obtain ⟨old, layers⟩ := full_rounds full k
  obtain ⟨new, layers'⟩ := full_renewal old as_many
  have last : (Generation.next^[k] .first).next = .first :=
    Generation.next_of_greatest ((Generation.toNat_iterate_next (by omega)).trans turns)
  have split : (revolve k ns ls).foldl perform s = (renewal ls).foldl perform
      ((List.replicate k (round ns)).flatten.foldl perform s) := List.foldl_append
  rw [last, layers] at new
  rw [layers] at layers'
  exact ⟨split ▸ new, split ▸ layers', undisturbed_foldl (restocks_revolve k ns ls) s⟩

/-! ### Two layers that are replaced while one is next -/

theorem session_after_operations (sc : Scene) (os : List Operation) :
    (sc.after perform (os.reverse.map .operation)).session = os.foldl perform sc.session := by
  rw [Scene.after_operations]

/-- Two layers come; the first becomes the current one and the second the next one. -/
def bridgingStart : List Operation :=
  [.add (.numbered 0), .add (.numbered 1), .configure (some (.toOrder ⟨0⟩ false)),
    .configure (some (.toOrder ⟨1⟩ false))]

/-- After that, the generations start over, and two other layers take the places of the two. The
newest move is the first. -/
def superseding (k : Nat) : List Move :=
  (bridgingStart ++ revolve k [0, 1] [.numbered 2, .numbered 3]).reverse.map .operation

/-- The other layers have the roles, and only the first two were asked for keyframes and
announced. -/
theorem superseded {k : Nat} (turns : k + 1 = greatestGeneration) :
    let s := ((Scene.opening default (.fixed 5)).after perform (superseding k)).session
    Full .first [2, 3] s ∧
      s.lineup.layers = [.numbered 0, .numbered 1, .numbered 2, .numbered 3] ∧
      s.roles.handle? .current = some ⟨0, .first⟩ ∧ s.roles.handle? .next = some ⟨1, .first⟩ ∧
      s.roles.handle? .override = none ∧
      s.deeds = [.announcement .changing 1, .keyframe 1, .announcement .changed 0,
        .keyframe 0] := by
  have full : Full .first [0, 1]
      (bridgingStart.foldl perform (Scene.opening default (.fixed 5)).session) :=
    ⟨by decide +kernel, by decide +kernel⟩
  obtain ⟨new, layers, undisturbed⟩ :=
    revolution turns full [.numbered 2, .numbered 3] rfl
  rw [superseding, session_after_operations, List.foldl_append]
  intro s
  rw [undisturbed.roles, undisturbed.deeds]
  refine ⟨new, layers, ?_⟩
  decide +kernel

/-- These moves are the first four, or make layers come or leave. -/
theorem mem_superseding {k : Nat} {o : Operation} (here : .operation o ∈ superseding k) :
    o ∈ bridgingStart ∨ o.restocks = true := by
  obtain ⟨o, there, ⟨⟩⟩ := List.mem_map.1 here
  obtain start | rest := List.mem_append.1 (List.mem_reverse.1 there)
  · exact .inl start
  · exact .inr (restocks_revolve k _ _ _ rest)

/-- In none of them an override is asked for, -/
theorem not_mem_superseding (k : Nat) (r : Option Switching.Request) :
    Move.operation (.configureOverride r) ∉ superseding k := by
  intro here
  obtain start | restocks := mem_superseding here
  · simp [bridgingStart] at start
  · cases restocks

/-- and the switches are hard ones. -/
theorem hard_of_mem_superseding (k : Nat) (r : Switching.Request)
    (here : Move.operation (.configure (some r)) ∈ superseding k) : r.hardSwitch = true := by
  obtain start | restocks := mem_superseding here
  · obtain rfl | rfl : r = .toOrder ⟨0⟩ false ∨ r = .toOrder ⟨1⟩ false := by
      simpa [bridgingStart] using start
    · rfl
    · rfl
  · cases restocks

end Session

end Simulcast
