import Simulcast.Proofs.Session.Proclamation

/-!
# The override in force

A request for an override decides about it (`Decree`) if it asks for the end of one, also while
there are no layers, or names an order of which a layer is looked up; other requests have no say.
`override_decreed` says that the last decree decides which layer has the override role after every
run: none if it was to lift the override, else the layer that was looked up then, until that
registration ends. That layers may take the slot of one that left, while its handle is still kept,
is no concern of this.
-/

namespace Simulcast.Session

open Switching

variable {s t : Session}

/-! ### Decrees -/

/-- What a request decides about the override. -/
inductive Decree where
  /-- There is to be none. -/
  | lift
  /-- The layer, which the handle names, is to override the decision. -/
  | force (h : Handle) (layer : Nat)
  deriving DecidableEq, Repr

/-- What a request decides about the override, if it does. -/
def decree? (s : Session) (r : Option Request) : Option Decree :=
  match r.bind (·.target) with
  | none => none
  | some .clear => some .lift
  | some (.layer o) => (s.lineup.lookup o).map fun l => .force l.1 l.2

section Requests

variable {r : Option Request} {h : Handle} {layer : Nat}

/-- A request decides nothing if it has no target, or no layer is looked up for it. -/
theorem decree?_eq_none_iff :
    s.decree? r = none ↔
      r.bind (·.target) = none ∨
        ∃ o, r.bind (·.target) = some (.layer o) ∧ s.lineup.lookup o = none := by
  unfold decree?
  split <;> simp [*]

theorem decree?_eq_lift_iff : s.decree? r = some .lift ↔ r.bind (·.target) = some .clear := by
  unfold decree?
  split <;> simp [*]

theorem decree?_eq_force_iff :
    s.decree? r = some (.force h layer) ↔
      ∃ o, r.bind (·.target) = some (.layer o) ∧ s.lineup.lookup o = some (h, layer) := by
  unfold decree?
  split <;> simp [*]

/-- A request that decides nothing about the override may be recorded, and changes nothing else. -/
theorem configureOverride_of_undecreed (undecreed : s.decree? r = none) :
    ∃ journal, s.configureOverride r = { s with journal := journal } := by
  rw [configureOverride]
  obtain aimless | ⟨o, target, missing⟩ := decree?_eq_none_iff.1 undecreed
  · rw [aimless]
    exact ⟨_, rfl⟩
  · simp only [target, setOverride, overrideWith, missing]
    split
    · exact ⟨_, rfl⟩
    · exact ⟨_, rfl⟩

/-- After a request to lift the override there is none. -/
theorem holder?_of_lift (decreed : s.decree? r = some .lift) :
    (s.configureOverride r).holder? .override = none := by
  simp only [configureOverride, decree?_eq_lift_iff.1 decreed, setOverride]
  cases layers : s.lineup.hasLayers with
  | false =>
    -- a handle may be kept, but it names no layer
    show (s.roles.handle? .override).bind s.lineup.resolve = none
    rw [Option.bind_eq_none_iff]
    exact fun h _ => Lineup.resolve_of_not_hasLayers layers h
  | true =>
    show (commit s.clearOverride).holder? .override = none
    rw [holder?_commit, clearOverride_snd]
    simp

/-- After a request to override the decision with a layer, the override role holds its handle. -/
theorem override_of_force (decreed : s.decree? r = some (.force h layer)) :
    (s.configureOverride r).roles.handle? .override = some h ∧
      s.lineup.resolve h = some layer := by
  obtain ⟨o, target, found⟩ := decree?_eq_force_iff.1 decreed
  have layers := Lineup.hasLayers_of_lookup found
  refine ⟨?_, resolve_of_lookup found⟩
  simp [configureOverride, target, setOverride, layers, overrideWith, found]

end Requests

/-! ### Moves -/

/-- What a move decides about the override, if it does. -/
def Move.decree? (s : Session) : Move → Option Decree
  | .operation (.configureOverride r) => s.decree? r
  | _ => none

/-- Whether a move ends what a handle stands for. -/
def Move.ends (h : Handle) : Move → Bool
  | .operation (.remove h') => h = h'
  | .operation .clear => true
  | _ => false

/-- A move ends what a handle stands for if its change of the roster does. -/
theorem Move.ends_change? (m : Move) (s : Session) (h : Handle) :
    (m.change? s).any (·.ends h) = m.ends h := by
  cases m with
  | operation o => cases o <;> rfl
  | packet p => rfl
  | answer => rfl

/-- A move that decides nothing about the override does not touch its role. -/
theorem override_of_undecreed (sc : Scene) {m : Move} (undecreed : m.decree? sc.session = none) :
    (sc.play perform m).session.roles.handle? .override =
      sc.session.roles.handle? .override := by
  by_cases request : ∃ r, m = .operation (.configureOverride r)
  · obtain ⟨r, rfl⟩ := request
    obtain ⟨journal, same⟩ := configureOverride_of_undecreed undecreed
    exact congrArg (·.roles.handle? .override) same
  · exact override_of_stride (stride_play sc m) fun r same => request ⟨r, same⟩

namespace Scene

/-- What was decided last about the override, if anything was. -/
def lastDecree? (sc : Scene) : List Move → Option Decree
  | [] => none
  | m :: past => (m.decree? (sc.after perform past).session).or (sc.lastDecree? past)

/-- The moves after the last decree about the override. -/
def sinceDecree (sc : Scene) : List Move → List Move
  | [] => []
  | m :: past =>
    if (m.decree? (sc.after perform past).session).isSome then [] else m :: sc.sinceDecree past

/-- The override role abides by what was decided last: there is no override unless a layer was
forced, in which case the role holds its handle, and that names the layer until it is ended. -/
def Abides (sc : Scene) (past : List Move) : Prop :=
  let s := (sc.after perform past).session
  match sc.lastDecree? past with
  | some (.force h layer) =>
    s.roles.handle? .override = some h ∧
      s.lineup.resolve h = if (sc.sinceDecree past).any (·.ends h) then none else some layer
  | _ => s.holder? .override = none

variable {sc : Scene} {past : List Move} {m : Move}

/-- The override role abides by what is decided now. -/
theorem abides_of_decree {d : Decree}
    (decreed : m.decree? (sc.after perform past).session = some d) : sc.Abides (m :: past) := by
  obtain ⟨r, rfl⟩ : ∃ r, m = .operation (.configureOverride r) := by
    unfold Move.decree? at decreed
    split at decreed
    · exact ⟨_, rfl⟩
    · cases decreed
  have last : sc.lastDecree? (.operation (.configureOverride r) :: past) = some d := by
    rw [lastDecree?, decreed]
    rfl
  have since : sc.sinceDecree (.operation (.configureOverride r) :: past) = [] := by
    rw [sinceDecree, decreed]
    rfl
  rw [Abides, last, since]
  cases d with
  | lift => exact holder?_of_lift decreed
  | force h layer =>
    obtain ⟨held, there⟩ := override_of_force decreed
    refine ⟨held, ?_⟩
    rw [← there]
    exact congrArg (·.resolve h) (untouched_lineup.configureOverride r _)

/-- Where nothing is decided, the override role goes on to abide by what was decided before, if the
move does nothing to its handle but end what that stands for. -/
theorem Abides.of_undecreed (abides : sc.Abides past)
    (undecreed : m.decree? (sc.after perform past).session = none)
    (moved : ∀ h, (sc.after perform past).session.roles.handle? .override = some h →
      (sc.after perform (m :: past)).session.lineup.resolve h =
        if m.ends h then none else (sc.after perform past).session.lineup.resolve h) :
    sc.Abides (m :: past) := by
  have kept : (sc.after perform (m :: past)).session.roles.handle? .override =
      (sc.after perform past).session.roles.handle? .override := override_of_undecreed _ undecreed
  have last : sc.lastDecree? (m :: past) = sc.lastDecree? past := by
    rw [lastDecree?, undecreed]
    rfl
  have since : sc.sinceDecree (m :: past) = m :: sc.sinceDecree past := by
    rw [sinceDecree, undecreed]
    rfl
  rw [Abides] at abides ⊢
  rw [last, since]
  split at abides
  · obtain ⟨held, names⟩ := abides
    refine ⟨kept.trans held, ?_⟩
    rw [moved _ held, names, List.any_cons]
    cases m.ends _ <;> rfl
  · -- a handle that the role may hold named no layer before
    rw [holder?, Roles.holder?] at abides ⊢
    rw [kept]
    cases held : (sc.after perform past).session.roles.handle? .override with
    | none => rfl
    | some h =>
      have gone : (sc.after perform past).session.lineup.resolve h = none := by
        rwa [held] at abides
      rw [Option.bind_some, moved h held, gone]
      exact ite_self _

end Scene

/-! ### Runs -/

section Runs

variable (channel : Announcement.Channel) (thresholds : Thresholds) {past : List Move}

/-- All handles are answered after any moves. -/
theorem withheld_after
    (room : ∀ i, (Scene.opening channel thresholds).vacated i past < greatestGeneration) :
    ((Scene.opening channel thresholds).after perform past).session.lineup.withheld = [] := by
  have start : Scene.Relieved (.opening channel thresholds) (.opening channel thresholds) :=
    ⟨rfl, rfl, relieved_fresh channel thresholds⟩
  exact (start.after (fun _ => rfl) room).session.withheld

/-- **What a move does to a handle that was issued**: it names nothing if the move ends what it
stands for, and what it named before otherwise. -/
theorem resolve_of_move {m : Move}
    (room : ∀ i, (Scene.opening channel thresholds).vacated i (m :: past) < greatestGeneration)
    {h : Handle}
    (issued : ((Scene.opening channel thresholds).after perform
      past).session.lineup.roster.Issued h) :
    ((Scene.opening channel thresholds).after perform (m :: past)).session.lineup.resolve h =
      if m.ends h then none
      else ((Scene.opening channel thresholds).after perform past).session.lineup.resolve h := by
  have before := withheld_after channel thresholds (Scene.room_before room)
  rw [resolve_of_withheld (withheld_after channel thresholds room), resolve_of_withheld before,
    Scene.after, Scene.roster_play, ← Move.ends_change? m]
  cases m.change? ((Scene.opening channel thresholds).after perform past).session with
  | none => rfl
  | some c => exact Roster.resolve_change_of_issued issued c

/-- **The override role abides by the last decree** after any moves. -/
theorem abides_after
    (room : ∀ i, (Scene.opening channel thresholds).vacated i past < greatestGeneration) :
    (Scene.opening channel thresholds).Abides past := by
  induction past with
  | nil =>
    show (fresh channel thresholds).holder? .override = none
    rw [holder?, Roles.holder?, fresh, handle?_unset]
    rfl
  | cons m past ih =>
    have before := Scene.room_before room
    cases decreed : m.decree? ((Scene.opening channel thresholds).after perform past).session with
    | some d => exact Scene.abides_of_decree decreed
    | none =>
      refine (ih before).of_undecreed decreed fun h held => ?_
      exact resolve_of_move channel thresholds room
        (rooted_after channel thresholds before .override h held)

end Runs

/-- **The last decree is in force.** Take any moves of a scene, the newest first, in which no slot
is vacated so often that its generations start over. If the last decree was to lift the override, or
there was none, there is no override; if it was to override the decision with a layer, this layer
overrides it as long as no move has ended what its handle stands for since, and none does otherwise.
The layer that is looked up for an order is the first one by the slots of the roster, as long as the
indices of the slots have a place in a handle. A request without a target, or for an order of which
there is no layer, may be recorded and changes nothing else. -/
theorem override_decreed (channel : Announcement.Channel) (thresholds : Thresholds)
    (past : List Move)
    (room : ∀ i, (Scene.opening channel thresholds).vacated i past < 2 ^ 32 - 1) :
    let sc := Scene.opening channel thresholds
    let s := (sc.after perform past).session
    s.holder? .override =
        (match sc.lastDecree? past with
        | some (.force h layer) =>
          if (sc.sinceDecree past).any (·.ends h) then none else some layer
        | _ => none) ∧
      (s.lineup.roster.slots.length ≤ 2 ^ 32 →
        ∀ o, (s.lineup.lookup o).map (·.2) = s.lineup.first? o) ∧
      ∀ (s : Session) (r : Option Request),
        (∀ t, r.bind (·.target) = some t →
          ∃ o, t = .layer o ∧ ∀ n ∈ s.lineup.roster.entries, s.lineup.order n ≠ o) →
        ∃ journal, s.configureOverride r = { s with journal := journal } := by
  intro sc s
  have abides : sc.Abides past := abides_after channel thresholds room
  refine ⟨?_, Lineup.lookup_map_snd (withheld_after channel thresholds room), ?_⟩
  · rw [Scene.Abides] at abides
    split at abides
    · obtain ⟨held, names⟩ := abides
      rw [holder?, Roles.holder?, held]
      exact names
    · exact abides
  · intro s r vain
    refine configureOverride_of_undecreed (decree?_eq_none_iff.2 ?_)
    cases target : r.bind (·.target) with
    | none => exact .inl rfl
    | some t =>
      obtain ⟨o, rfl, missing⟩ := vain t target
      refine .inr ⟨o, rfl, ?_⟩
      rw [Lineup.lookup, Lineup.find?_eq_none_iff.2 missing]
      rfl

/-- A layer overrides the decision, all layers leave, and the override is lifted while there are
none; then a layer takes the slot of the first one. -/
def liftedSample : List Move :=
  [.operation (.add (.numbered 0)),
    .operation (.configureOverride (some (.ofTarget .clear))), .operation .clear,
    .operation (.configureOverride (some (.ofTarget (.layer .lowest)))),
    .operation (.add (.numbered 0))]

/-- The override role keeps the handle of the layer that left, but there is no override. -/
theorem lifted_while_empty :
    let s := ((Scene.opening default (.fixed 5)).after perform liftedSample).session
    (∀ i, (Scene.opening default (.fixed 5)).vacated i liftedSample < 2 ^ 32 - 1) ∧
      s.roles.handle? .override = some ⟨0, .first⟩ ∧ s.lineup.hasLayers = true ∧
      s.holder? .override = none := by
  intro s
  have room := (Scene.opening default (.fixed 5)).room_of_length
    (show liftedSample.length < greatestGeneration by decide)
  obtain ⟨decided, -⟩ := override_decreed default (.fixed 5) liftedSample room
  have last : (Scene.opening default (.fixed 5)).lastDecree? liftedSample = some .lift := by
    decide +kernel
  refine ⟨room, by decide +kernel, by decide +kernel, ?_⟩
  rw [last] at decided
  exact decided

end Simulcast.Session
