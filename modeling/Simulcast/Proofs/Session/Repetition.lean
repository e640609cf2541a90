import Simulcast.Proofs.Session.Retreat

/-!
# Asking once more

A request that is repeated changes nothing that the first one left, as long as the layers stay as
they are. Requests look at the layers and at the state of the engine, and at nothing else of a
session, so this is said of any session that looks to them like the one after the first request
(`Resembles`). That session complies with the request (`Complied`), and following a request that is
complied with is harmless. `repetition_harmless` says so of all requests for a switch.
-/

namespace Simulcast

open Switching

/-! ### Layers that look alike -/

/-- Requests see the same layers: the same ones are there, of the same orders, and packets of the
same ones arrive. -/
structure Lineup.Resembles (t u : Lineup) : Prop where
  /-- The same layers are there. -/
  roster : u.roster = t.roster
  /-- The same handles are not answered. -/
  withheld : u.withheld = t.withheld
  /-- Layers rank as before. -/
  order : ∀ n, u.order n = t.order n
  /-- Packets of the same layers arrive. -/
  streaming : ∀ n, (u.layer n).streaming = (t.layer n).streaming

namespace Lineup.Resembles

variable {t u v : Lineup}

theorem refl (t : Lineup) : t.Resembles t := ⟨rfl, rfl, fun _ => rfl, fun _ => rfl⟩

theorem trans (first : t.Resembles u) (second : u.Resembles v) : t.Resembles v :=
  ⟨second.roster.trans first.roster, second.withheld.trans first.withheld,
    fun n => (second.order n).trans (first.order n),
    fun n => (second.streaming n).trans (first.streaming n)⟩

variable (alike : t.Resembles u)
include alike

theorem resolve (h : Handle) : u.resolve h = t.resolve h := by
  rw [Lineup.resolve, Lineup.resolve, alike.withheld, alike.roster]

theorem find? (o : Layer.Order) : u.find? o = t.find? o := by
  simp only [Lineup.find?, alike.roster, alike.order]

theorem lookup (o : Layer.Order) : u.lookup o = t.lookup o := by
  simp only [Lineup.lookup, alike.find?, alike.resolve]

theorem hasLayers : u.hasLayers = t.hasLayers := by
  rw [Lineup.hasLayers, Lineup.hasLayers, alike.roster]

theorem highest? : u.highest? = t.highest? := by
  have order : u.order = t.order := funext alike.order
  rw [Lineup.highest?, Lineup.highest?, alike.roster, order]

end Lineup.Resembles

namespace Session

variable {s t u : Session} {r : Request} {o : Layer.Order} {h : Handle} {layer : Nat}

/-! ### Sessions that look alike -/

/-- Sessions look alike to requests: the layers do, the roles hold the same handles, and count and
threshold are the same. -/
structure Resembles (s t : Session) : Prop where
  /-- The layers look alike. -/
  lineup : s.lineup.Resembles t.lineup
  /-- The roles hold the same handles. -/
  handle : ∀ role, t.roles.handle? role = s.roles.handle? role
  /-- As many packets of the next layer were seen. -/
  seenNext : t.seenNext = s.seenNext
  /-- As many are to be seen. -/
  minNextSeen : t.minNextSeen = s.minNextSeen

namespace Resembles

theorem refl (s : Session) : Resembles s s := ⟨.refl _, fun _ => rfl, rfl, rfl⟩

theorem trans (first : Resembles s t) (second : Resembles t u) : Resembles s u :=
  ⟨first.lineup.trans second.lineup, fun role => (second.handle role).trans (first.handle role),
    second.seenNext.trans first.seenNext, second.minNextSeen.trans first.minNextSeen⟩

end Resembles

/-- Who has a role depends on the handle and on how the layers look. -/
theorem holder?_resembles (lineup : s.lineup.Resembles t.lineup) {role : Role}
    (handle : t.roles.handle? role = s.roles.handle? role) : t.holder? role = s.holder? role := by
  have resolve : t.lineup.resolve = s.lineup.resolve := funext lineup.resolve
  rw [holder?, holder?, Roles.holder?, Roles.holder?, handle, resolve]

theorem ready_resembles (lineup : s.lineup.Resembles t.lineup) (layer : Nat) :
    t.ready layer = s.ready layer := by
  have order : (t.lineup.layer layer).order = (s.lineup.layer layer).order := lineup.order layer
  rw [ready, ready, order, lineup.streaming]

/-- Whether a request is refused depends on how the layers look, -/
theorem Refused.of_resembles (lineup : s.lineup.Resembles t.lineup) (refused : s.Refused r) :
    t.Refused r := by
  cases refused with
  | aimless order => exact .aimless order
  | empty none => exact .empty (lineup.hasLayers.trans none)
  | unknown order none =>
    refine .unknown order fun n there => ?_
    rw [lineup.order]
    exact none n (lineup.roster ▸ there)
  | unanswered order first gone =>
    exact .unanswered order ((lineup.find? _).trans first) ((lineup.resolve _).trans gone)
  | stopped order found unable =>
    exact .stopped order ((lineup.lookup _).trans found) ((ready_resembles lineup _).trans unable)

/-- and so does where it leads. -/
theorem Leads.of_resembles (lineup : s.lineup.Resembles t.lineup) (leads : s.Leads r o h layer) :
    t.Leads r o h layer :=
  ⟨leads.order, (lineup.lookup o).trans leads.found,
    (ready_resembles lineup layer).trans leads.able⟩

/-- Whether it settles depends on the current layer and on the threshold, too. -/
theorem settles_resembles (lineup : s.lineup.Resembles t.lineup)
    (current : t.roles.handle? .current = s.roles.handle? .current)
    (threshold : r.minNextSeen.getD t.minNextSeen = r.minNextSeen.getD s.minNextSeen)
    (h : Handle) : t.Settles r h ↔ s.Settles r h := by
  rw [Settles, Settles, current, threshold, holder?_resembles lineup current]

/-! ### Requests that are complied with -/

/-- A request is complied with: following it is of no more use. -/
inductive Complied (r : Request) (s : Session) : Prop
  /-- It is refused. -/
  | refused (refused : s.Refused r)
  /-- Its layer is the current one, and there is no next one. -/
  | settled {o : Layer.Order} {h : Handle} {layer : Nat} (leads : s.Leads r o h layer)
    (current : s.roles.handle? .current = some h) (next : s.roles.handle? .next = none)
    (uncounted : s.seenNext = 0)
  /-- Its layer is the next one beside the current one, and none of its packets was seen. -/
  | bridged {o : Layer.Order} {h : Handle} {layer : Nat} (leads : s.Leads r o h layer)
    (bridges : ¬ s.Settles r h) (next : s.roles.handle? .next = some h)
    (uncounted : s.seenNext = 0)

theorem Complied.of_resembles (alike : Resembles s t) (complied : Complied r s) :
    Complied r t := by
  cases complied with
  | refused refused => exact .refused (refused.of_resembles alike.lineup)
  | settled leads current next uncounted =>
    exact .settled (leads.of_resembles alike.lineup) ((alike.handle _).trans current)
      ((alike.handle _).trans next) (alike.seenNext.trans uncounted)
  | @bridged o h layer leads bridges next uncounted =>
    have same := settles_resembles alike.lineup (alike.handle .current)
      (congrArg r.minNextSeen.getD alike.minNextSeen) h
    exact .bridged (leads.of_resembles alike.lineup) (mt same.1 bridges)
      ((alike.handle _).trans next) (alike.seenNext.trans uncounted)

/-- The threshold of a request that was followed is not changed by following it again. -/
theorem getD_minNextSeen_configure (r : Request) (s : Session) :
    r.minNextSeen.getD (s.configure (some r)).minNextSeen =
      (s.configure (some r)).minNextSeen := by
  rw [minNextSeen_configure]
  cases r.minNextSeen <;> rfl

/-- **A request that was followed is complied with.** -/
theorem complied_configure (r : Request) (s : Session) : Complied r (s.configure (some r)) := by
  have lineup : s.lineup.Resembles (s.configure (some r)).lineup := by
    rw [untouched_lineup.configure]
    exact .refl _
  obtain refused | ⟨o, h, layer, leads⟩ := s.refused_or_leads r
  · exact .refused (refused.of_resembles lineup)
  · by_cases settles : s.Settles r h
    · obtain ⟨current, next⟩ := leads.settled settles
      exact .settled (leads.of_resembles lineup) current next leads.uncounted
    · obtain ⟨current, next⟩ := leads.bridged settles
      have threshold : r.minNextSeen.getD (s.configure (some r)).minNextSeen =
          r.minNextSeen.getD s.minNextSeen := by
        rw [getD_minNextSeen_configure, minNextSeen_configure]
      have same := settles_resembles lineup current threshold h
      exact .bridged (leads.of_resembles lineup) (mt same.1 settles) next leads.uncounted

/-! ### Following them once more -/

/-- What was done from one session to another is harmless: they look alike, the engine switched to
no layer and asked for no keyframe, and at most it announced that the next layer is about to be
forwarded. -/
structure Harmless (s t : Session) : Prop where
  /-- The sessions look alike. -/
  alike : Resembles s t
  /-- The engine switched to no layer. -/
  switches : t.tally.switches = s.tally.switches
  /-- It did nothing, or announced the next layer once more. -/
  deeds : t.deeds = s.deeds ∨
    ∃ layer, t.holder? .next = some layer ∧ t.deeds = .announcement .changing layer :: s.deeds

/-- After a request sessions look alike if the current and the next role and the count do, where
layers, override and threshold did before. -/
theorem resembles_configure (lineup : s.lineup.Resembles u.lineup)
    (override : u.roles.handle? .override = s.roles.handle? .override)
    (threshold : r.minNextSeen.getD u.minNextSeen = s.minNextSeen)
    (current : (u.configure (some r)).roles.handle? .current = s.roles.handle? .current)
    (next : (u.configure (some r)).roles.handle? .next = s.roles.handle? .next)
    (count : (u.configure (some r)).seenNext = s.seenNext) :
    Resembles s (u.configure (some r)) := by
  refine ⟨?_, fun role => ?_, count, ?_⟩
  · rw [untouched_lineup.configure]
    exact lineup
  · cases role with
    | current => exact current
    | next => exact next
    | override => exact (override_configure _ u).trans override
  · rw [minNextSeen_configure, threshold]

/-- **Following a request that is complied with is harmless.** -/
theorem Complied.harmless (complied : Complied r s)
    (threshold : r.minNextSeen.getD s.minNextSeen = s.minNextSeen) :
    Harmless s (s.configure (some r)) := by
  cases complied with
  | refused refused =>
    obtain ⟨journal, same⟩ := configure_of_refused (some r) refused
    rw [same]
    exact ⟨⟨.refl _, fun _ => rfl, rfl, threshold⟩, rfl, .inl rfl⟩
  | @settled o h layer leads current next uncounted =>
    obtain ⟨current', next'⟩ := leads.settled (.inl current)
    have stays : s.configure (some r) = (s.setThreshold r).dropNext := by
      rw [configure, transition_of_leads leads, if_pos current]
      rfl
    refine ⟨resembles_configure (.refl _) rfl threshold (current'.trans current.symm)
      (next'.trans next.symm) (leads.uncounted.trans uncounted.symm), ?_, .inl ?_⟩
    · rw [stays]
      rfl
    · rw [stays]
      rfl
  | @bridged o h layer leads bridges next uncounted =>
    obtain ⟨current', next'⟩ := leads.bridged bridges
    have lineup := untouched_lineup.configure (some r) s
    obtain ⟨other, beside⟩ := not_or.1 bridges
    have waits : (s.setThreshold r).isImmediate r = false :=
      Bool.eq_false_iff.2 (mt isImmediate_setThreshold.1 beside)
    have pending : (s.setThreshold r).needsKeyframe r h = false := by
      simp [needsKeyframe, next]
    refine ⟨resembles_configure (.refl _) rfl threshold current' (next'.trans next.symm)
      (leads.uncounted.trans uncounted.symm), ?_, ?_⟩
    · rw [configure, commit_switches, transition_of_leads leads, if_neg other, switchTo_snd, waits]
      rfl
    · rw [deeds_configure, transition_of_leads leads, if_neg other, switchTo_fst,
        announcementUnlessOverridden]
      simp only [waits, pending, Bool.false_eq_true, if_false, List.nil_append]
      split
      · exact .inl rfl
      · refine .inr ⟨layer, ?_, rfl⟩
        rw [holder?, Roles.holder?, next', lineup]
        exact resolve_of_lookup leads.found

/-! ### The lowest layer once more -/

theorem stoppedNext?_resembles (alike : Resembles s t) : t.stoppedNext? = s.stoppedNext? := by
  simp only [stoppedNext?, holder?_resembles alike.lineup (alike.handle .next),
    alike.lineup.streaming]

/-- Giving up a next layer depends on what requests see. -/
theorem Resembles.abandonNext (alike : Resembles s t) :
    Resembles (commit s.abandonNext) (commit t.abandonNext) := by
  have stopped := stoppedNext?_resembles alike
  refine ⟨?_, fun role => ?_, ?_, ?_⟩
  · rw [lineup_abandonNext, lineup_abandonNext]
    exact alike.lineup
  · rw [handle?_abandonNext, handle?_abandonNext, stopped, alike.handle]
  · rw [seenNext_abandonNext, seenNext_abandonNext, stopped, alike.seenNext]
  · rw [minNextSeen_abandonNext, minNextSeen_abandonNext, alike.minNextSeen]

/-- A layer that a request makes the next one becomes the next one again after it was given up. -/
theorem Leads.resembles_of_abandoned (leads : s.Leads r o h layer) (bridges : ¬ s.Settles r h)
    (next : s.roles.handle? .next = some h) (uncounted : s.seenNext = 0)
    (threshold : r.minNextSeen.getD s.minNextSeen = s.minNextSeen)
    (between : Resembles (commit s.abandonNext) u) : Resembles s (u.configure (some r)) := by
  have lineup : s.lineup.Resembles u.lineup := lineup_abandonNext s ▸ between.lineup
  have kept (role : Role) (other : role ≠ .next) :
      u.roles.handle? role = s.roles.handle? role := by
    rw [between.handle, handle?_abandonNext, if_neg (not_and_of_not_left _ other)]
  have count : r.minNextSeen.getD u.minNextSeen = r.minNextSeen.getD s.minNextSeen := by
    rw [between.minNextSeen, minNextSeen_abandonNext]
  have same := settles_resembles lineup (kept .current (by decide)) count h
  have leads' := leads.of_resembles lineup
  obtain ⟨current', next'⟩ := leads'.bridged (mt same.1 bridges)
  exact resembles_configure lineup (kept .override (by decide)) (count.trans threshold)
    (current'.trans (kept .current (by decide))) (next'.trans next.symm)
    (leads'.uncounted.trans uncounted.symm)

/-- Where the lowest layer was asked for, the request is complied with, or following it once more
leads back to where the next layer was given up. -/
theorem complied_or_abandoned {urgent : Bool} (between : Resembles (s.receiveLow urgent) u) :
    Complied (.toOrder .lowest urgent) u ∨
      Resembles (s.configure (some (.toOrder .lowest urgent)))
        (u.configure (some (.toOrder .lowest urgent))) := by
  rw [receiveLow] at between
  have complied := complied_configure (.toOrder .lowest urgent) s
  generalize s.configure (some (.toOrder .lowest urgent)) = c at between complied ⊢
  have lineup : c.lineup.Resembles u.lineup := lineup_abandonNext c ▸ between.lineup
  cases stopped : c.stoppedNext? with
  | none =>
    rw [commit_abandonNext_of_none stopped] at between
    exact .inl (complied.of_resembles between)
  | some n =>
    obtain ⟨holds, -⟩ := stoppedNext?_eq_some_iff.1 stopped
    cases complied with
    | refused refused => exact .inl (.refused (refused.of_resembles lineup))
    | settled leads current next uncounted =>
      -- there is no next layer that could be given up
      rw [holder?, Roles.holder?, next] at holds
      cases holds
    | bridged leads bridges next uncounted =>
      exact .inr (leads.resembles_of_abandoned bridges next uncounted rfl between)

/-- Asking for the lowest layer once more leaves what requests see. -/
theorem resembles_receiveLow {urgent : Bool} (between : Resembles (s.receiveLow urgent) u) :
    Resembles (s.receiveLow urgent) (u.receiveLow urgent) := by
  obtain complied | abandoned := complied_or_abandoned between
  · have arrives : u.stoppedNext? = none := by
      rw [stoppedNext?_resembles between, receiveLow, stoppedNext?_abandonNext]
    have once := (complied.harmless rfl).alike.abandonNext
    rw [commit_abandonNext_of_none arrives] at once
    exact between.trans once
  · exact abandoned.abandonNext

/-! ### Any request -/

/-- A request that is followed, or that is missing, is harmless once it was followed. -/
theorem harmless_configure (r : Option Request) (between : Resembles (s.configure r) u) :
    Harmless u (u.configure r) := by
  cases r with
  | none => exact ⟨⟨.refl _, fun _ => rfl, rfl, rfl⟩, rfl, .inl rfl⟩
  | some r =>
    refine ((complied_configure r s).of_resembles between).harmless ?_
    rw [between.minNextSeen, getD_minNextSeen_configure]

/-- **Asking once more is harmless.** Take a session that looks to requests like the one after a
request, be it that very session. Following the request in it leaves the roles, count and threshold
as they are, switches to no layer, asks for no keyframe, and at most announces once more that the
next layer is about to be forwarded. The same is true of asking for the highest layer. Asking for
the lowest layer leaves the roles, count and threshold as they are. -/
theorem repetition_harmless (s u : Session) :
    (∀ r, Resembles (s.configure r) u → Harmless u (u.configure r)) ∧
      (Resembles s.receiveHigh u → Harmless u u.receiveHigh) ∧
      ∀ urgent, Resembles (s.receiveLow urgent) u →
        Resembles (s.receiveLow urgent) (u.receiveLow urgent) := by
  refine ⟨fun r between => harmless_configure r between, fun between => ?_,
    fun urgent between => resembles_receiveLow between⟩
  have highest : u.lineup.highest? = s.lineup.highest? := by
    rw [between.lineup.highest?, untouched_lineup.receiveHigh]
  rw [receiveHigh] at between ⊢
  rw [highest]
  cases top : s.lineup.highest? with
  | none => exact ⟨⟨.refl _, fun _ => rfl, rfl, rfl⟩, rfl, .inl rfl⟩
  | some o =>
    rw [top] at between
    exact harmless_configure _ between

end Session

end Simulcast
