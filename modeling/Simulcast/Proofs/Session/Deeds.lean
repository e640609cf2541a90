import Simulcast.Proofs.Session.Override
import Simulcast.Proofs.Session.Removal

/-!
# What the engine did

Layers and endpoints notice only the deeds of an engine: the keyframes that it asked for and the
announcements that it handed over, one after the other and whatever became of them. This module
says once what every part of the engine does to the roles and which deeds go with it: `Followed`
lists what following a request may come to, and `Stride` what a move of a scene may come to. What
holds of the roles and the deeds after every run is derived from these two.
-/

namespace Simulcast.Session

open Switching

variable {s t : Session}

/-! ### Deeds -/

/-- What was done when something happened; reading the threshold is no deed. -/
def Happening.deed? : Happening → Option Effect
  | .thresholdRead _ _ => none
  | .keyframe layer => some (.keyframe layer)
  | .announced kind layer _ => some (.announcement kind layer)

/-- What the engine did, the newest first. -/
def deeds (s : Session) : List Effect := s.happenings.filterMap Happening.deed?

theorem aside_deeds : Aside deeds := fun _ _ _ _ _ _ => rfl

theorem deeds_apply (s : Session) (e : Effect) : (s.apply e).deeds = e :: s.deeds := by
  cases e with
  | keyframe layer => rfl
  | announcement kind layer => rfl

/-- Effects that are carried out are deeds, the last one the newest. -/
@[simp] theorem deeds_commit (c : List Effect × Session) :
    (commit c).deeds = c.1.reverse ++ c.2.deeds := by
  obtain ⟨es, s⟩ := c
  induction es generalizing s with
  | nil => rfl
  | cons e es ih =>
    calc (commit (e :: es, s)).deeds
        = es.reverse ++ (s.apply e).deeds := ih (s.apply e)
      _ = (e :: es).reverse ++ s.deeds := by rw [deeds_apply]; simp

@[simp] theorem deeds_readThreshold (s : Session) : s.readThreshold.deeds = s.deeds := by
  cases hi : s.initialized with
  | true => rw [readThreshold_of_initialized hi]
  | false =>
    rw [readThreshold_of_not_initialized hi]
    rfl

theorem deeds_conclude (p : Packet) (selected : Bool) (s : Session) :
    (s.conclude p selected).2.deeds = s.deeds := by
  unfold conclude
  split
  · rfl
  · unfold trickle
    simp only
    split <;> rfl

/-- The keyframes that a layer was asked for are deeds. -/
theorem keyframes_eq_count (s : Session) (layer : Nat) :
    s.keyframes layer = s.deeds.count (.keyframe layer) := by
  unfold keyframes deeds
  induction s.happenings with
  | nil => rfl
  | cons h hs ih =>
    cases h with
    | thresholdRead key default =>
      rw [List.count_cons, ih]
      rfl
    | keyframe n => simp [Happening.deed?, List.count_cons, ih]
    | announced kind n delivery => simpa [Happening.deed?, List.count_cons] using ih

/-! ### Who has a role -/

@[simp] theorem holder?_commit (c : List Effect × Session) (role : Role) :
    (commit c).holder? role = c.2.holder? role :=
  holder?_congr (commit_lineup c) (by rw [commit_roles])

@[simp] theorem holder?_note (e : Journal.Event) (role : Role) (s : Session) :
    (s.note e).holder? role = s.holder? role := rfl

@[simp] theorem holder?_assign (role other : Role) (h : Option Handle) (s : Session) :
    (s.assign role h).holder? other =
      if other = role then h.bind s.lineup.resolve else s.holder? other := by
  simp only [holder?, Roles.holder?, assign, Roles.handle?_set]
  split <;> rfl

@[simp] theorem holder?_dropNext (role : Role) (s : Session) :
    s.dropNext.holder? role = if role = .next then none else s.holder? role :=
  (holder?_assign .next role none s).trans rfl

@[simp] theorem holder?_makeCurrent (role : Role) (h : Handle) (promoted : Bool) (s : Session) :
    (s.makeCurrent h promoted).holder? role =
      if role = .next then none
      else if role = .current then s.lineup.resolve h else s.holder? role := by
  show (s.assign .current (some h)).dropNext.holder? role = _
  rw [holder?_dropNext, holder?_assign]
  rfl

@[simp] theorem holder?_makeNext (role : Role) (h : Handle) (s : Session) :
    (s.makeNext h).holder? role =
      if role = .next then s.lineup.resolve h else s.holder? role :=
  holder?_assign .next role (some h) s

/-! ### Following a request -/

/-- What following a request may come to, the threshold of the request being taken over already. -/
inductive Followed (r : Request) (s : Session) : List Effect × Session → Prop
  /-- The request is only about the threshold. -/
  | idle : Followed r s ([], s)
  /-- The request is refused. -/
  | refused (e : Journal.Event) : Followed r s ([], s.note e)
  /-- The layer asked for is the current one already. -/
  | stays {o : Layer.Order} {h : Handle} {layer : Nat} (order : r.nextOrder = some o)
    (found : s.lineup.lookup o = some (h, layer)) (held : s.roles.handle? .current = some h) :
    Followed r s ([], s.dropNext)
  /-- The engine switches to the layer asked for. -/
  | switches {o : Layer.Order} {h : Handle} {layer : Nat} (order : r.nextOrder = some o)
    (found : s.lineup.lookup o = some (h, layer)) (other : s.roles.handle? .current ≠ some h) :
    Followed r s (s.switchTo r o h layer)

theorem followed_transition (r : Request) (s : Session) :
    Followed r (s.setThreshold r) (s.transition r) := by
  unfold transition
  generalize s.setThreshold r = s
  cases order : r.nextOrder with
  | none => exact .idle
  | some o =>
    simp only [switchToOrder]
    split
    · exact .refused _
    · cases found : s.lineup.lookup o with
      | none => exact .refused _
      | some l =>
        obtain ⟨h, layer⟩ := l
        simp only
        split
        · exact .refused _
        · split
          · rename_i held
            exact .stays order found held
          · rename_i other
            exact .switches order found other

/-! ### The other changes -/

/-- Giving up a next layer whose packets stopped changes nothing, or gives it up and says so. -/
theorem abandonNext_eq (s : Session) :
    s.abandonNext = ([], s) ∨
      ∃ layer e, s.abandonNext = ([.announcement .stopped layer], (s.note e).dropNext) := by
  unfold abandonNext
  split
  · exact .inl rfl
  · simp only
    split
    · exact .inl rfl
    · exact .inr ⟨_, _, rfl⟩

/-- Lifting the override takes the override role from its layer. -/
theorem clearOverride_snd (s : Session) :
    s.clearOverride.2 = (s.assign .override none).note .overrideCleared := by
  unfold clearOverride
  simp only
  split <;> rfl

/-- What counting a packet for what a handle names may come to. -/
inductive Heeded (h : Handle) (s : Session) : List Effect × Session → Prop
  /-- It is counted in vain: the next role does not hold the handle, or the layer has left. -/
  | vain : Heeded h s ([], s)
  /-- It is counted for the next layer. -/
  | counted : Heeded h s ([], s.countNext)
  /-- It is counted for the next layer, which takes over with it. -/
  | takesOver {layer : Nat} (pending : s.roles.handle? .next = some h)
    (there : s.lineup.resolve h = some layer) (e : Journal.Event) :
    Heeded h s (s.countNext.announcementUnlessOverridden .changed layer,
      (s.countNext.note e).makeCurrent h true)

theorem heeded_promote (h : Handle) (s : Session) : Heeded h s (s.promote h) := by
  by_cases pending : s.roles.handle? .next = some h
  · cases there : s.lineup.resolve h with
    | none =>
      rw [promote_of_gone there]
      exact .vain
    | some layer =>
      rw [promote_of_pending pending there]
      split
      · exact .takesOver pending there _
      · exact .counted
  · rw [promote_of_ne pending]
    exact .vain

/-! ### Requests of operations -/

/-- The request for a switch that an operation makes. -/
def Operation.request? (s : Session) : Operation → Option Request
  | .configure r => r
  | .receiveHigh => s.lineup.highest?.map (.toOrder · false)
  | .receiveLow urgent => some (.toOrder .lowest urgent)
  | _ => none

/-- Whether layers leave the roster by a move. -/
def Move.leaves : Move → Bool
  | .operation (.remove _) => true
  | .operation .clear => true
  | _ => false

/-! ### What a move comes to -/

/-- Neither the layers nor the roles are moved, and nothing is done. -/
structure Still (s t : Session) : Prop where
  /-- The layers are the same. -/
  lineup : t.lineup = s.lineup
  /-- The roles hold the same handles. -/
  roles : t.roles = s.roles
  /-- The same was done. -/
  deeds : t.deeds = s.deeds

theorem Still.holder? (still : Still s t) (role : Role) : t.holder? role = s.holder? role :=
  holder?_congr still.lineup (by rw [still.roles])

/-- What a move may come to: where the session goes from `s`. -/
inductive Stride (s : Session) : Move → Session → Prop
  /-- No role is moved and nothing is done; handles that were issued resolve as before. -/
  | rest {m : Move} {t : Session} (roles : t.roles = s.roles) (deeds : t.deeds = s.deeds)
    (resolve : ∀ h, s.lineup.roster.Issued h → t.lineup.resolve h = s.lineup.resolve h) :
    Stride s m t
  /-- Layers leave: some handles resolve no more. -/
  | leave {m : Move} {t : Session} (leaves : m.leaves = true) (roles : t.roles = s.roles)
    (deeds : t.deeds = s.deeds)
    (resolve : ∀ h, t.lineup.resolve h = s.lineup.resolve h ∨ t.lineup.resolve h = none) :
    Stride s m t
  /-- A request is followed. -/
  | follow {o : Operation} {r : Request} (asked : o.request? s = some r) :
    Stride s (.operation o) (s.configure (some r))
  /-- A request is followed, and a next layer whose packets stopped is given up. -/
  | followLow {o : Operation} {r : Request} (asked : o.request? s = some r) :
    Stride s (.operation o) (commit (s.configure (some r)).abandonNext)
  /-- The override is lifted. -/
  | lift {r : Option Request} :
    Stride s (.operation (.configureOverride r)) (commit s.clearOverride)
  /-- A layer overrides the decision from now on. -/
  | force {r : Option Request} {o : Layer.Order} {h : Handle} {layer : Nat}
    (found : s.lineup.lookup o = some (h, layer)) :
    Stride s (.operation (.configureOverride r)) (commit
      ([.keyframe layer, .announcement .changed layer],
        (s.assign .override (some h)).note (.overridden o)))
  /-- A packet is counted for what the handle names. -/
  | promote {h : Handle} {t : Session} (still : Still (commit (s.promote h)) t) :
    Stride s .answer t

/-- If the layers are the same, handles resolve as before. -/
theorem Stride.of_still {m : Move} (still : Still s t) : Stride s m t :=
  .rest still.roles still.deeds fun _ _ => by rw [still.lineup]

theorem still_note (e : Journal.Event) (s : Session) : Still s (s.note e) := ⟨rfl, rfl, rfl⟩

theorem still_readThreshold (s : Session) : Still s s.readThreshold :=
  ⟨readThreshold_lineup s, readThreshold_roles s, deeds_readThreshold s⟩

theorem still_forget (source : Source) (s : Session) : Still s (s.forget source) := by
  unfold forget
  split
  · exact ⟨rfl, rfl, rfl⟩
  · exact ⟨rfl, rfl, rfl⟩

theorem stride_configureOverride (r : Option Request) (s : Session) :
    Stride s (.operation (.configureOverride r)) (s.configureOverride r) := by
  unfold configureOverride
  split
  · exact .of_still ⟨rfl, rfl, rfl⟩
  · unfold setOverride
    split
    · exact .of_still (still_note _ s)
    · split
      · exact .lift
      · rename_i o _
        unfold overrideWith
        cases found : s.lineup.lookup o with
        | none => exact .of_still (still_note _ s)
        | some l => exact .force found

/-- Handles resolve as before if they do in the roster, the same handles being withheld. -/
theorem resolve_of_roster {u v : Lineup} {h : Handle} (withheld : v.withheld = u.withheld)
    (same : v.roster.resolve h = u.roster.resolve h) : v.resolve h = u.resolve h := by
  rw [Lineup.resolve, Lineup.resolve, withheld, same]

/-- No handle starts to resolve if none does in the roster. -/
theorem resolve_of_thinned {u v : Lineup} (withheld : v.withheld = u.withheld)
    (thinned : u.roster.Thinned v.roster) (h : Handle) :
    v.resolve h = u.resolve h ∨ v.resolve h = none := by
  obtain same | gone := thinned.resolve h
  · exact .inl (resolve_of_roster withheld same)
  · right
    rw [Lineup.resolve, gone]
    exact ite_self none

theorem stride_remove (h : Handle) (s : Session) :
    Stride s (.operation (.remove h)) (s.remove h).2 := by
  have lineup : (s.remove h).2.lineup = (s.lineup.remove h).2 :=
    congrArg Course.lineup (course_remove h s)
  refine .leave rfl ((Blind.remove h).roles s) ?_ ?_
  · unfold remove
    split <;> rfl
  · rw [lineup]
    exact resolve_of_thinned rfl (Roster.thinned_remove h _)

/-- **What an operation comes to.** -/
theorem stride_perform (s : Session) (o : Operation) : Stride s (.operation o) (s.perform o) := by
  cases o with
  | configure r =>
    cases r with
    | none => exact .of_still (still_note _ s)
    | some r => exact .follow rfl
  | configureOverride r => exact stride_configureOverride r s
  | receiveHigh =>
    simp only [perform, receiveHigh]
    cases highest : s.lineup.highest? with
    | none => exact .of_still (still_note _ s)
    | some o => exact .follow (by simp [Operation.request?, highest])
  | receiveLow urgent => exact .followLow rfl
  | readThreshold => exact .of_still (still_readThreshold s)
  | forget source => exact .of_still (still_forget source s)
  | add l =>
    exact .rest rfl rfl fun _ issued =>
      resolve_of_roster rfl (Roster.resolve_insert_of_issued _ issued)
  | insert layer =>
    exact .rest rfl rfl fun _ issued =>
      resolve_of_roster rfl (Roster.resolve_insert_of_issued _ issued)
  | remove h => exact stride_remove h s
  | clear => exact .leave rfl rfl rfl (resolve_of_thinned rfl (Roster.thinned_clear _))
  | alter layer l => exact .rest rfl rfl fun _ _ => rfl
  | alterReceiver e => exact .rest rfl rfl fun _ _ => rfl
  | alterSender e => exact .rest rfl rfl fun _ _ => rfl

/-! ### Decisions -/

theorem steady_roles : Steady (·.roles) :=
  ⟨readThreshold_roles, fun p selected s => conclude_roles p selected s⟩

theorem steady_deeds : Steady deeds := ⟨deeds_readThreshold, deeds_conclude⟩

theorem still_begin (p : Packet) (s : Session) : Still s (s.begin p).2 :=
  ⟨steady_lineup.begin p s, steady_roles.begin p s, steady_deeds.begin p s⟩

/-- An answer moves no role unless it makes a packet count for the next layer. -/
theorem stride_answer (q : Inquiry) (s : Session) : Stride s .answer (s.answer q).2 := by
  have lineup := steady_lineup.answer_eq_credited q s
  have roles := steady_roles.answer_eq_credited q s
  have deeds := steady_deeds.answer_eq_credited q s
  rcases credited_eq q s with same | ⟨h, counted⟩
  · rw [same] at lineup roles deeds
    exact .of_still ⟨lineup, roles, deeds⟩
  · rw [counted] at lineup roles deeds
    exact .promote ⟨lineup, roles, deeds⟩

/-- **What a move comes to.** -/
theorem stride_play (sc : Scene) (m : Move) :
    Stride sc.session m (sc.play perform m).session := by
  have advance := sc.advance_play m
  generalize (sc.play perform m).session = t at advance ⊢
  cases advance with
  | performs o => exact stride_perform sc.session o
  | begins p => exact .of_still (still_begin p sc.session)
  | idles unasked => exact .of_still ⟨rfl, rfl, rfl⟩
  | answers asked => exact stride_answer _ sc.session

/-! ### What no move takes back -/

theorem deeds_suffix_commit (c : List Effect × Session) : c.2.deeds <:+ (commit c).deeds := by
  rw [deeds_commit]
  exact List.suffix_append _ _

theorem deeds_suffix_configure (r : Request) (s : Session) :
    s.deeds <:+ (s.configure (some r)).deeds := by
  have made := deeds_suffix_commit (s.transition r)
  rwa [aside_deeds.apart.transition] at made

theorem deeds_suffix_abandonNext (s : Session) : s.deeds <:+ (commit s.abandonNext).deeds := by
  have made := deeds_suffix_commit s.abandonNext
  rwa [aside_deeds.apart.abandonNext] at made

/-- **What was done stays done.** -/
theorem Stride.deeds_suffix {m : Move} (stride : Stride s m t) : s.deeds <:+ t.deeds := by
  cases stride with
  | rest roles deeds resolve => exact deeds ▸ List.suffix_refl _
  | leave leaves roles deeds resolve => exact deeds ▸ List.suffix_refl _
  | follow asked => exact deeds_suffix_configure _ s
  | followLow asked =>
    exact (deeds_suffix_configure _ s).trans (deeds_suffix_abandonNext _)
  | lift =>
    have made := deeds_suffix_commit s.clearOverride
    rwa [aside_deeds.apart.clearOverride] at made
  | @force _ o _ _ found =>
    have made := deeds_suffix_commit (s.overrideWith o)
    rw [aside_deeds.apart.overrideWith] at made
    simpa only [overrideWith, found] using made
  | @promote h _ still =>
    rw [still.deeds]
    have made := deeds_suffix_commit (s.promote h)
    rwa [aside_deeds.apart.promote] at made

/-- Where more was done, no fewer keyframes were asked for. -/
theorem keyframes_le_of_suffix (more : s.deeds <:+ t.deeds) (layer : Nat) :
    s.keyframes layer ≤ t.keyframes layer := by
  rw [keyframes_eq_count, keyframes_eq_count]
  exact more.sublist.count_le _

/-- A handle that was issued names the layer that it named before, or none any more. -/
theorem Stride.resolve {m : Move} (stride : Stride s m t) {h : Handle}
    (issued : s.lineup.roster.Issued h) :
    t.lineup.resolve h = s.lineup.resolve h ∨ t.lineup.resolve h = none := by
  cases stride with
  | rest roles deeds resolve => exact .inl (resolve h issued)
  | leave leaves roles deeds resolve => exact resolve h
  | follow asked => exact .inl (by rw [untouched_lineup.configure])
  | followLow asked =>
    exact .inl (by rw [commit_lineup, aside_lineup.apart.abandonNext, untouched_lineup.configure])
  | lift => exact .inl (by rw [commit_lineup, aside_lineup.apart.clearOverride])
  | force found =>
    exact .inl (by rw [commit_lineup, aside_lineup.apart.note, aside_lineup.apart.assign])
  | promote still => exact .inl (by rw [still.lineup, commit_lineup, aside_lineup.apart.promote])

/-! ### Runs -/

/-- A scene in which nothing was done. -/
def Scene.opening (channel : Announcement.Channel) (thresholds : Thresholds) : Scene :=
  { session := fresh channel thresholds }

/-- A run that is short enough vacates no slot so often that its generations start over. -/
theorem Scene.room_of_length (sc : Scene) {past : List Move}
    (short : past.length < greatestGeneration) (i : Nat) :
    sc.vacated i past < greatestGeneration :=
  Nat.lt_of_le_of_lt (sc.vacated_le_length i past) short

/-- The handles that the roles hold were issued. -/
def Rooted (s : Session) : Prop :=
  ∀ role h, s.roles.handle? role = some h → s.lineup.roster.Issued h

/-- As long as no slot is vacated so often that its generations start over, roles hold handles that
were issued. -/
theorem rooted_after (channel : Announcement.Channel) (thresholds : Thresholds) {past : List Move}
    (room : ∀ i, (Scene.opening channel thresholds).vacated i past < 2 ^ 32 - 1) :
    Rooted ((Scene.opening channel thresholds).after perform past).session := by
  have start : Scene.Relieved (.opening channel thresholds) (.opening channel thresholds) :=
    ⟨rfl, rfl, relieved_fresh channel thresholds⟩
  exact (start.after (fun _ => rfl) room).session.issued

/-- Where handles that were issued resolve as before, the same layers have the roles. -/
theorem Rooted.holder?_of_rest (rooted : Rooted s) (roles : t.roles = s.roles)
    (resolve : ∀ h, s.lineup.roster.Issued h → t.lineup.resolve h = s.lineup.resolve h)
    (role : Role) : t.holder? role = s.holder? role := by
  rw [holder?, holder?, Roles.holder?, Roles.holder?, roles]
  cases held : s.roles.handle? role with
  | none => rfl
  | some h => exact resolve h (rooted role h held)

/-- Where layers leave, a role stays with its layer or loses it. -/
theorem holder?_of_leave (roles : t.roles = s.roles)
    (resolve : ∀ h, t.lineup.resolve h = s.lineup.resolve h ∨ t.lineup.resolve h = none)
    (role : Role) : t.holder? role = s.holder? role ∨ t.holder? role = none := by
  rw [holder?, holder?, Roles.holder?, Roles.holder?, roles]
  cases s.roles.handle? role with
  | none => exact .inl rfl
  | some h => exact resolve h

end Simulcast.Session
