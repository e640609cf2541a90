import Simulcast.Proofs.Session.Relief

/-!
# Every part of the engine keeps sessions alike

Two sessions that differ in roles held in vain go through the parts of the engine in lockstep:
each part gives the same result in both and leaves them so related. Where a part compares a
handle that a role holds with another one, that one resolves, and where it asks who has a role,
a handle held in vain is as good as none.
-/

namespace Simulcast.Session

open Switching

variable {s t : Session} {c d : List Effect × Session}

/-- What a lookup finds is there. -/
theorem resolve_of_lookup {u : Lineup} {o : Layer.Order} {h : Handle} {layer : Nat}
    (found : u.lookup o = some (h, layer)) : u.resolve h = some layer := by
  simp only [Lineup.lookup, Option.bind_eq_bind, Option.bind_eq_some_iff, Option.pure_def,
    Option.some.injEq, Prod.mk.injEq] at found
  obtain ⟨h', -, layer', hr, rfl, rfl⟩ := found
  exact hr

namespace Relieved

variable (rel : Relieved s t)
include rel

/-! ### Moving roles -/

theorem recast_eq (roles : Roles) (k : UInt32) : t.recast roles k = s.recast roles k := by
  rw [rel.same]
  rfl

/-- A step that is blind to the roles keeps sessions related, as long as the handles that were
issued still are and resolve as before. -/
theorem relineup {f : Session → Session} (blind : Blind f)
    (withheld : (f s).lineup.withheld = [])
    (resolve : ∀ h, s.lineup.roster.Issued h →
      (f s).lineup.roster.resolve h = s.lineup.roster.resolve h)
    (issued : ∀ h, s.lineup.roster.Issued h → (f s).lineup.roster.Issued h) :
    Relieved (f s) (f t) := by
  constructor
  case same => rw [blind.roles, blind.seenNext, ← blind, ← rel.same]
  case standing =>
    intro role
    rw [blind.roles, rel.standing, Session.standing, Session.standing, blind.roles]
    cases held : s.roles.handle? role with
    | none => rfl
    | some h =>
      have same := resolve h (rel.issued role h held)
      rw [← resolve_of_withheld withheld, ← resolve_of_withheld rel.withheld] at same
      simp only [Option.filter, same]
  case seenNext =>
    rw [blind.roles, blind.seenNext, blind.seenNext]
    exact rel.seenNext
  case issued =>
    rw [blind.roles]
    exact fun role h held => issued h (rel.issued role h held)
  case withheld => exact withheld

/-- In particular one that leaves the layers alone. -/
theorem blind {f : Session → Session} (hf : Blind f) (lineup : (f s).lineup = s.lineup) :
    Relieved (f s) (f t) := by
  refine rel.relineup hf ?_ ?_ ?_
  · rw [lineup, rel.withheld]
  · rw [lineup]
    exact fun _ _ => rfl
  · rw [lineup]
    exact fun _ => id

/-- So does giving a role to what resolves, or to nothing, as long as the counts agree. -/
theorem give (role : Role) {h : Option Handle} (k k' : UInt32)
    (there : ∀ x, h = some x → (s.lineup.resolve x).isSome)
    (count : ((t.roles.set role h).handle? .next).isSome → k' = k) :
    Relieved (s.recast (s.roles.set role h) k) (t.recast (t.roles.set role h) k') where
  same := rel.recast_eq _ _
  standing other := by
    have kept := rel.standing other
    rw [Session.standing] at kept ⊢
    simp only [Session.recast, Roles.handle?_set]
    by_cases given : other = role
    · rw [if_pos given, if_pos given]
      cases h with
      | none => rfl
      | some x => simp [Option.filter, there x rfl]
    · rw [if_neg given, if_neg given]
      exact kept
  seenNext := count
  issued other x held := by
    simp only [Session.recast, Roles.handle?_set] at held ⊢
    by_cases given : other = role
    · rw [if_pos given] at held
      have resolves := there x held
      rw [resolve_of_withheld rel.withheld] at resolves
      exact Roster.issued_of_resolve resolves
    · rw [if_neg given] at held
      exact rel.issued other x held
  withheld := rel.withheld

theorem dropNext : Relieved s.dropNext t.dropNext :=
  rel.give .next 0 0 (by simp) fun _ => rfl

theorem makeNext {h : Handle} (there : (s.lineup.resolve h).isSome) :
    Relieved (s.makeNext h) (t.makeNext h) :=
  rel.give .next 0 0 (by rintro x ⟨⟩; exact there) fun _ => rfl

theorem assign {role : Role} (ne : role ≠ .next) {h : Option Handle}
    (there : ∀ x, h = some x → (s.lineup.resolve x).isSome) :
    Relieved (s.assign role h) (t.assign role h) := by
  refine rel.give role s.seenNext t.seenNext there ?_
  rw [Roles.handle?_set, if_neg ne.symm]
  exact rel.seenNext

theorem makeCurrent {h : Handle} (there : (s.lineup.resolve h).isSome) (promoted : Bool) :
    Relieved (s.makeCurrent h promoted) (t.makeCurrent h promoted) := by
  have given : Relieved (s.assign .current (some h)) (t.assign .current (some h)) :=
    rel.assign (by simp) (by rintro x ⟨⟩; exact there)
  exact given.dropNext.blind (.switched promoted) rfl

theorem countNext : Relieved s.countNext t.countNext where
  same := rel.recast_eq _ _
  standing := rel.standing
  seenNext held := by
    rw [Session.countNext, Session.countNext, rel.seenNext held]
  issued := rel.issued
  withheld := rel.withheld

end Relieved

/-- The effects of related changes leave the sessions related. -/
theorem Alike.commit (alike : Alike c d) : Relieved (commit c) (commit d) := by
  obtain ⟨es, s⟩ := c
  obtain ⟨es', t⟩ := d
  obtain ⟨rfl, rel⟩ := alike
  exact rel.blind (.commit _) (commit_lineup _)

namespace Relieved

variable (rel : Relieved s t)
include rel

/-! ### Switching -/

theorem announcementUnlessOverridden (kind : Announcement.Kind) (layer : Nat) :
    t.announcementUnlessOverridden kind layer = s.announcementUnlessOverridden kind layer := by
  rw [Session.announcementUnlessOverridden, Session.announcementUnlessOverridden,
    rel.isOverridden]

/-- The layer to switch to resolves, so that it is the next one in both sessions or in neither. -/
theorem needsKeyframe (r : Request) {h : Handle} (there : (s.lineup.resolve h).isSome) :
    t.needsKeyframe r h = s.needsKeyframe r h := by
  have next : (t.roles.handle? .next != some h) = (s.roles.handle? .next != some h) := by
    rw [Bool.eq_iff_iff, bne_iff_ne, bne_iff_ne, Ne, rel.handle?_eq_iff there]
  rw [Session.needsKeyframe, Session.needsKeyframe, next, rel.isOverridden]

theorem isImmediate (r : Request) : t.isImmediate r = s.isImmediate r := by
  rw [Session.isImmediate, Session.isImmediate, rel.holder?, rel.minNextSeen]

theorem switchTo (r : Request) (o : Layer.Order) {h : Handle} (layer : Nat)
    (there : (s.lineup.resolve h).isSome) :
    Alike (s.switchTo r o h layer) (t.switchTo r o h layer) := by
  constructor
  · rw [switchTo_fst, switchTo_fst, rel.needsKeyframe r there, rel.isImmediate,
      rel.announcementUnlessOverridden]
  · rw [switchTo_snd, switchTo_snd, rel.isImmediate]
    split
    · exact (rel.blind (.note _) rfl).makeCurrent there false
    · exact (rel.blind (.note _) rfl).makeNext there

theorem switchToOrder (r : Request) (o : Layer.Order) :
    Alike (s.switchToOrder r o) (t.switchToOrder r o) := by
  unfold Session.switchToOrder
  rw [rel.lineup]
  split
  · exact ⟨rfl, rel.blind (.note _) rfl⟩
  · cases found : s.lineup.lookup o with
    | none => exact ⟨rfl, rel.blind (.note _) rfl⟩
    | some l =>
      obtain ⟨h, layer⟩ := l
      have there : (s.lineup.resolve h).isSome := by rw [resolve_of_lookup found]; rfl
      simp only [rel.handle?_eq_iff there]
      split
      · exact ⟨rfl, rel.blind (.note _) rfl⟩
      · split
        · exact ⟨rfl, rel.dropNext⟩
        · exact rel.switchTo r o layer there

theorem transition (r : Request) : Alike (s.transition r) (t.transition r) := by
  have threshold := rel.blind (.setThreshold r) rfl
  unfold Session.transition
  cases r.nextOrder with
  | none => exact ⟨rfl, threshold⟩
  | some o => exact threshold.switchToOrder r o

theorem configure (r : Option Request) : Relieved (s.configure r) (t.configure r) := by
  cases r with
  | none => exact rel.blind (.note _) rfl
  | some r => exact (rel.transition r).commit

theorem receiveHigh : Relieved s.receiveHigh t.receiveHigh := by
  unfold Session.receiveHigh
  rw [rel.lineup]
  split
  · exact rel.blind (.note _) rfl
  · exact rel.configure _

theorem abandonNext : Alike s.abandonNext t.abandonNext := by
  unfold Session.abandonNext
  rw [rel.holder?, rel.lineup]
  split
  · exact ⟨rfl, rel⟩
  · simp only
    split
    · exact ⟨rfl, rel⟩
    · exact ⟨rfl, (rel.blind (.note _) rfl).dropNext⟩

theorem receiveLow (urgent : Bool) : Relieved (s.receiveLow urgent) (t.receiveLow urgent) :=
  (rel.configure _).abandonNext.commit

/-! ### Overriding -/

theorem clearOverride : Alike s.clearOverride t.clearOverride := by
  have cleared : Relieved ((s.assign .override none).note .overrideCleared)
      ((t.assign .override none).note .overrideCleared) :=
    (rel.assign (by simp) (by simp)).blind (.note _) rfl
  unfold Session.clearOverride
  simp only [cleared.holder?]
  split
  · exact ⟨rfl, cleared⟩
  · exact ⟨rfl, cleared⟩

theorem overrideWith (o : Layer.Order) : Alike (s.overrideWith o) (t.overrideWith o) := by
  unfold Session.overrideWith
  rw [rel.lineup]
  cases found : s.lineup.lookup o with
  | none => exact ⟨rfl, rel.blind (.note _) rfl⟩
  | some l =>
    obtain ⟨h, layer⟩ := l
    have there : ∀ x, some h = some x → (s.lineup.resolve x).isSome := by
      rintro x ⟨⟩
      rw [resolve_of_lookup found]
      rfl
    exact ⟨rfl, (rel.assign (by simp) there).blind (.note _) rfl⟩

theorem configureOverride (r : Option Request) :
    Relieved (s.configureOverride r) (t.configureOverride r) := by
  unfold Session.configureOverride
  split
  · exact rel
  · unfold setOverride
    rw [rel.lineup]
    split
    · exact rel.blind (.note _) rfl
    · split
      · exact rel.clearOverride.commit
      · exact (rel.overrideWith _).commit

/-! ### Deciding -/

/-- The handle that is counted for was held by the next role when its layer was asked. It need not
be held any more, nor does the layer need to be there: then both sessions count nothing. -/
theorem promote (h : Handle) : Alike (s.promote h) (t.promote h) := by
  cases hr : s.lineup.resolve h with
  | none =>
    have hr' : t.lineup.resolve h = none := by rw [rel.lineup, hr]
    rw [promote_of_gone hr, promote_of_gone hr']
    exact ⟨rfl, rel⟩
  | some layer =>
    have there : (s.lineup.resolve h).isSome := by rw [hr]; rfl
    have hr' : t.lineup.resolve h = some layer := by rw [rel.lineup, hr]
    by_cases hn : s.roles.handle? .next = some h
    · have hn' := (rel.handle?_eq_iff there .next).2 hn
      have count : t.countNext.seenNext = s.countNext.seenNext := by
        refine rel.countNext.seenNext ?_
        show (t.roles.handle? .next).isSome
        rw [hn']
        rfl
      rw [promote_of_pending hn hr, promote_of_pending hn' hr', count, rel.lineup,
        rel.minNextSeen]
      split
      · exact ⟨rel.countNext.announcementUnlessOverridden .changed layer,
          (rel.countNext.blind (.note _) rfl).makeCurrent there true⟩
      · exact ⟨rfl, rel.countNext⟩
    · have hn' : t.roles.handle? .next ≠ some h := fun held =>
        hn ((rel.handle?_eq_iff there .next).1 held)
      rw [promote_of_ne hn, promote_of_ne hn']
      exact ⟨rfl, rel⟩

theorem settle (p : Packet) (selected : Bool) :
    Alike (s.settle p selected) (t.settle p selected) := by
  have concluded := conclude_recast p selected t.roles t.seenNext s
  rw [← rel.same] at concluded
  constructor
  · simp only [Session.settle, concluded]
  · exact rel.blind (.conclude p selected) (lineup_of_course (course_conclude p selected s))

theorem toOverride (p : Packet) (selected : Bool) :
    Alike (s.toOverride p selected) (t.toOverride p selected) := by
  unfold Session.toOverride
  rw [rel.holder?]
  split
  · exact ⟨rfl, rel⟩
  · exact rel.settle p selected

/-- A next layer that has left is passed over as if there were none. -/
theorem toNext (p : Packet) : Alike (s.toNext p) (t.toNext p) := by
  have passed := rel.toOverride p false
  have standing := rel.standing .next
  rw [Session.standing] at standing
  unfold Session.toNext
  rw [standing, rel.lineup]
  cases s.roles.handle? .next with
  | none => exact passed
  | some h =>
    cases hr : s.lineup.resolve h with
    | none => simpa [Option.filter, hr] using passed
    | some layer =>
      simp only [Option.filter, hr, Option.isSome_some, if_true]
      exact ⟨rfl, rel⟩

theorem toCurrent (p : Packet) : Alike (s.toCurrent p) (t.toCurrent p) := by
  unfold Session.toCurrent
  rw [rel.holder?]
  split
  · exact ⟨rfl, rel⟩
  · exact rel.toNext p

theorem begin (p : Packet) : Alike (s.begin p) (t.begin p) :=
  (rel.blind .readThreshold (readThreshold_lineup s)).toCurrent p

theorem answer (q : Inquiry) : Alike (s.answer q) (t.answer q) := by
  cases q with
  | current p layer =>
    simp only [Session.answer, rel.lineup]
    split
    · exact rel.toOverride p true
    · exact rel.toNext p
  | next p h layer =>
    simp only [Session.answer, rel.lineup]
    split
    · exact (rel.promote h).commit.toOverride p true
    · exact rel.toOverride p false
  | override p layer =>
    simp only [Session.answer, rel.lineup]
    exact rel.settle p _

end Relieved

end Simulcast.Session
