import Simulcast.Proofs.Roster.Change
import Simulcast.Proofs.Session.Lockstep

/-!
# Removed is the same as never set

A role whose layer has left the roster keeps its handle, and nothing tells: after any moves of a
scene, the session shows what it would show if each role were given up as soon as its layer left
(`removed_as_never_set`), removals in the middle of a decision included. This holds as long as no
slot is vacated so often that its generations start over, for then a handle that was kept could
name a layer that came later.
-/

namespace Simulcast.Session

open Switching

variable {s t : Session}

/-! ### What operations do to the roster -/

/-- The change of the roster that an operation makes, if it makes one. -/
def Operation.change? (s : Session) : Operation → Option (Roster.Change Nat)
  | .add _ => some (.insert s.lineup.layers.length)
  | .insert layer => some (.insert layer)
  | .remove h => some (.remove h)
  | .clear => some .clear
  | _ => none

theorem roster_perform (s : Session) (o : Operation) :
    (s.perform o).lineup.roster = (o.change? s).elim s.lineup.roster s.lineup.roster.change := by
  cases o with
  | configure r => exact congrArg Lineup.roster (untouched_lineup.configure r s)
  | configureOverride r => exact congrArg Lineup.roster (untouched_lineup.configureOverride r s)
  | receiveHigh => exact congrArg Lineup.roster (untouched_lineup.receiveHigh s)
  | receiveLow urgent => exact congrArg Lineup.roster (untouched_lineup.receiveLow urgent s)
  | readThreshold => exact congrArg Lineup.roster (readThreshold_lineup s)
  | forget source => exact congrArg Lineup.roster (lineup_of_course (course_forget source s))
  | add l => rfl
  | insert layer => rfl
  | remove h => exact congrArg (fun c : Course => c.lineup.roster) (course_remove h s)
  | clear => rfl
  | alter layer l => rfl
  | alterReceiver e => rfl
  | alterSender e => rfl

/-- The change of the roster that a move makes, if it makes one. -/
def Move.change? (s : Session) : Move → Option (Roster.Change Nat)
  | .operation o => o.change? s
  | _ => none

/-! ### Operations in lockstep -/

/-- The roles stay with their layers if the handles that were issued resolve as before. -/
theorem Relieved.holder?_of_blind (rel : Relieved s t) {f : Session → Session} (blind : Blind f)
    (withheld : (f s).lineup.withheld = [])
    (resolve : ∀ h, s.lineup.roster.Issued h →
      (f s).lineup.roster.resolve h = s.lineup.roster.resolve h) (role : Role) :
    (f s).holder? role = s.holder? role := by
  rw [Session.holder?, Session.holder?, Roles.holder?, Roles.holder?, blind.roles]
  cases held : s.roles.handle? role with
  | none => rfl
  | some h =>
    rw [Option.bind_some, Option.bind_some, resolve_of_withheld withheld,
      resolve_of_withheld rel.withheld, resolve h (rel.issued role h held)]

theorem Relieved.holder?_insert (rel : Relieved s t) (layer : Nat) (role : Role) :
    (s.insert layer).2.holder? role = s.holder? role :=
  rel.holder?_of_blind (Blind.insert layer) rel.withheld
    (fun _ issued => Roster.resolve_insert_of_issued _ issued) role

theorem Relieved.holder?_add (rel : Relieved s t) (l : Layer) (role : Role) :
    (s.add l).2.holder? role = s.holder? role :=
  rel.holder?_of_blind (Blind.add l) rel.withheld
    (fun _ issued => Roster.resolve_insert_of_issued _ issued) role

/-- Giving up the roles of the layers that leave keeps sessions related. -/
theorem Relieved.relieve (rel : Relieved s t) {f : Session → Session} (blind : Blind f)
    (withheld : (f s).lineup.withheld = [])
    (thinned : s.lineup.roster.Thinned (f s).lineup.roster)
    (room : ∀ j, s.lineup.roster.occupied j = true → (f s).lineup.roster.occupied j = false →
      s.lineup.roster.age j < greatestGeneration) :
    Relieved (f s) (Session.relieve t (f t)) := by
  have after : f t = (f s).recast t.roles t.seenNext := by rw [← blind, ← rel.same]
  have lineup : (f t).lineup = (f s).lineup := (congrArg Session.lineup after).trans rfl
  have kept : ∀ role, (Session.relieve t (f t)).roles.handle? role =
      if lost t (f t) role then none else t.roles.handle? role := by
    intro role
    rw [handle?_relieve, blind.roles]
  constructor
  case same =>
    rw [relieve_recast, after]
    rfl
  case standing =>
    intro role
    have held := rel.standing role
    rw [Session.standing] at held
    rw [kept, lost, Session.holder?, Session.holder?, Roles.holder?, Roles.holder?, blind.roles,
      rel.lineup, lineup, held, Session.standing, blind.roles]
    cases s.roles.handle? role with
    | none => simp
    | some h =>
      have leaves := thinned.resolve h
      rw [← resolve_of_withheld withheld, ← resolve_of_withheld rel.withheld] at leaves
      cases before : s.lineup.resolve h with
      | none =>
        have gone : (f s).lineup.resolve h = none := by simpa [before] using leaves
        simp [Option.filter, before, gone]
      | some layer =>
        obtain stays | gone := leaves
        · simp [Option.filter, before, stays]
        · simp [Option.filter, before, gone]
  case seenNext =>
    intro next
    rw [seenNext_relieve t (f t) next, blind.seenNext, blind.seenNext]
    refine rel.seenNext ?_
    rw [kept] at next
    split at next
    · simp at next
    · exact next
  case issued =>
    rw [blind.roles]
    exact fun role h held => thinned.issued room (rel.issued role h held)
  case withheld => exact withheld

/-- An operation keeps sessions related, as long as no slot is vacated at the greatest
generation. -/
theorem Relieved.perform (rel : Relieved s t) (o : Operation)
    (room : ∀ j, s.lineup.roster.occupied j = true →
      (s.perform o).lineup.roster.occupied j = false →
      s.lineup.roster.age j < greatestGeneration) :
    Relieved (s.perform o) (t.performEager o) := by
  cases o with
  | configure r => exact rel.configure r
  | configureOverride r => exact rel.configureOverride r
  | receiveHigh => exact rel.receiveHigh
  | receiveLow urgent => exact rel.receiveLow urgent
  | readThreshold => exact rel.blind .readThreshold (readThreshold_lineup s)
  | forget source => exact rel.blind (.forget source) (lineup_of_course (course_forget source s))
  | add l =>
    exact rel.relineup (.add l) rel.withheld
      (fun _ issued => Roster.resolve_insert_of_issued _ issued)
      fun _ issued => Roster.issued_insert _ issued
  | insert layer =>
    exact rel.relineup (.insert layer) rel.withheld
      (fun _ issued => Roster.resolve_insert_of_issued _ issued)
      fun _ issued => Roster.issued_insert _ issued
  | remove h =>
    have removed : (s.remove h).2.lineup = (s.lineup.remove h).2 :=
      congrArg Course.lineup (course_remove h s)
    refine rel.relieve (.remove h) ?_ ?_ room
    · rw [removed]
      exact rel.withheld
    · rw [removed]
      exact Roster.thinned_remove h _
  | clear => exact rel.relieve (.alterLineup _) rel.withheld (Roster.thinned_clear _) room
  | alter layer l =>
    exact rel.relineup (.alterLineup _) rel.withheld (fun _ _ => rfl) fun _ => id
  | alterReceiver e => exact rel.blind (.alterReceiver fun _ => e) rfl
  | alterSender e => exact rel.blind (.alterSender fun _ => e) rfl

/-! ### Scenes in lockstep -/

namespace Scene

/-- The slots of the roster, as far as they are filled. -/
def occupied (sc : Scene) (i : Nat) : Bool := sc.session.lineup.roster.occupied i

/-- How often a slot was vacated. -/
def vacated (sc : Scene) (i : Nat) : List Move → Nat
  | [] => 0
  | m :: past =>
    sc.vacated i past +
      if (sc.after perform past).occupied i && !(sc.after perform (m :: past)).occupied i then 1
      else 0

/-- No slot is vacated more often than there are moves. -/
theorem vacated_le_length (sc : Scene) (i : Nat) (past : List Move) :
    sc.vacated i past ≤ past.length := by
  induction past with
  | nil => exact Nat.le_refl 0
  | cons m past ih =>
    rw [vacated, List.length_cons]
    split
    · exact Nat.succ_le_succ ih
    · exact Nat.le_succ_of_le ih

theorem roster_play (sc : Scene) (m : Move) :
    (sc.play perform m).session.lineup.roster =
      (m.change? sc.session).elim sc.session.lineup.roster sc.session.lineup.roster.change := by
  have advance := sc.advance_play m
  generalize (sc.play perform m).session = s at advance ⊢
  cases advance with
  | performs o => exact roster_perform sc.session o
  | begins p =>
    rw [steady_lineup.begin]
    rfl
  | idles unasked => rfl
  | answers asked =>
    rw [steady_lineup.answer untouched_lineup.promote]
    rfl

/-- A move vacates slots of the roster or puts a layer into one, if it does anything to it. -/
theorem moved_play (sc : Scene) (m : Move) :
    sc.session.lineup.roster.Moved (sc.play perform m).session.lineup.roster := by
  rw [roster_play]
  cases m.change? sc.session with
  | none => exact .inl (.refl _)
  | some c => exact Roster.moved_change _ c

variable {sc ec : Scene} {past : List Move}

/-- A move that empties a slot counts. -/
theorem vacated_of_leaves {m : Move} {i : Nat} (filled : (sc.after perform past).occupied i = true)
    (vacant : (sc.after perform (m :: past)).occupied i = false) :
    sc.vacated i (m :: past) = sc.vacated i past + 1 := by
  rw [vacated, filled, vacant]
  rfl

theorem room_before {m : Move} (room : ∀ i, sc.vacated i (m :: past) < greatestGeneration)
    (i : Nat) : sc.vacated i past < greatestGeneration :=
  Nat.lt_of_le_of_lt (Nat.le_add_right _ _) (room i)

/-- The generation of a slot counts how often it was vacated, as long as it does not start over. -/
theorem age_after (young : ∀ i, sc.session.lineup.roster.age i = 1)
    (room : ∀ i, sc.vacated i past < greatestGeneration) (i : Nat) :
    (sc.after perform past).session.lineup.roster.age i = 1 + sc.vacated i past := by
  induction past with
  | nil => exact young i
  | cons m past ih =>
    have before := ih (room_before room)
    rw [after, vacated, (moved_play _ m).age i, before, Nat.add_assoc]
    · rfl
    · intro filled vacant
      have step := room i
      rw [vacated_of_leaves filled vacant] at step
      omega

/-- As long as generations do not start over, a slot that a move empties is not at the greatest
one. -/
theorem age_lt_of_leaves (young : ∀ i, sc.session.lineup.roster.age i = 1) {m : Move}
    (room : ∀ i, sc.vacated i (m :: past) < greatestGeneration) {i : Nat}
    (filled : (sc.after perform past).occupied i = true)
    (vacant : (sc.after perform (m :: past)).occupied i = false) :
    (sc.after perform past).session.lineup.roster.age i < greatestGeneration := by
  have step := room i
  rw [vacated_of_leaves filled vacant] at step
  rw [age_after young (room_before room)]
  omega

/-- The second scene is the first one, the roles that hold a handle in vain given up. -/
structure Relieved (sc ec : Scene) : Prop where
  /-- The same questions are open. -/
  asked : ec.asked = sc.asked
  /-- The same decisions were made. -/
  decisions : ec.decisions = sc.decisions
  /-- The sessions are so related. -/
  session : Session.Relieved sc.session ec.session

theorem Relieved.proceed (rel : Relieved sc ec) {c d : Progress × Session} (alike : Alike c d) :
    Relieved (sc.proceed c) (ec.proceed d) := by
  obtain ⟨progress, s⟩ := c
  obtain ⟨progress', t⟩ := d
  obtain ⟨rfl, session⟩ := alike
  cases progress' with
  | asking q => exact ⟨congrArg (q :: ·) rel.asked, rel.decisions, session⟩
  | decided p accepted =>
    exact ⟨rel.asked, congrArg ((p, accepted) :: ·) rel.decisions, session⟩

/-- A move keeps scenes related, as long as no slot is vacated at the greatest generation. -/
theorem Relieved.play (rel : Relieved sc ec) (m : Move)
    (room : ∀ i, sc.occupied i = true → (sc.play perform m).occupied i = false →
      sc.session.lineup.roster.age i < greatestGeneration) :
    Relieved (sc.play perform m) (ec.play performEager m) := by
  cases m with
  | operation o => exact ⟨rel.asked, rel.decisions, rel.session.perform o room⟩
  | packet p => exact rel.proceed (rel.session.begin p)
  | answer =>
    have asked := rel.asked
    cases asked' : sc.asked with
    | nil =>
      simp only [Scene.play, asked, asked']
      exact rel
    | cons q others =>
      simp only [Scene.play, asked, asked']
      have rest : Relieved { sc with asked := others } { ec with asked := others } :=
        ⟨rfl, rel.decisions, rel.session⟩
      exact rest.proceed (rel.session.answer q)

/-- Scenes stay related through all moves. -/
theorem Relieved.after (rel : Relieved sc ec)
    (young : ∀ i, sc.session.lineup.roster.age i = 1)
    (room : ∀ i, sc.vacated i past < greatestGeneration) :
    Relieved (sc.after perform past) (ec.after performEager past) := by
  induction past with
  | nil => exact rel
  | cons m past ih =>
    exact (ih (room_before room)).play m fun i filled vacant =>
      age_lt_of_leaves young room filled vacant

end Scene

/-! ### Removed is the same as never set -/

theorem handle?_unset (role : Role) : Roles.unset.handle? role = none := by cases role <;> decide

/-- Before anything is done, no role holds a handle. -/
theorem relieved_fresh (channel : Announcement.Channel) (thresholds : Thresholds) :
    Relieved (fresh channel thresholds) (fresh channel thresholds) where
  same := rfl
  standing role := by simp [standing, fresh, handle?_unset]
  seenNext := fun _ => rfl
  issued role h held := by simp [fresh, handle?_unset] at held
  withheld := rfl

/-- **A role whose layer was removed is the same as one that was never given.** Take any moves of a
scene, the newest first, in which no slot is vacated so often that its generations start over, and
give the roles of layers that leave up at once, or do not: the same packets pass, the same
questions are open, the engine asked for the same and shows the same statistics and the same
snapshot, the count apart where there is no next layer. A layer that is inserted takes over no
role. -/
theorem removed_as_never_set (channel : Announcement.Channel) (thresholds : Thresholds)
    (past : List Move)
    (room : ∀ i, Scene.vacated { session := fresh channel thresholds } i past < 2 ^ 32 - 1) :
    let kept := Scene.after perform { session := fresh channel thresholds } past
    let eager := Scene.after performEager { session := fresh channel thresholds } past
    eager.decisions = kept.decisions ∧
      eager.asked = kept.asked ∧
      eager.session.happenings = kept.session.happenings ∧
      eager.session.channel = kept.session.channel ∧
      eager.session.tally = kept.session.tally ∧
      eager.session.snapshot =
        { kept.session.snapshot with seenNext := eager.session.snapshot.seenNext } ∧
      (kept.session.snapshot.next.isSome →
        eager.session.snapshot.seenNext = kept.session.snapshot.seenNext) ∧
      (∀ layer role, (kept.session.insert layer).2.holder? role = kept.session.holder? role) ∧
      ∀ l role, (kept.session.add l).2.holder? role = kept.session.holder? role := by
  intro kept eager
  have start : Scene.Relieved { session := fresh channel thresholds }
      { session := fresh channel thresholds } := ⟨rfl, rfl, relieved_fresh channel thresholds⟩
  have rel : Scene.Relieved kept eager := start.after (fun _ => rfl) room
  have session := rel.session
  refine ⟨rel.decisions, rel.asked, ?_, ?_, ?_, session.snapshot.1, session.snapshot.2, ?_, ?_⟩
  · exact (congrArg Session.happenings session.same).trans rfl
  · exact (congrArg Session.channel session.same).trans rfl
  · exact (congrArg Session.tally session.same).trans rfl
  · exact session.holder?_insert
  · exact session.holder?_add

/-- A packet of the next layer is counted; while the layer is asked about another one, it is removed
and a layer takes its slot. -/
def reuseSample : List Move :=
  [.answer, .operation (.add (.numbered 1)), .operation (.remove ⟨1, .first⟩), .answer,
    .packet (.sample 200 1), .answer, .answer, .packet (.sample 200 0),
    .operation (.configure (some (.toOrder ⟨1⟩ false))),
    .operation (.configure (some (.toOrder ⟨0⟩ false))), .operation (.add (.numbered 1)),
    .operation (.add (.numbered 0))]

/-- The packet passes, and the count, which is not given up, is that of no next layer any more. -/
theorem removed_in_the_middle :
    (∀ i, Scene.vacated { session := fresh default (.fixed 5) } i reuseSample < 2 ^ 32 - 1) ∧
      (Scene.after performEager { session := fresh default (.fixed 5) } reuseSample).decisions =
        [(.sample 200 1, true), (.sample 200 0, true)] ∧
      (Scene.after perform
        { session := fresh default (.fixed 5) } reuseSample).session.snapshot.next = none ∧
      (Scene.after perform
        { session := fresh default (.fixed 5) } reuseSample).session.snapshot.seenNext = 1 := by
  have room : ∀ i,
      Scene.vacated { session := fresh default (.fixed 5) } i reuseSample < 2 ^ 32 - 1 :=
    fun i => Nat.lt_of_le_of_lt (Scene.vacated_le_length _ i reuseSample) (by decide)
  obtain ⟨decisions, -⟩ := removed_as_never_set default (.fixed 5) reuseSample room
  refine ⟨room, ?_, by decide +kernel, by decide +kernel⟩
  rw [decisions]
  decide +kernel

end Simulcast.Session
