import Simulcast.Proofs.Session.Course

/-!
# Decisions that are interrupted

A layer that is asked about a packet may do anything before it answers: remove layers, ask the
engine for another switch, even have it decide about other packets. To say what happens then, a
decision is taken apart at the places where a layer is asked. `begin` goes as far as the first
question, and `answer` from the answer to a question as far as the next one or to the decision.
`Proceeds` says once what either comes to, and `finishes_begin` that the parts make up `accept`.

A scene is a session together with the questions that are open; it is moved by operations, by
packets and by answers, in any order. `Advance` lists what becomes of its session in a move.
-/

namespace Simulcast.Session

open Switching

/-! ### The parts of a decision -/

/-- A question to a layer whether it owns a packet. -/
inductive Inquiry where
  /-- The current layer is asked. -/
  | current (p : Packet) (layer : Nat)
  /-- The next layer is asked, which the handle names. -/
  | next (p : Packet) (h : Handle) (layer : Nat)
  /-- The layer that overrides the decision is asked. -/
  | override (p : Packet) (layer : Nat)

namespace Inquiry

/-- The packet that is asked about. -/
def packet : Inquiry → Packet
  | current p _ => p
  | next p _ _ => p
  | override p _ => p

/-- The role of the layer that is asked. -/
def role : Inquiry → Role
  | current _ _ => .current
  | next _ _ _ => .next
  | override _ _ => .override

/-- The number of the layer that is asked. -/
def layer : Inquiry → Nat
  | current _ n => n
  | next _ _ n => n
  | override _ n => n

end Inquiry

/-- How far a decision is. -/
inductive Progress where
  /-- A layer is being asked. -/
  | asking (q : Inquiry)
  /-- A packet was decided about. -/
  | decided (p : Packet) (accepted : Bool)

/-- The packet that a decision is about. -/
def Progress.packet : Progress → Packet
  | asking q => q.packet
  | decided p _ => p

/-- Decides about a packet, all layers having been asked. -/
def settle (p : Packet) (selected : Bool) (s : Session) : Progress × Session :=
  let (accepted, s) := s.conclude p selected
  (.decided p accepted, s)

/-- Goes on to the layer that overrides the decision. -/
def toOverride (p : Packet) (selected : Bool) (s : Session) : Progress × Session :=
  match s.holder? .override with
  | some layer => (.asking (.override p layer), s)
  | none => s.settle p selected

/-- Goes on to the next layer. -/
def toNext (p : Packet) (s : Session) : Progress × Session :=
  match s.roles.handle? .next with
  | none => s.toOverride p false
  | some h =>
    match s.lineup.resolve h with
    | none => s.toOverride p false
    | some layer => (.asking (.next p h layer), s)

/-- Goes on to the current layer. -/
def toCurrent (p : Packet) (s : Session) : Progress × Session :=
  match s.holder? .current with
  | some layer => (.asking (.current p layer), s)
  | none => s.toNext p

/-- Begins to decide about a packet. -/
def begin (p : Packet) (s : Session) : Progress × Session := s.readThreshold.toCurrent p

/-- Goes on once the layer that was asked has answered. -/
def answer (s : Session) : Inquiry → Progress × Session
  | .current p layer =>
    if (s.lineup.layer layer).owns p then s.toOverride p true else s.toNext p
  | .next p h layer =>
    if (s.lineup.layer layer).owns p then (commit (s.promote h)).toOverride p true
    else s.toOverride p false
  | .override p layer => s.settle p ((s.lineup.layer layer).owns p)

/-! ### What a part comes to -/

/-- Whether the layer that is asked owns the packet. -/
def owned (s : Session) (q : Inquiry) : Bool := (s.lineup.layer q.layer).owns q.packet

/-- The session once an answer was credited: a packet that the next layer owns counts for it. -/
def credited (s : Session) : Inquiry → Session
  | .next p h layer => if (s.lineup.layer layer).owns p then commit (s.promote h) else s
  | _ => s

/-- What a part of a decision about a packet comes to once the session went to `s`: another
question, or the decision, which hangs on whether layers select the packet. -/
inductive Proceeds (p : Packet) (selected : Bool) (s : Session) : Progress × Session → Prop
  /-- The layer that has another role is asked first. -/
  | asks (q : Inquiry) (about : q.packet = p) (holds : s.holder? q.role = some q.layer) :
    Proceeds p selected s (.asking q, s)
  /-- The packet is decided about. -/
  | settles : Proceeds p selected s (s.settle p selected)

theorem proceeds_toOverride (p : Packet) (selected : Bool) (s : Session) :
    Proceeds p selected s (s.toOverride p selected) := by
  unfold toOverride
  cases override : s.holder? .override with
  | none => exact .settles
  | some layer => exact .asks (.override p layer) rfl override

theorem proceeds_toNext (p : Packet) (s : Session) : Proceeds p false s (s.toNext p) := by
  unfold toNext
  cases next : s.roles.handle? .next with
  | none => exact proceeds_toOverride p false s
  | some h =>
    cases there : s.lineup.resolve h with
    | none =>
      simp only [there]
      exact proceeds_toOverride p false s
    | some layer =>
      have holds : s.holder? .next = some layer := by
        rw [holder?, Roles.holder?, next]
        exact there
      simp only [there]
      exact .asks (.next p h layer) rfl holds

/-- In the beginning the threshold is read, and no layer selects the packet yet. -/
theorem proceeds_begin (p : Packet) (s : Session) :
    Proceeds p false s.readThreshold (s.begin p) := by
  unfold begin toCurrent
  cases current : s.readThreshold.holder? .current with
  | none => exact proceeds_toNext p _
  | some layer => exact .asks (.current p layer) rfl current

/-- **After an answer** the layer that was asked says whether layers select the packet. -/
theorem proceeds_answer (q : Inquiry) (s : Session) :
    Proceeds q.packet (s.owned q) (s.credited q) (s.answer q) := by
  cases q with
  | current p layer =>
    simp only [answer, credited, owned, Inquiry.layer, Inquiry.packet]
    cases (s.lineup.layer layer).owns p with
    | true => exact proceeds_toOverride p true s
    | false => exact proceeds_toNext p s
  | next p h layer =>
    simp only [answer, credited, owned, Inquiry.layer, Inquiry.packet]
    cases (s.lineup.layer layer).owns p with
    | true => exact proceeds_toOverride p true _
    | false => exact proceeds_toOverride p false s
  | override p layer => exact .settles

/-- All that crediting an answer can do is to count a packet for a layer. -/
theorem credited_eq (q : Inquiry) (s : Session) :
    s.credited q = s ∨ ∃ h, s.credited q = commit (s.promote h) := by
  cases q with
  | current p layer => exact .inl rfl
  | next p h layer =>
    simp only [credited]
    split
    · exact .inr ⟨h, rfl⟩
    · exact .inl rfl
  | override p layer => exact .inl rfl

/-! ### What all parts keep -/

theorem Proceeds.packet {p : Packet} {selected : Bool} {s : Session} {c : Progress × Session}
    (proceeds : Proceeds p selected s c) : c.1.packet = p := by
  cases proceeds with
  | asks q about holds => exact about
  | settles => rfl

/-- A view that the end of a decision leaves alone is left alone by its parts, but for the change
that comes first. -/
theorem Proceeds.view_eq {α : Type} {view : Session → α}
    (conclude : ∀ (p : Packet) (selected : Bool) (s : Session),
      view (s.conclude p selected).2 = view s)
    {p : Packet} {selected : Bool} {s : Session} {c : Progress × Session}
    (proceeds : Proceeds p selected s c) : view c.2 = view s := by
  cases proceeds with
  | asks q about holds => rfl
  | settles => exact conclude p selected s

theorem packet_begin (p : Packet) (s : Session) : (s.begin p).1.packet = p :=
  (proceeds_begin p s).packet

/-- A decision is about the same packet all the way. -/
theorem packet_answer (q : Inquiry) (s : Session) : (s.answer q).1.packet = q.packet :=
  (proceeds_answer q s).packet

/-- The view looks neither at what reading the threshold changes nor at what the end of a decision
does. -/
structure Steady {α : Type} (view : Session → α) : Prop where
  /-- Reading the threshold leaves it alone. -/
  readThreshold : ∀ s : Session, view s.readThreshold = view s
  /-- The end of a decision leaves it alone. -/
  conclude : ∀ (p : Packet) (selected : Bool) (s : Session),
    view (s.conclude p selected).2 = view s

theorem steady_lineup : Steady (·.lineup) :=
  ⟨readThreshold_lineup, fun p selected s => lineup_of_course (course_conclude p selected s)⟩

namespace Steady

variable {α : Type} {view : Session → α} (steady : Steady view)
include steady

theorem begin (p : Packet) (s : Session) : view (s.begin p).2 = view s :=
  ((proceeds_begin p s).view_eq steady.conclude).trans (steady.readThreshold s)

theorem answer_eq_credited (q : Inquiry) (s : Session) :
    view (s.answer q).2 = view (s.credited q) :=
  (proceeds_answer q s).view_eq steady.conclude

/-- An answer changes it only where a packet counts for the next layer. -/
theorem answer (promote : ∀ (h : Handle) (s : Session), view (commit (s.promote h)) = view s)
    (q : Inquiry) (s : Session) : view (s.answer q).2 = view s := by
  rw [steady.answer_eq_credited]
  rcases credited_eq q s with same | ⟨h, counted⟩
  · rw [same]
  · rw [counted, promote]

end Steady

/-! ### The parts make up the decision -/

/-- Where a decision ends if the layers that are asked do on the way what `during` says. -/
inductive Finishes (during : During) : Progress × Session → Bool × Session → Prop
  /-- The decision is made. -/
  | decided (p : Packet) (accepted : Bool) (s : Session) :
    Finishes during (.decided p accepted, s) (accepted, s)
  /-- The layer that is asked acts and answers. -/
  | asking (q : Inquiry) (s : Session) (out : Bool × Session)
    (rest : Finishes during ((during q.role q.layer s).answer q) out) :
    Finishes during (.asking q, s) out

variable (during : During) (p : Packet) (s : Session)

theorem finishes_settle (selected : Bool) :
    Finishes during (s.settle p selected) (s.conclude p selected) := .decided p _ _

theorem finishes_toOverride (selected : Bool) :
    Finishes during (s.toOverride p selected)
      ((s.askOverride during p selected).2.conclude p (s.askOverride during p selected).1) := by
  unfold toOverride askOverride
  cases s.holder? .override with
  | none => exact finishes_settle during p s selected
  | some layer => exact .asking _ _ _ (finishes_settle during p _ _)

theorem finishes_toNext :
    Finishes during (s.toNext p)
      (((s.askNext during p).2.askOverride during p (s.askNext during p).1).2.conclude p
        ((s.askNext during p).2.askOverride during p (s.askNext during p).1).1) := by
  unfold toNext askNext
  cases s.roles.handle? .next with
  | none => exact finishes_toOverride during p s false
  | some h =>
    cases hr : s.lineup.resolve h with
    | none =>
      simp only [hr]
      exact finishes_toOverride during p s false
    | some layer =>
      simp only [hr, ask]
      refine .asking _ _ _ ?_
      simp only [Inquiry.role, Inquiry.layer, answer]
      by_cases owned : ((during .next layer s).lineup.layer layer).owns p = true
      · simp only [owned]
        exact finishes_toOverride during p _ true
      · simp only [Bool.eq_false_iff.2 owned]
        exact finishes_toOverride during p _ false

/-- **The parts of a decision make up the decision**, whatever the layers do that are asked. -/
theorem finishes_begin : Finishes during (s.begin p) (s.accept during p) := by
  unfold begin toCurrent accept select askCurrent
  cases s.readThreshold.holder? .current with
  | none => exact finishes_toNext during p _
  | some layer =>
    simp only [ask]
    refine .asking _ _ _ ?_
    simp only [Inquiry.role, Inquiry.layer, answer]
    by_cases owned : ((during .current layer s.readThreshold).lineup.layer layer).owns p = true
    · simp only [owned, if_true]
      exact finishes_toOverride during p _ true
    · simp only [owned]
      exact finishes_toNext during p _

/-! ### Scenes -/

/-- A session with the questions that are open. -/
structure Scene where
  /-- The session. -/
  session : Session
  /-- The questions that are open, the one that was asked last first. -/
  asked : List Inquiry := []
  /-- The packets that were decided about, the last one first. -/
  decisions : List (Packet × Bool) := []

/-- What moves a scene. -/
inductive Move where
  /-- Something is done to the session. -/
  | operation (o : Operation)
  /-- The engine is asked to decide about a packet. -/
  | packet (p : Packet)
  /-- The layer that was asked last answers. -/
  | answer

namespace Scene

/-- The scene after a part of a decision. -/
def proceed (sc : Scene) : Progress × Session → Scene
  | (.asking q, s) => { sc with session := s, asked := q :: sc.asked }
  | (.decided p accepted, s) =>
    { sc with session := s, decisions := (p, accepted) :: sc.decisions }

/-- The scene after a move, operations being carried out as the first argument says. -/
def play (perform : Session → Operation → Session) (sc : Scene) : Move → Scene
  | .operation o => { sc with session := perform sc.session o }
  | .packet p => sc.proceed (sc.session.begin p)
  | .answer =>
    match sc.asked with
    | [] => sc
    | q :: asked => { sc with asked := asked }.proceed (sc.session.answer q)

/-- The scene after a number of moves, the newest of which is the first. -/
def after (perform : Session → Operation → Session) (sc : Scene) : List Move → Scene
  | [] => sc
  | m :: past => (sc.after perform past).play perform m

theorem proceed_session (sc : Scene) (r : Progress × Session) :
    (sc.proceed r).session = r.2 := by
  obtain ⟨progress, s⟩ := r
  cases progress <;> rfl

/-- What becomes of the session of a scene in a move. -/
inductive Advance (sc : Scene) : Move → Session → Prop
  /-- An operation is carried out. -/
  | performs (o : Operation) : Advance sc (.operation o) (sc.session.perform o)
  /-- A decision begins. -/
  | begins (p : Packet) : Advance sc (.packet p) (sc.session.begin p).2
  /-- No question is open. -/
  | idles (unasked : sc.asked = []) : Advance sc .answer sc.session
  /-- The question that was put last is answered. -/
  | answers {q : Inquiry} {others : List Inquiry} (asked : sc.asked = q :: others) :
    Advance sc .answer (sc.session.answer q).2

theorem advance_play (sc : Scene) (m : Move) :
    Advance sc m (sc.play Session.perform m).session := by
  cases m with
  | operation o => exact .performs o
  | packet p =>
    rw [play, proceed_session]
    exact .begins p
  | answer =>
    cases asked : sc.asked with
    | nil =>
      simp only [play, asked]
      exact .idles asked
    | cons q others =>
      simp only [play, asked, proceed_session]
      exact .answers asked

/-! ### A whole decision in a scene -/

theorem after_append (perform : Session → Operation → Session) (sc : Scene)
    (new old : List Move) :
    sc.after perform (new ++ old) = (sc.after perform old).after perform new := by
  induction new with
  | nil => rfl
  | cons m new ih => exact congrArg (play perform · m) ih

/-- Operations that are done one after the other change the session and nothing else. -/
theorem after_operations (perform : Session → Operation → Session) (sc : Scene)
    (os : List Operation) :
    sc.after perform (os.reverse.map .operation) =
      { sc with session := os.foldl perform sc.session } := by
  induction os generalizing sc with
  | nil => rfl
  | cons o os ih =>
    rw [List.reverse_cons, List.map_append, after_append, ih]
    rfl

end Scene

/-- The layers that are asked perform operations before they answer. -/
def scripted (script : Role → Nat → List Operation) : During :=
  fun role layer s => (script role layer).foldl perform s

variable {script : Role → Nat → List Operation}

/-- From any part of a decision on, some moves of a scene lead to where the decision ends. -/
theorem Finishes.moves {r : Progress × Session} {out : Bool × Session}
    (finishes : Finishes (scripted script) r out) (sc : Scene) :
    ∃ moves, (sc.proceed r).after perform moves =
      sc.proceed (.decided r.1.packet out.1, out.2) := by
  induction finishes with
  | decided p accepted s => exact ⟨[], rfl⟩
  | asking q s out rest ih =>
    obtain ⟨moves, reach⟩ := ih
    refine ⟨moves ++ .answer :: (script q.role q.layer).reverse.map .operation, ?_⟩
    rw [packet_answer] at reach
    rw [Scene.after_append, Scene.after, Scene.after_operations, Progress.packet, ← reach]
    rfl

/-- **A scene goes through whole decisions**: by asking for one and by moves after that, it comes to
the session and to the decision that `accept` gives, whatever operations the layers perform
that are asked. -/
theorem after_accept (sc : Scene) :
    ∃ moves, sc.after perform (moves ++ [.packet p]) =
      { sc with
        session := (sc.session.accept (scripted script) p).2
        decisions := (p, (sc.session.accept (scripted script) p).1) :: sc.decisions } := by
  obtain ⟨moves, reach⟩ := (finishes_begin (scripted script) p sc.session).moves sc
  refine ⟨moves, ?_⟩
  rw [packet_begin] at reach
  rw [Scene.after_append]
  exact reach

end Simulcast.Session
