import Simulcast.Proofs.Session.Deeds

/-!
# The threshold in force

The threshold of an engine is looked up in the settings once, by the first move that has the engine
read it or decide about a packet. Before that there is a threshold too, and requests may set another
one at any time, whatever becomes of the switch that they ask for. `threshold_read_once` says when
the look-up takes place and that the threshold is always the one that was set last.

All that matters to this is the `Footing` of a session: the threshold, whether it was read, and the
look-ups so far. A move reads the threshold or not, then sets one or not (`footing_play`), so that
the footing after a run can be told from its moves alone (`footing_after`).
-/

namespace Simulcast.Session

open Switching

/-! ### Footings -/

/-- What was looked up, with the default, if it was a threshold. -/
def Happening.reading? : Happening → Option (String × Int32)
  | .thresholdRead key default => some (key, default)
  | .keyframe _ => none
  | .announced _ _ _ => none

/-- The thresholds that were looked up, the last one first. -/
def readings (s : Session) : List (String × Int32) := s.happenings.filterMap Happening.reading?

/-- What a session has to do with its threshold. -/
structure Footing where
  /-- Where the threshold comes from. -/
  thresholds : Thresholds
  /-- The threshold. -/
  minNextSeen : Int32
  /-- Whether it was read. -/
  initialized : Bool
  /-- The thresholds that were looked up, the last one first. -/
  readings : List (String × Int32)

/-- The footing of a session. -/
def footing (s : Session) : Footing where
  thresholds := s.thresholds
  minNextSeen := s.minNextSeen
  initialized := s.initialized
  readings := s.readings

namespace Footing

/-- The footing after the threshold was read, for which it is looked up the first time. -/
def read (f : Footing) : Footing :=
  if f.initialized then f
  else
    { f with
      minNextSeen := (f.thresholds.lookup "switching.min_next_seen" 125).value
      initialized := true
      readings := ("switching.min_next_seen", 125) :: f.readings }

/-- The footing after a threshold was set, if one was. -/
def set (m : Option Int32) (f : Footing) : Footing :=
  { f with minNextSeen := m.getD f.minNextSeen }

@[simp] theorem set_none (f : Footing) : f.set none = f := rfl

end Footing

/-! ### Steps that leave the footing alone -/

@[simp] theorem footing_note (e : Journal.Event) (s : Session) : (s.note e).footing = s.footing :=
  rfl

@[simp] theorem footing_commit (c : List Effect × Session) : (commit c).footing = c.2.footing := by
  refine commit_eq_of_apply_eq footing (fun s e => ?_) c
  cases e with
  | keyframe layer => rfl
  | announcement kind layer => rfl

@[simp] theorem footing_assign (role : Role) (h : Option Handle) (s : Session) :
    (s.assign role h).footing = s.footing := rfl

@[simp] theorem footing_dropNext (s : Session) : s.dropNext.footing = s.footing := rfl

@[simp] theorem footing_makeCurrent (h : Handle) (promoted : Bool) (s : Session) :
    (s.makeCurrent h promoted).footing = s.footing := by
  have tally : (s.makeCurrent h promoted).footing =
      ((s.assign .current (some h)).dropNext).footing := rfl
  rw [tally, footing_dropNext, footing_assign]

@[simp] theorem footing_makeNext (h : Handle) (s : Session) :
    (s.makeNext h).footing = s.footing := rfl

theorem footing_abandonNext (s : Session) : (commit s.abandonNext).footing = s.footing := by
  rw [footing_commit]
  obtain idle | ⟨layer, e, gone⟩ := abandonNext_eq s
  · rw [idle]
  · rw [gone]
    rfl

theorem footing_configureOverride (r : Option Request) (s : Session) :
    (s.configureOverride r).footing = s.footing := by
  unfold configureOverride
  split
  · rfl
  · unfold setOverride
    split
    · rfl
    · split
      · rw [footing_commit, clearOverride_snd]
        rfl
      · rw [footing_commit, overrideWith]
        split <;> rfl

theorem footing_promote (h : Handle) (s : Session) :
    (commit (s.promote h)).footing = s.footing := by
  rw [footing_commit]
  have heeded := heeded_promote h s
  generalize s.promote h = c at heeded ⊢
  cases heeded with
  | vain => rfl
  | counted => rfl
  | takesOver pending there e =>
    rw [footing_makeCurrent, footing_note]
    rfl

theorem footing_forget (source : Source) (s : Session) :
    (s.forget source).footing = s.footing := by
  unfold forget
  split <;> rfl

theorem footing_remove (h : Handle) (s : Session) : (s.remove h).2.footing = s.footing := by
  unfold remove
  split <;> rfl

theorem footing_conclude (p : Packet) (selected : Bool) (s : Session) :
    (s.conclude p selected).2.footing = s.footing := by
  unfold conclude
  split
  · rfl
  · unfold trickle
    simp only
    split <;> rfl

/-! ### Setting and reading the threshold -/

/-- A request sets its threshold, if it has one, whatever becomes of its switch. -/
theorem footing_configure (r : Option Request) (s : Session) :
    (s.configure r).footing = s.footing.set (r.bind (·.minNextSeen)) := by
  cases r with
  | none => rfl
  | some r =>
    have threshold : (s.setThreshold r).footing = s.footing.set r.minNextSeen := rfl
    have followed := followed_transition r s
    rw [configure, footing_commit, Option.bind_some, ← threshold]
    generalize s.transition r = c at followed ⊢
    cases followed with
    | idle => rfl
    | refused e => rfl
    | stays order found held => rfl
    | switches order found other =>
      rw [switchTo_snd]
      split <;> simp

theorem footing_readThreshold (s : Session) : s.readThreshold.footing = s.footing.read := by
  cases read : s.initialized with
  | true =>
    have known : s.footing.initialized = true := read
    rw [readThreshold_of_initialized read, Footing.read, if_pos known]
  | false =>
    have unknown : s.footing.initialized ≠ true := by simp [footing, read]
    have name : minNextSeenKey = "switching.min_next_seen" := by decide
    rw [readThreshold_of_not_initialized read, Footing.read, if_neg unknown, name]
    rfl

/-- Reading the threshold twice is reading it once. -/
theorem readThreshold_readThreshold (s : Session) :
    s.readThreshold.readThreshold = s.readThreshold :=
  readThreshold_of_initialized (readThreshold_initialized s)

/-! ### Moves -/

/-- Whether the engine reads its threshold in a move, unless it did so before. -/
def Move.reads : Move → Bool
  | .operation .readThreshold => true
  | .packet _ => true
  | _ => false

/-- The threshold that is set in a move by request. -/
def Move.sets? : Move → Option Int32
  | .operation (.configure r) => r.bind (·.minNextSeen)
  | _ => none

theorem footing_perform (s : Session) (o : Operation) :
    (s.perform o).footing =
      (if (Move.operation o).reads then s.footing.read else s.footing).set
        (Move.operation o).sets? := by
  cases o with
  | configure r => exact footing_configure r s
  | configureOverride r => exact footing_configureOverride r s
  | receiveHigh =>
    rw [perform, receiveHigh]
    split
    · rfl
    · exact footing_configure _ s
  | receiveLow urgent =>
    rw [perform, receiveLow, footing_abandonNext]
    exact footing_configure _ s
  | readThreshold => exact footing_readThreshold s
  | forget source => exact footing_forget source s
  | remove h => exact footing_remove h s
  | add l => rfl
  | insert layer => rfl
  | clear => rfl
  | alter layer l => rfl
  | alterReceiver e => rfl
  | alterSender e => rfl

theorem footing_begin (p : Packet) (s : Session) : (s.begin p).2.footing = s.footing.read :=
  ((proceeds_begin p s).view_eq footing_conclude).trans (footing_readThreshold s)

theorem footing_answer (q : Inquiry) (s : Session) : (s.answer q).2.footing = s.footing := by
  rw [(proceeds_answer q s).view_eq footing_conclude]
  rcases credited_eq q s with same | ⟨h, counted⟩
  · rw [same]
  · rw [counted, footing_promote]

/-- **What a move does to the footing**: the threshold is read or not, then set or not. -/
theorem footing_play (sc : Scene) (m : Move) :
    (sc.play perform m).session.footing =
      (if m.reads then sc.session.footing.read else sc.session.footing).set m.sets? := by
  have advance := sc.advance_play m
  generalize (sc.play perform m).session = t at advance ⊢
  cases advance with
  | performs o => exact footing_perform sc.session o
  | begins p =>
    rw [footing_begin]
    rfl
  | idles unasked => rfl
  | answers asked =>
    rw [footing_answer]
    rfl

/-! ### Runs -/

/-- The threshold that was set last: by a request, by reading it the first time, or else in the
beginning. -/
def lastThreshold (thresholds : Thresholds) : List Move → Int32
  | [] => 125
  | m :: past =>
    m.sets?.getD
      (if m.reads && !past.any Move.reads then
        (thresholds.lookup "switching.min_next_seen" 125).value
      else lastThreshold thresholds past)

/-- **The footing can be told from the moves.** -/
theorem footing_after (channel : Announcement.Channel) (thresholds : Thresholds)
    (past : List Move) :
    ((Scene.opening channel thresholds).after perform past).session.footing =
      { thresholds := thresholds
        minNextSeen := lastThreshold thresholds past
        initialized := past.any Move.reads
        readings := if past.any Move.reads then [("switching.min_next_seen", 125)] else [] } := by
  induction past with
  | nil => rfl
  | cons m past ih =>
    rw [Scene.after, footing_play, ih, lastThreshold, List.any_cons]
    by_cases now : m.reads = true
    · by_cases before : past.any Move.reads = true
      · simp [now, before, Footing.read, Footing.set]
      · simp [now, before, Footing.read, Footing.set]
    · simp [now, Footing.set]

/-- As long as no move has the engine read its threshold, no layer is asked. -/
theorem asked_eq_nil_of_unread (channel : Announcement.Channel) (thresholds : Thresholds)
    {past : List Move} (unread : past.any Move.reads = false) :
    ((Scene.opening channel thresholds).after perform past).asked = [] := by
  induction past with
  | nil => rfl
  | cons m past ih =>
    rw [List.any_cons, Bool.or_eq_false_iff] at unread
    obtain ⟨now, before⟩ := unread
    have none := ih before
    cases m with
    | operation o => exact none
    | packet p => cases now
    | answer =>
      rw [Scene.after, Scene.play, none]
      exact none

/-- **The threshold is read once, and then only requests change it.** After any moves of a scene,
the newest first, and so also while layers are asked: the threshold was looked up, once and by
its key with the default 125, if some move had the engine read it or decide about a packet, and
not otherwise; the snapshot says whether it was; no question was put to a layer before; and the
threshold is the one that was set last, be it in the beginning, by the look-up, or by a request,
whether its switch was refused or not. In whatever state a session is, reading the threshold sets
it and records this, the first time, and does nothing to the roles and the count nor to layers
and endpoints, and a decision about a packet is the decision after the threshold was read. -/
theorem threshold_read_once (channel : Announcement.Channel) (thresholds : Thresholds)
    (past : List Move) :
    let sc := (Scene.opening channel thresholds).after perform past
    sc.session.readings =
        (if past.any Move.reads then [("switching.min_next_seen", 125)] else []) ∧
      sc.session.snapshot.initialized = past.any Move.reads ∧
      (past.any Move.reads = false → sc.asked = []) ∧
      sc.session.snapshot.minNextSeen = lastThreshold thresholds past ∧
      ∀ s : Session,
        s.readThreshold =
            (if s.initialized then s
            else
              { s with
                minNextSeen := (s.thresholds.lookup "switching.min_next_seen" 125).value
                initialized := true
                happenings := .thresholdRead "switching.min_next_seen" 125 :: s.happenings
                journal :=
                  .initializing (s.thresholds.lookup "switching.min_next_seen" 125).value ::
                    ((s.thresholds.lookup "switching.min_next_seen" 125).events.reverse ++
                      s.journal) }) ∧
          ∀ during p, s.accept during p = s.readThreshold.accept during p := by
  intro sc
  have footing := footing_after channel thresholds past
  refine ⟨congrArg Footing.readings footing, congrArg Footing.initialized footing,
    asked_eq_nil_of_unread channel thresholds, congrArg Footing.minNextSeen footing, ?_⟩
  intro s
  constructor
  · have name : "switching.min_next_seen" = minNextSeenKey := by decide
    cases read : s.initialized with
    | true => rw [readThreshold_of_initialized read, if_pos rfl]
    | false =>
      rw [readThreshold_of_not_initialized read, name]
      rfl
  · intro during p
    rw [accept, accept, readThreshold_readThreshold]

end Simulcast.Session
