import Simulcast.Proofs.Trickle.Accounts

/-!
# The tenure of a counter

A counter is held from the first request for it until its source is forgotten. What was asked of it
in this time, its tenure, can be told from the requests about its source alone: the bound that was
given first, and the number of steps. `counters_exact` says that this is all that replies depend on:
a counter that has taken `k` steps takes the values `k`, `k + 1` and so on next, each modulo its
bound, and nothing overflows on the way; and two requests meet the same counter exactly if they are
about one source that was not forgotten between them.
-/

namespace Simulcast.Trickle

/-! ### Steps of a counter -/

namespace Counter

/-- After one more than `k` steps a new counter stands at `k`, modulo its bound. -/
theorem steps_new {bound : UInt32} (positive : 0 < bound) (k : Nat) :
    (new bound).steps (k + 1) = ⟨bound, UInt32.ofNat (k % bound.toNat)⟩ := by
  induction k with
  | zero => exact new_step positive
  | succ k ih =>
    show ((new bound).steps (k + 1)).step = _
    rw [ih, step_residue positive]

@[simp] theorem bound_steps (n : Nat) (c : Counter) : (c.steps n).bound = c.bound := by
  induction n with
  | zero => rfl
  | succ n ih => exact ih

theorem steps_steps (m n : Nat) (c : Counter) : (c.steps m).steps n = c.steps (m + n) := by
  induction n with
  | zero => rfl
  | succ n ih => exact congrArg step ih

/-- A counter is always below its bound. -/
theorem value_steps_lt {bound : UInt32} (positive : 0 < bound) (k : Nat) :
    ((new bound).steps k).value < bound := by
  have nonzero : 0 < bound.toNat := positive
  have width := bound.toNat_lt
  rw [UInt32.lt_iff_toNat_lt]
  cases k with
  | zero =>
    have one : (1 : UInt32).toNat = 1 := rfl
    have least : (1 : UInt32) ≤ bound := UInt32.le_iff_toNat_le.2 (by omega)
    show (bound - 1).toNat < _
    rw [UInt32.toNat_sub_of_le _ _ least, one]
    omega
  | succ k =>
    have below := Nat.mod_lt k nonzero
    rw [steps_new positive, UInt32.toNat_ofNat', Nat.mod_eq_of_lt (by omega)]
    exact below

/-- **The values of a counter** that has taken `k` steps are `k`, `k + 1` and so on, modulo its
bound. -/
theorem values_steps {bound : UInt32} (positive : 0 < bound) (k n : Nat) :
    (((new bound).steps k).values n).map (·.toNat) =
      (List.range n).map fun j => (k + j) % bound.toNat := by
  induction n generalizing k with
  | zero => rfl
  | succ n ih =>
    have nonzero : 0 < bound.toNat := positive
    have width := bound.toNat_lt
    have below := Nat.mod_lt k nonzero
    have stepped : ((new bound).steps k).step = (new bound).steps (k + 1) := rfl
    rw [values, stepped, List.map_cons, ih, List.range_succ_eq_map, List.map_cons, List.map_map,
      steps_new positive]
    congr 1
    · rw [UInt32.toNat_ofNat', Nat.mod_eq_of_lt (by omega)]
      rfl
    · refine List.map_congr_left fun j _ => ?_
      show (k + 1 + j) % bound.toNat = (k + (j + 1)) % bound.toNat
      congr 1
      omega

end Counter

/-! ### Tenures -/

/-- What was asked of the counter of a source since it was made. -/
structure Tenure where
  /-- The bound that was given first. -/
  bound : UInt32
  /-- The number of steps. -/
  count : Nat
  deriving DecidableEq, Repr

namespace Tenure

/-- The counter after this. -/
def counter (t : Tenure) : Counter := (Counter.new t.bound).steps t.count

/-- Some more steps are asked for. -/
def extend (times : Nat) (t : Tenure) : Tenure := { t with count := t.count + times }

theorem counter_extend (times : Nat) (t : Tenure) :
    (t.extend times).counter = t.counter.steps times :=
  (Counter.steps_steps t.count times _).symm

end Tenure

/-- The tenure of the counter of a source after requests, the newest of which is the first, if it
has one then. -/
def tenure? (source : Source) : List Request → Option Tenure
  | [] => none
  | .count other bound times :: past =>
    if other = source then some (((tenure? source past).getD ⟨bound, 0⟩).extend times)
    else tenure? source past
  | .forget other :: past => if other = source then none else tenure? source past

/-- Requests about other sources have no part in it. -/
theorem tenure?_filter (source : Source) (past : List Request) :
    tenure? source (past.filter (·.source = source)) = tenure? source past := by
  induction past with
  | nil => rfl
  | cons r past ih =>
    cases r with
    | count other bound times =>
      by_cases same : other = source
      · simp [same, tenure?, ih]
      · simp [same, tenure?, ih]
    | forget other =>
      by_cases same : other = source
      · simp [same, tenure?]
      · simp [same, tenure?, ih]

/-- Whether a request gives a bound that a counter can have. -/
def Request.Positive : Request → Prop
  | count _ bound _ => 0 < bound
  | forget _ => True

theorem bound_of_tenure? {source : Source} {past : List Request}
    (positive : ∀ r ∈ past, r.Positive) {t : Tenure} (held : tenure? source past = some t) :
    0 < t.bound := by
  induction past generalizing t with
  | nil => cases held
  | cons r past ih =>
    obtain ⟨now, before⟩ := List.forall_mem_cons.1 positive
    cases r with
    | count other bound times =>
      rw [tenure?] at held
      split at held
      · cases earlier : tenure? source past with
        | none =>
          rw [earlier] at held
          obtain rfl := Option.some.inj held
          exact now
        | some t' =>
          rw [earlier] at held
          obtain rfl := Option.some.inj held
          have first : 0 < t'.bound := ih before earlier
          exact first
      · exact ih before held
    | forget other =>
      rw [tenure?] at held
      split at held
      · cases held
      · exact ih before held

/-- A reply, whichever counter it is about. -/
def Reply.unnumbered : Reply → Reply
  | counter _ bound values => counter 0 bound values
  | forgotten was => forgotten was

namespace Ledger

variable {source other : Source} {bound : UInt32} {past newer older : List Request}

/-! ### Runs -/

/-- The ledger after requests, the newest of which is the first. -/
def after : List Request → Ledger
  | [] => .empty
  | r :: past => ((after past).serve r).2

theorem orderly_after (past : List Request) : (after past).Orderly := by
  induction past with
  | nil => exact ⟨List.nodup_nil, List.nodup_nil, nofun⟩
  | cons r past ih => exact ih.serve r

/-- Where the counter of a source is the one of a tenure, a request gets this one, or a new one. -/
theorem counter_account {l : Ledger} {t : Option Tenure}
    (same : (l.get? source).map (·.counter) = t.map Tenure.counter) (bound : UInt32) :
    (l.account source bound).counter = (t.getD ⟨bound, 0⟩).counter := by
  rw [account]
  cases held : l.get? source with
  | none =>
    cases t with
    | none => rfl
    | some t => simp [held] at same
  | some a =>
    cases t with
    | none => simp [held] at same
    | some t =>
      rw [held] at same
      exact Option.some.inj same

/-- **The counter of a source can be told from the requests about it.** -/
theorem counter_after (source : Source) (past : List Request) :
    ((after past).get? source).map (·.counter) = (tenure? source past).map Tenure.counter := by
  induction past with
  | nil => rfl
  | cons r past ih =>
    rw [after, get?_serve]
    cases r with
    | count other bound times =>
      by_cases same : other = source
      · subst same
        simp [tenure?, Tenure.counter_extend, counter_account ih]
      · simp [tenure?, same, ih]
    | forget other => by_cases same : other = source <;> simp [tenure?, same, ih]

theorem contains_after (source : Source) (past : List Request) :
    (after past).contains source = (tenure? source past).isSome := by
  have same := congrArg Option.isSome (counter_after source past)
  rw [Option.isSome_map, Option.isSome_map] at same
  exact same

/-- **What a request for a counter is answered with**: the bound and the values of its tenure. -/
theorem reply_count (source : Source) (past : List Request) (positive : 0 < bound)
    (all_positive : ∀ r ∈ past, r.Positive) (times : Nat) :
    let t := (tenure? source past).getD ⟨bound, 0⟩
    ∃ values : List UInt32,
      ((after past).serve (.count source bound times)).1 =
          .counter ((after past).account source bound).serial t.bound values ∧
        values.map (·.toNat) = (List.range times).map fun j => (t.count + j) % t.bound.toNat := by
  intro t
  have counter : ((after past).account source bound).counter = t.counter :=
    counter_account (counter_after source past) bound
  have valid : 0 < t.bound := by
    cases held : tenure? source past with
    | none => simpa [t, held] using positive
    | some t' => simpa [t, held] using bound_of_tenure? all_positive held
  refine ⟨t.counter.values times, ?_, Counter.values_steps valid t.count times⟩
  rw [serve, counter, Tenure.counter, Counter.bound_steps]
  rfl

/-! ### Which counter it is -/

theorem made_serve (l : Ledger) (r : Request) : l.made ≤ (l.serve r).2.made := by
  cases r with
  | count source bound times =>
    have kept :
        ((l.ensure source bound).steps source times).made = (l.ensure source bound).made := by
      induction times with
      | zero => rfl
      | succ n ih => exact ih
    show l.made ≤ ((l.ensure source bound).steps source times).made
    rw [kept, ensure]
    split
    · exact Nat.le_refl _
    · exact Nat.le_succ _
  | forget source => exact Nat.le_refl _

theorem made_after (newer older : List Request) :
    (after older).made ≤ (after (newer ++ older)).made := by
  induction newer with
  | nil => exact Nat.le_refl _
  | cons r newer ih => exact Nat.le_trans ih (made_serve _ r)

/-- A counter that was there before is still there, as long as its source is not forgotten. -/
theorem get?_later {a : Account} (held : (after older).get? source = some a)
    (kept : .forget source ∉ newer) :
    ∃ b, (after (newer ++ older)).get? source = some b ∧ b.serial = a.serial := by
  induction newer with
  | nil => exact ⟨a, held, rfl⟩
  | cons r newer ih =>
    rw [List.mem_cons, not_or] at kept
    obtain ⟨now, before⟩ := kept
    obtain ⟨b, there, same⟩ := ih before
    rw [List.cons_append, after, get?_serve]
    cases r with
    | count other bound times =>
      by_cases here : other = source
      · subst here
        refine ⟨_, if_pos rfl, ?_⟩
        simp [account, there, same]
      · exact ⟨b, by simp [here, there], same⟩
    | forget other =>
      have here : other ≠ source := fun e => now (e ▸ rfl)
      exact ⟨b, by simp [here, there], same⟩

/-- A counter that is there now was made since, or was there before and its source was not
forgotten. -/
theorem serial_later {b : Account} (held : (after (newer ++ older)).get? source = some b) :
    (after older).made ≤ b.serial ∨
      .forget source ∉ newer ∧
        ∃ a, (after older).get? source = some a ∧ a.serial = b.serial := by
  induction newer generalizing b with
  | nil => exact .inr ⟨List.not_mem_nil, b, held, rfl⟩
  | cons r newer ih =>
    rw [List.cons_append, after, get?_serve] at held
    cases r with
    | count other bound times =>
      by_cases here : other = source
      · subst here
        obtain rfl := Option.some.inj (by simpa using held)
        cases there : (after (newer ++ older)).get? other with
        | none =>
          left
          simpa [account, there] using made_after newer older
        | some a => simpa [account, there] using ih there
      · rw [if_neg (by simpa using here)] at held
        simpa using ih held
    | forget other =>
      by_cases here : other = source
      · simp [here] at held
      · rw [if_neg (by simpa using here)] at held
        refine (ih held).imp_right (.imp_left fun kept => ?_)
        simpa [Ne.symm here] using kept

/-- **Two requests meet the same counter** exactly if they are about one source that was not
forgotten between them. -/
theorem serial_eq_iff (newer older : List Request) (source source' : Source)
    (bound bound' : UInt32) (times : Nat) :
    ((after (newer ++ .count source bound times :: older)).account source' bound').serial =
        ((after older).account source bound).serial ↔
      source' = source ∧ .forget source ∉ newer := by
  -- what the first request meets is there right after it
  obtain ⟨a, held, same⟩ :
      ∃ a, (after (.count source bound times :: older)).get? source = some a ∧
        a.serial = ((after older).account source bound).serial :=
    ⟨_, (get?_serve _ _ source).trans (if_pos rfl), rfl⟩
  have orderly := orderly_after (.count source bound times :: older)
  have mem : a ∈ (after (.count source bound times :: older)).accounts :=
    List.mem_of_find?_eq_some held
  rw [← same]
  constructor
  · intro meets
    cases there : (after (newer ++ .count source bound times :: older)).get? source' with
    | none =>
      -- a counter that is made now is told from all others
      have new : a.serial < (after (newer ++ .count source bound times :: older)).made :=
        Nat.lt_of_lt_of_le (orderly.made a mem) (made_after newer _)
      rw [account, there, Option.getD_none] at meets
      exact absurd meets (Nat.ne_of_gt new)
    | some b =>
      rw [account, there, Option.getD_some] at meets
      rcases serial_later there with since | ⟨kept, c, before, serial⟩
      · have new := orderly.made a mem
        omega
      · have here : c ∈ (after (.count source bound times :: older)).accounts :=
          List.mem_of_find?_eq_some before
        obtain rfl : c = a :=
          List.inj_on_of_nodup_map orderly.serials here mem (serial.trans meets)
        have own : source' = source := (source_of_get? before).symm.trans (source_of_get? held)
        exact ⟨own, own ▸ kept⟩
  · rintro ⟨rfl, kept⟩
    obtain ⟨b, there, serial⟩ := get?_later held kept
    rw [account, there, Option.getD_some, serial]

/-! ### Requests about one source -/

/-- Requests with their replies, the newest first. -/
def transcript : List Request → List (Request × Reply)
  | [] => []
  | r :: past => (r, ((after past).serve r).1) :: transcript past

/-- **Requests about other sources change no reply**, apart from the numbers of the counters. -/
theorem unnumbered_serve (r : Request) (past : List Request) :
    ((after (past.filter (·.source = r.source))).serve r).1.unnumbered =
      ((after past).serve r).1.unnumbered := by
  have tenure := tenure?_filter r.source past
  cases r with
  | count source bound times =>
    have counter : ((after (past.filter (·.source = source))).account source bound).counter =
        ((after past).account source bound).counter := by
      rw [counter_account (counter_after source _), counter_account (counter_after source past)]
      exact congrArg (fun t => (Option.getD t ⟨bound, 0⟩).counter) tenure
    exact congrArg (fun c : Counter => Reply.counter 0 c.bound (c.values times)) counter
  | forget source =>
    have same : (after (past.filter (·.source = source))).contains source =
        (after past).contains source := by
      rw [contains_after, contains_after]
      exact congrArg Option.isSome tenure
    exact congrArg Reply.forgotten same

theorem transcript_filter (source : Source) (past : List Request) :
    ((transcript past).filter (·.1.source = source)).map (fun e => (e.1, e.2.unnumbered)) =
      (transcript (past.filter (·.source = source))).map fun e => (e.1, e.2.unnumbered) := by
  induction past with
  | nil => rfl
  | cons r past ih =>
    by_cases same : r.source = source
    · subst same
      simp [transcript, ih, unnumbered_serve]
    · simp [transcript, same, ih]

/-! ### Counters -/

/-- **Counters are exact, and each source has its own.** After any requests with bounds above zero,
the newest first: a request for the counter of a source gets one that has the bound that was given
first since the source was last forgotten, or else the bound given now, and that takes the values
which follow the number of steps since then, modulo the bound; a request to forget a source says
whether it had a counter; all counters are below their bounds, so that the next step does not
overflow. Two requests get the same counter exactly if they are about one source that was not
forgotten between them. The size of the ledger is the number of sources that have a counter. And
without the requests about other sources, those about one source have the same replies, the numbers
apart that tell counters from each other. -/
theorem counters_exact (past : List Request) (positive : ∀ r ∈ past, r.Positive) :
    let l := after past
    (∀ source bound times, 0 < bound →
      let t := (tenure? source past).getD ⟨bound, 0⟩
      ∃ values : List UInt32,
        (l.serve (.count source bound times)).1 =
            .counter (l.account source bound).serial t.bound values ∧
          values.map (·.toNat) = (List.range times).map fun j => (t.count + j) % t.bound.toNat) ∧
      (∀ source, (l.serve (.forget source)).1 = .forgotten (tenure? source past).isSome) ∧
      (∀ source a, l.get? source = some a →
        a.counter.value < a.counter.bound ∧ a.counter.value.toNat + 1 < 2 ^ 32) ∧
      (∀ newer source bound times older, past = newer ++ .count source bound times :: older →
        ∀ source' bound', (l.account source' bound').serial =
            ((after older).account source bound).serial ↔
          source' = source ∧ .forget source ∉ newer) ∧
      l.size = {source | (tenure? source past).isSome = true}.ncard ∧
      ∀ source,
        ((transcript past).filter (·.1.source = source)).map (fun e => (e.1, e.2.unnumbered)) =
          (transcript (past.filter (·.source = source))).map fun e => (e.1, e.2.unnumbered) := by
  intro l
  refine ⟨?_, ?_, ?_, ?_, ?_, fun source => transcript_filter source past⟩
  · intro source bound times now
    exact reply_count source past now positive times
  · intro source
    rw [← contains_after]
    rfl
  · intro source a held
    have counter := counter_after source past
    rw [held, Option.map_some] at counter
    obtain ⟨t, tenure, same⟩ := Option.map_eq_some_iff.1 counter.symm
    have below := Counter.value_steps_lt (bound_of_tenure? positive tenure) t.count
    have bound := Counter.bound_steps t.count (.new t.bound)
    rw [← same, Tenure.counter, bound]
    refine ⟨below, ?_⟩
    have width := t.bound.toNat_lt
    have small := UInt32.lt_iff_toNat_lt.1 below
    omega
  · rintro newer source bound times older rfl source' bound'
    exact serial_eq_iff newer older source source' bound bound' times
  · rw [(orderly_after past).size_eq]
    simp only [contains_after]

/-- A source is asked for, forgotten, and asked for again with another bound, beside one with the
least bound. -/
def renewedSample : List Request :=
  [.count 7 3 2, .count 9 1 2, .forget 7, .count 7 16 5]

/-- The new counter starts over with its own bound, and goes on with it. -/
theorem counter_made_anew :
    (∀ r ∈ renewedSample, r.Positive) ∧
      (∃ serial values, ((after renewedSample).serve (.count 7 99 3)).1 =
        .counter serial 3 values ∧ values.map (·.toNat) = [2, 0, 1]) ∧
      ((after renewedSample).account 7 99).serial ≠ ((after []).account 7 16).serial := by
  have positive : ∀ r ∈ renewedSample, r.Positive := by
    simp [renewedSample, Request.Positive]
  obtain ⟨replies, -, -, which, -, -⟩ := counters_exact renewedSample positive
  refine ⟨positive, ?_, ?_⟩
  · obtain ⟨values, reply, taken⟩ := replies 7 99 3 (by decide)
    exact ⟨_, values, reply, taken⟩
  · intro same
    have kept := (which [.count 7 3 2, .count 9 1 2, .forget 7] 7 16 5 [] rfl 7 99).1 same
    simp at kept

end Ledger

end Simulcast.Trickle
