import Mathlib.Data.List.Pairwise
import Simulcast.Proofs.Settings.Fields
import Simulcast.Proofs.Settings.Names

/-!
# The order of entries

The entries of a source come in any order when the sources are merged. Where no two of them have one
name, an entry is found in any order (`lookup_of_perm`). For what becomes of the
threshold the order matters only if an entry that sets it meets another one that sets it too, or
that puts something else in the place of the settings of switching; if no two entries of a source
`clash` like this, every order leads to the same threshold (`Sources.get?_tree_congr`).
-/

namespace Simulcast.Settings

variable {es es' : List (String × Tree)}

/-! ### Finding entries -/

theorem lookup_eq_some_iff (once : (namesOf es).Nodup) {name : String} {t : Tree} :
    es.lookup name = some t ↔ (name, t) ∈ es := by
  induction es with
  | nil => simp
  | cons e es ih =>
    obtain ⟨k, u⟩ := e
    obtain ⟨fresh, rest⟩ := List.nodup_cons.1 once
    rw [Tree.lookup_cons_ite, List.mem_cons, Prod.mk.injEq]
    by_cases same : name = k
    · subst same
      have absent : (name, t) ∉ es := fun there => fresh (List.mem_map.2 ⟨_, there, rfl⟩)
      simp [absent, eq_comm]
    · simp [same, ih rest]

/-- Where each name is used once, the order of the entries does not matter. -/
theorem lookup_of_perm (perm : es'.Perm es) (once : (namesOf es).Nodup)
    (name : String) : es'.lookup name = es.lookup name := by
  have once' : (namesOf es').Nodup := (perm.map _).nodup_iff.2 once
  refine Option.ext fun t => ?_
  rw [lookup_eq_some_iff once', lookup_eq_some_iff once, perm.mem_iff]

theorem Once.of_perm (once : Once es) (perm : es'.Perm es) : Once es' where
  root := (perm.map _).nodup_iff.2 once.root
  table k origin us there := once.table k origin us (perm.mem_iff.1 there)

/-! ### Variables -/

namespace Environment

/-- What holds of no entries, and goes on to hold when a variable is entered, holds of what the
variables say. -/
theorem entries_induction {P : List (String × Tree) → Prop} (nothing : P [])
    (enters : ∀ es k x, P es →
      P (Tree.alterEntry k (fun _ => .scalar (some .environment) x) es))
    (vars : List (String × String)) : P (entries vars) := by
  suffices kept : ∀ es, P es → P (vars.foldl enter es) from kept [] nothing
  induction vars with
  | nil => exact fun _ holds => holds
  | cons v vars ih =>
    intro es holds
    refine ih _ ?_
    rw [enter]
    split
    · exact enters es _ _ holds
    · exact holds

/-- What the variables say uses each name once, -/
theorem nodup_entries (vars : List (String × String)) : (namesOf (entries vars)).Nodup := by
  refine entries_induction (P := fun es => (namesOf es).Nodup) once_nil.root ?_ vars
  exact fun es k x once => Tree.nodup_alterEntry once k _

/-- and has no tables. -/
theorem once_entries (vars : List (String × String)) : Once (entries vars) where
  root := nodup_entries vars
  table := by
    have scalars : ∀ e ∈ entries vars, e.2.isTable = false := by
      refine entries_induction (P := fun es => ∀ e ∈ es, e.2.isTable = false) (by simp) ?_ vars
      intro es k x scalars e there
      obtain rfl | before := Tree.mem_alterEntry there
      · rfl
      · exact scalars e before
    intro k origin es there
    cases scalars _ there

end Environment

/-! ### What an entry does to the threshold -/

namespace Tree

variable {e e' : String × Tree}

/-- Whether an entry sets the threshold, or a part of it. -/
def setsThreshold (e : String × Tree) : Bool :=
  match Path.ofKey e.1 with
  | .key group :: .key name :: _ => group = switchingName && name = minNextSeenName
  | [.key group] => group = switchingName && (e.2.child? (.key minNextSeenName)).isSome
  | _ => false

/-- Whether an entry takes the threshold away: it puts something else than a table in the place of
the settings of switching. -/
def dropsThreshold (e : String × Tree) : Bool :=
  match Path.ofKey e.1 with
  | .key group :: .index _ :: _ => group = switchingName
  | [.key group] => group = switchingName && !e.2.isTable
  | _ => false

/-- What becomes of the threshold if a tree is laid over the part of the settings of switching at
the end of a path. -/
def imposeAt : Path → Tree → Option Tree → Option Tree
  | .key name :: path, u, threshold =>
    if name = minNextSeenName then some (alter u.overlay path (threshold.getD nothing))
    else threshold
  | .index _ :: _, _, _ => none
  | [], .table _ es, threshold =>
    ((es.lookup minNextSeenName).map fun w => w.overlay (threshold.getD nothing)).or threshold
  | [], _, _ => none

/-- What becomes of the threshold under an entry. -/
def impose (threshold : Option Tree) (e : String × Tree) : Option Tree :=
  match Path.ofKey e.1 with
  | .key group :: path => if group = switchingName then imposeAt path e.2 threshold else threshold
  | _ => threshold

theorem impose_of_drops (drops : dropsThreshold e = true) (threshold : Option Tree) :
    impose threshold e = none := by
  obtain ⟨k, u⟩ := e
  unfold dropsThreshold at drops
  unfold impose
  split at drops
  · simp_all [imposeAt]
  · cases u <;> simp_all [imposeAt, isTable]
  · cases drops

theorem impose_of_leaves (sets : setsThreshold e = false) (drops : dropsThreshold e = false)
    (threshold : Option Tree) : impose threshold e = threshold := by
  obtain ⟨k, u⟩ := e
  obtain ⟨group, path, named⟩ := Path.ofKey_eq_cons k
  simp only [setsThreshold, dropsThreshold, named] at sets drops
  simp only [impose, named]
  split
  · rename_i here
    match path, u with
    | .key name :: _, _ => simp_all [imposeAt]
    | .index _ :: _, _ => simp_all
    | [], .table _ us =>
      have absent : us.lookup minNextSeenName = none := by simpa [here, child?] using sets
      rw [imposeAt, absent]
      rfl
    | [], .scalar _ _ => simp_all [isTable]
    | [], .list _ _ => simp_all [isTable]
  · rfl

theorem child?_ground (name : String) (t : Tree) :
    t.ground.child? (.key name) = t.child? (.key name) := by
  unfold ground
  split <;> rfl

theorem child?_alter_overlay (path : Path) {k : String} {u : Tree} (once : Once [(k, u)])
    (t : Tree) :
    (alter u.overlay path t).child? (.key minNextSeenName) =
      imposeAt path u (t.child? (.key minNextSeenName)) := by
  match path with
  | .key name :: path =>
    rw [alter, child?_alterKey, imposeAt]
    by_cases same : minNextSeenName = name
    · rw [if_pos same, if_pos same.symm, same]
    · rw [if_neg same, if_neg (Ne.symm same)]
  | .index i :: path => cases t <;> rfl
  | [] =>
    cases u with
    | table origin es =>
      have names := once.table k origin es List.mem_cons_self
      rw [alter, overlay, child?_overlayEntries names, child?_ground, imposeAt]
    | list origin items => rfl
    | scalar origin value => rfl

/-- What becomes of the threshold in a tree under an entry depends on nothing else in the tree. -/
theorem get?_put (once : Once [e]) (t : Tree) :
    (t.put e.1 e.2).get? (Field.path .minNextSeen) =
      impose (t.get? (Field.path .minNextSeen)) e := by
  obtain ⟨group, path, named⟩ := Path.ofKey_eq_cons e.1
  have put : t.put e.1 e.2 = t.alterKey group (alter e.2.overlay path) := by
    rw [Tree.put, named]
    rfl
  rw [put, impose, named, get?_path, get?_path, child?_alterKey]
  by_cases here : switchingName = group
  · subst here
    simp only [Field.group, Field.name, if_true, Option.bind_some]
    rw [child?_alter_overlay path once, child?_getD_nothing]
  · rw [if_neg (show Field.minNextSeen.group ≠ group from here)]
    exact (if_neg (Ne.symm here)).symm

theorem get?_putAll (once : Once es) (t : Tree) :
    (t.putAll es).get? (Field.path .minNextSeen) =
      es.foldl impose (t.get? (Field.path .minNextSeen)) := by
  induction es generalizing t with
  | nil => rfl
  | cons e es ih =>
    have here : Once [e] := ⟨List.nodup_singleton _, fun k origin us there =>
      once.table k origin us (List.mem_cons.2 (.inl (List.mem_singleton.1 there)))⟩
    have rest : Once es := ⟨(List.nodup_cons.1 once.root).2, fun k origin us there =>
      once.table k origin us (List.mem_cons_of_mem _ there)⟩
    rw [List.foldl_cons, ← get?_put here]
    exact ih rest (t.put e.1 e.2)

/-! ### Entries that clash -/

/-- Whether one of two entries sets the threshold and the other one sets it too or takes it away. -/
def clash (e e' : String × Tree) : Bool :=
  setsThreshold e && (setsThreshold e' || dropsThreshold e') ||
    setsThreshold e' && dropsThreshold e

/-- Two entries that may come in either order, as far as the threshold is concerned. -/
def Interchangeable (e e' : String × Tree) : Prop :=
  ∀ threshold, impose (impose threshold e) e' = impose (impose threshold e') e

instance : Std.Symm Interchangeable where
  symm _ _ either threshold := (either threshold).symm

/-- Entries that do not clash are interchangeable. -/
theorem interchangeable_of_clash (apart : clash e e' = false) : Interchangeable e e' := by
  intro threshold
  cases sets : setsThreshold e with
  | true =>
    have leaves : setsThreshold e' = false ∧ dropsThreshold e' = false := by
      have apart := (Bool.or_eq_false_iff.1 apart).1
      simpa [sets] using apart
    rw [impose_of_leaves leaves.1 leaves.2, impose_of_leaves leaves.1 leaves.2]
  | false =>
    cases drops : dropsThreshold e with
    | false => rw [impose_of_leaves sets drops, impose_of_leaves sets drops]
    | true =>
      have sets' : setsThreshold e' = false := by simpa [clash, sets, drops] using apart
      rw [impose_of_drops drops, impose_of_drops drops]
      cases drops' : dropsThreshold e' with
      | true => exact impose_of_drops drops' none
      | false => exact impose_of_leaves sets' drops' none

end Tree

/-- No two entries clash. -/
def Settled (es : List (String × Tree)) : Prop := es.Pairwise fun e e' => Tree.clash e e' = false

instance (es : List (String × Tree)) : Decidable (Settled es) :=
  inferInstanceAs (Decidable (es.Pairwise _))

/-- Entries that do not clash lead to the same threshold in every order. -/
theorem Settled.foldl_impose (settled : Settled es) (perm : es'.Perm es)
    (threshold : Option Tree) :
    es'.foldl Tree.impose threshold = es.foldl Tree.impose threshold := by
  have pairs := settled.imp Tree.interchangeable_of_clash
  have either := List.Pairwise.forall_of_forall (fun _ _ _ => rfl) pairs
  exact (perm.symm.foldl_eq' (fun _ here _ there u => either here there u) threshold).symm

/-! ### The threshold of the sources -/

namespace Sources

variable {s : Sources} {b b' : Build} {t t' : Tree}

/-- In neither source do two entries clash. -/
structure Consistent (s : Sources) : Prop where
  /-- Not in the file, -/
  file : ∀ document, s.fileEntries = .ok document → Settled document
  /-- and not among the variables. -/
  environment : Settled (Environment.entries s.environment)

/-- The threshold of the sources is what the variables make of that of the file. -/
theorem get?_tree (merged : s.tree b = .ok t) :
    ∃ document, s.fileEntries = .ok document ∧
      t.get? (Field.path .minNextSeen) =
        (b.environment.arrange (Environment.entries s.environment)).foldl Tree.impose
          ((b.file.arrange document).foldl Tree.impose none) := by
  obtain ⟨document, read, made⟩ := ok_of_bind merged
  obtain rfl := Except.ok.inj made
  have file := (once_fileEntries read).of_perm (b.file.perm document)
  have environment := (Environment.once_entries s.environment).of_perm (b.environment.perm _)
  refine ⟨document, read, ?_⟩
  rw [Tree.get?_putAll environment, Tree.get?_putAll file]
  rfl

/-- **Whatever order the entries come in**, the sources have the same threshold if they are
consistent. -/
theorem get?_tree_congr (consistent : s.Consistent) (merged : s.tree b = .ok t)
    (merged' : s.tree b' = .ok t') :
    t.get? (Field.path .minNextSeen) = t'.get? (Field.path .minNextSeen) := by
  obtain ⟨document, read, here⟩ := get?_tree merged
  obtain ⟨document', read', there⟩ := get?_tree merged'
  obtain rfl := Except.ok.inj (read.symm.trans read')
  have file := consistent.file document read
  rw [here, there, file.foldl_impose (b.file.perm document),
    file.foldl_impose (b'.file.perm document),
    consistent.environment.foldl_impose (b.environment.perm _),
    consistent.environment.foldl_impose (b'.environment.perm _)]

/-- Sources are merged in any order if they are in one. -/
theorem exists_tree (merged : s.tree b = .ok t) (b' : Build) : ∃ t', s.tree b' = .ok t' := by
  obtain ⟨document, read, -⟩ := ok_of_bind merged
  rw [tree, read]
  exact ⟨_, rfl⟩

end Sources

end Simulcast.Settings
