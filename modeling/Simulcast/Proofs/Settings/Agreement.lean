import Simulcast.Proofs.Session.Decision
import Simulcast.Proofs.Settings.Arrangement

/-!
# Settings and the tree that they are taken from

The threshold can be looked up in the settings that were loaded, or in the tree of what the sources
say, by the path of the setting; the sources are merged for each of the two, and their entries may
come in another order. `thresholds_agree` says that both give the same as long as the settings of
switching are written with names and no two entries of a source clash. They can also be written as a
list, in which a setting has its place and no name: then the settings have what stands there, and no
path of names leads to it in the tree. And of entries that clash the last one counts
(`thresholds_differ`).
-/

namespace Simulcast

open Switching (Thresholds)

namespace Settings

/-! ### Looking up the threshold -/

namespace Tree

variable {t : Tree}

/-- Whether a tree has items in order. -/
def isList : Tree → Bool
  | .list _ _ => true
  | _ => false

/-- Whether the settings of switching are written as a list. -/
def listsSwitching (t : Tree) : Bool := (t.child? (.key switchingName)).any isList

/-- The settings of switching are taken from what a table has under their name, if it has. -/
theorem takes_switching_of_toAll (table : t.isTable = true) {a : All} (taken : t.toAll = .ok a) :
    Takes toSwitching {} (t.child? (.key switchingName)) a.switching := by
  obtain ⟨-, -, rest⟩ := ok_of_bind taken
  obtain ⟨switching, field, rest⟩ := ok_of_bind rest
  obtain ⟨logging, -, made⟩ := ok_of_bind rest
  obtain rfl := Except.ok.inj made
  exact (field_eq_ok_iff table).1 field

/-- A value that is taken as a number of 32 bits answers a look-up with it. -/
theorem answerOf_of_toShort {m : Int32} (taken : t.toShort = .ok m) (key : String)
    (default : Int32) : (Thresholds.answerOf key default t).value = m := by
  obtain ⟨n, whole, rest⟩ := ok_of_bind taken
  rw [Thresholds.answerOf, whole]
  split at rest
  · rename_i fits
    simp only [fits, if_true]
    exact Except.ok.inj rest
  · cases rest

end Tree

/-- The look-up by path in a tree answers with what the path of the field leads to. -/
theorem lookup_ofTree (t : Tree) (default : Int32) :
    (Thresholds.ofTree t).lookup "switching.min_next_seen" default =
      ((t.get? (Field.path .minNextSeen)).map
        (Thresholds.answerOf "switching.min_next_seen" default)).getD { value := default } := by
  have path : Path.read? "switching.min_next_seen" = some (Field.path .minNextSeen) := by
    decide +kernel
  simp only [Thresholds.ofTree, path]

/-- No path of names leads to the threshold where the settings of switching are a list. -/
theorem lookup_ofTree_of_lists {t : Tree} (lists : t.listsSwitching = true) (default : Int32) :
    ((Thresholds.ofTree t).lookup "switching.min_next_seen" default).value = default := by
  obtain ⟨v, entry, list⟩ := (Option.any_eq_true _ _).1 lists
  rw [lookup_ofTree, Tree.get?_path, Field.group, entry]
  cases v with
  | scalar origin value => cases list
  | list origin items => rfl
  | table origin entries => cases list

/-- Where they are not, the tree answers with the threshold that is taken from it. -/
theorem lookup_ofTree_of_toAll {t : Tree} (table : t.isTable = true) {a : All}
    (taken : t.toAll = .ok a) (named : t.listsSwitching = false) :
    ((Thresholds.ofTree t).lookup "switching.min_next_seen" 125).value =
      a.switching.minNextSeen := by
  have takes := Tree.takes_switching_of_toAll table taken
  rw [lookup_ofTree, Tree.get?_path, Field.group, Field.name]
  cases entry : t.child? (.key switchingName) with
  | none =>
    rw [entry] at takes
    have unset : a.switching = {} := takes
    rw [unset]
    rfl
  | some v =>
    rw [entry] at takes
    cases v with
    | scalar origin value => cases takes
    | list origin items =>
      rw [Tree.listsSwitching, entry] at named
      cases named
    | table origin entries =>
      have takes := (Tree.toSwitching_eq_ok_iff rfl).1 takes
      rw [Option.bind_some]
      cases value : (Tree.table origin entries).child? (.key minNextSeenName) with
      | none =>
        rw [value] at takes
        exact Eq.symm takes
      | some u =>
        rw [value] at takes
        exact Tree.answerOf_of_toShort takes _ _

/-- The threshold after it was read is what the source of thresholds answers, the first time. -/
theorem minNextSeen_readThreshold (u : Session) :
    u.readThreshold.minNextSeen =
      if u.initialized then u.minNextSeen
      else (u.thresholds.lookup "switching.min_next_seen" 125).value := by
  cases read : u.initialized with
  | true => rw [Session.readThreshold_of_initialized read, if_pos rfl]
  | false =>
    rw [Session.readThreshold_of_not_initialized read]
    rfl

/-- **The settings and the tree agree on the threshold.** Whatever the sources say, if settings can
be loaded from them then there is the tree that the settings were taken from, and one for every
order in which the entries may come when the sources are merged again. The look-up of the threshold
by its key and with the default 125 has the same answer in the settings and in that tree, so that an
engine comes to the same threshold with either, as long as the settings of switching are not taken
from a list and no two entries of a source clash. If they are a list in the tree, it answers with
the default. -/
theorem thresholds_agree (s : Sources) (b b' : Build) (a : All) (loaded : s.load b = .ok a) :
    ∃ t t', s.tree b = .ok t ∧ s.tree b' = .ok t' ∧
      let typed := ((Thresholds.ofSettings a).lookup "switching.min_next_seen" 125).value
      let raw := ((Thresholds.ofTree t').lookup "switching.min_next_seen" 125).value
      (t.listsSwitching = false → s.Consistent →
        typed = raw ∧ ∀ u : Session,
          { u with thresholds := .ofSettings a }.readThreshold.minNextSeen =
            { u with thresholds := .ofTree t' }.readThreshold.minNextSeen) ∧
        (t'.listsSwitching = true → raw = 125) := by
  obtain ⟨t, merged, taken⟩ := Sources.toAll_of_load loaded
  obtain ⟨t', merged'⟩ := Sources.exists_tree merged b'
  refine ⟨t, t', merged, merged', fun named consistent => ?_,
    fun lists => lookup_ofTree_of_lists lists 125⟩
  have known : ((Thresholds.ofSettings a).lookup "switching.min_next_seen" 125).value =
      a.switching.minNextSeen := by
    have key : "switching.min_next_seen" = Switching.minNextSeenKey := by decide
    simp only [Thresholds.ofSettings, key, if_true]
  have same := lookup_ofTree_of_toAll (Sources.isTable_tree merged) taken named
  rw [lookup_ofTree, Sources.get?_tree_congr consistent merged merged', ← lookup_ofTree] at same
  have agree := known.trans same.symm
  refine ⟨agree, fun u => ?_⟩
  rw [minNextSeen_readThreshold, minNextSeen_readThreshold, agree]

/-- The entries of both sources from the last one to the first. -/
def backwards : Build where
  file := ⟨List.reverse, List.reverse_perm⟩
  environment := ⟨List.reverse, List.reverse_perm⟩

/-- A file with a number too great for 32 bits, which a variable hides. -/
def hiddenSample : Sources where
  file := some ⟨"simulcast.toml", "[switching]\nmin_next_seen = 5000000000\n"⟩
  environment := [("SYNCTV__LOGGING__FORMAT", "json"), ("SYNCTV__SWITCHING__MIN_NEXT_SEEN", "7.4")]

/-- What is loaded from it. -/
def hiddenSettings : All where
  switching := ⟨7⟩
  logging := { format := "json" }

/-- The number of the variable is the threshold, rounded, in the settings and in the tree, though
the entries come the other way round for the tree. -/
theorem threshold_behind_variable :
    hiddenSample.load = .ok hiddenSettings ∧ hiddenSample.Consistent ∧
      hiddenSample.tree.toOption.map Tree.listsSwitching = some false ∧
      ∃ t, hiddenSample.tree backwards = .ok t ∧
        ((Thresholds.ofTree t).lookup "switching.min_next_seen" 125).value = 7 := by
  have loaded : hiddenSample.load = .ok hiddenSettings := ok_of_toOption (by decide +kernel)
  have named : hiddenSample.tree.toOption.map Tree.listsSwitching = some false := by
    decide +kernel
  have settled : hiddenSample.fileEntries.toOption.map (fun d => decide (Settled d)) =
      some true := by decide +kernel
  have consistent : hiddenSample.Consistent := by
    refine ⟨fun document read => ?_, by decide +kernel⟩
    rw [read] at settled
    exact of_decide_eq_true (Option.some.inj settled)
  obtain ⟨t, t', merged, merged', agree, -⟩ :=
    thresholds_agree hiddenSample {} backwards _ loaded
  have lists := named
  rw [merged] at lists
  obtain ⟨same, -⟩ := agree (Option.some.inj lists) consistent
  refine ⟨loaded, consistent, named, t', merged', ?_⟩
  rw [← same]
  decide

/-- A variable gives the settings of switching their first item. -/
def positionalSample : Sources where
  environment := [("SYNCTV__SWITCHING[0]", "7")]

/-- A file has the settings of switching as a list. -/
def positionalFileSample : Sources where
  file := some ⟨"simulcast.json", "\x7b\"switching\":[7]\x7d"⟩

/-- Where the settings of switching are a list, its first item is the threshold of the settings, and
no path of names leads to it in the tree. -/
theorem lookups_differ {s : Sources} (loaded : s.load.toOption = some { switching := ⟨7⟩ })
    (lists : s.tree.toOption.map Tree.listsSwitching = some true) :
    ∃ a t, s.load = .ok a ∧ s.tree = .ok t ∧
      ((Thresholds.ofSettings a).lookup "switching.min_next_seen" 125).value = 7 ∧
      ((Thresholds.ofTree t).lookup "switching.min_next_seen" 125).value = 125 := by
  have loaded := ok_of_toOption loaded
  obtain ⟨t, merged, -⟩ := Sources.toAll_of_load loaded
  rw [merged] at lists
  exact ⟨_, t, loaded, merged, by decide, lookup_ofTree_of_lists (Option.some.inj lists) 125⟩

/-- One variable sets the threshold, and another one puts a number in the place of the settings of
switching. -/
def clashSample : Sources where
  environment := [("SYNCTV__SWITCHING", "5"), ("SYNCTV__SWITCHING__MIN_NEXT_SEEN", "7")]

/-- **The settings may have seven where the tree answers with the default**: if the threshold has no
name, no path leads to it; and of variables that clash the other one may come last for the tree. -/
theorem thresholds_differ :
    (∃ a t, positionalSample.load = .ok a ∧ positionalSample.tree = .ok t ∧
      ((Thresholds.ofSettings a).lookup "switching.min_next_seen" 125).value = 7 ∧
      ((Thresholds.ofTree t).lookup "switching.min_next_seen" 125).value = 125) ∧
    (∃ a t, positionalFileSample.load = .ok a ∧ positionalFileSample.tree = .ok t ∧
      ((Thresholds.ofSettings a).lookup "switching.min_next_seen" 125).value = 7 ∧
      ((Thresholds.ofTree t).lookup "switching.min_next_seen" 125).value = 125) ∧
    ∃ a t, clashSample.load = .ok a ∧ clashSample.tree backwards = .ok t ∧
      ((Thresholds.ofSettings a).lookup "switching.min_next_seen" 125).value = 7 ∧
      ((Thresholds.ofTree t).lookup "switching.min_next_seen" 125).value = 125 := by
  refine ⟨lookups_differ (by decide +kernel) (by decide +kernel),
    lookups_differ (by decide +kernel) (by decide +kernel), ?_⟩
  have loaded : clashSample.load = .ok { switching := ⟨7⟩ } := ok_of_toOption (by decide +kernel)
  have answer : (clashSample.tree backwards).toOption.map (fun t =>
      ((Thresholds.ofTree t).lookup "switching.min_next_seen" 125).value) = some 125 := by
    decide +kernel
  obtain ⟨t, merged, answer⟩ := Option.map_eq_some_iff.1 answer
  exact ⟨_, t, loaded, ok_of_toOption merged, by decide, answer⟩

end Settings

end Simulcast
