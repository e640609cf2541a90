import Mathlib.Data.List.TakeDrop
import Simulcast.Journal.Setup

/-!
# The directive that decides

Of the directives that apply to an entry the most specific one decides. `decisive?_add` says that no
directive is more specific than one for the whole target of the entry, as long as no other one asks
for a value of the entry, so that such a directive decides wherever it is added. Only brackets make
a directive ask for a value (`plain_of_read?`); a filter of directives without them is `Plain`.
-/

namespace Simulcast.Journal

/-! ### Directives without brackets -/

namespace Directive

theorem mem_of_mem_trim {c : Char} {cs : List Char} (h : c ∈ Text.Blank.trim cs) : c ∈ cs := by
  have inner := (List.dropWhile_suffix _).subset (List.mem_reverse.1 h)
  exact (List.dropWhile_suffix _).subset (List.mem_reverse.1 inner)

theorem mem_intersperse_of_mem {α : Type} {sep a : α} {as : List α} (h : a ∈ as) :
    a ∈ as.intersperse sep := by
  induction as with
  | nil => cases h
  | cons b as ih =>
    cases as with
    | nil => exact h
    | cons c as =>
      rw [List.intersperse_cons_cons]
      rcases List.mem_cons.1 h with rfl | further
      · exact List.mem_cons_self
      · exact List.mem_cons_of_mem _ (List.mem_cons_of_mem _ (ih further))

/-- A piece between commas has no characters but those of the text. -/
theorem mem_of_mem_pieces {c : Char} {cs piece : List Char} (h : piece ∈ pieces cs)
    (here : c ∈ piece) : c ∈ cs := by
  have whole : [','].intercalate (pieces cs) = cs := List.intercalate_splitOn ','
  rw [← whole]
  exact (List.sublist_flatten_of_mem (mem_intersperse_of_mem h)).subset here

theorem field_ofWord (cs : List Char) : (ofWord cs).field = none := by
  unfold ofWord
  split
  · rfl
  · rfl

/-- **A text without a bracket writes directives that ask for no value.** -/
theorem field_of_read? {cs : List Char} {ds : List Directive} {d : Directive} (plain : '[' ∉ cs)
    (read : read? cs = some ds) (here : d ∈ ds) : d.field = none := by
  unfold read? at read
  simp only [List.span_eq_takeWhile_dropWhile] at read
  split at read
  · cases read
  · split at read
    · cases read
    · split at read
      · obtain rfl := Option.some_inj.1 read
        rw [List.mem_singleton.1 here]
        exact field_ofWord cs
      · -- what follows the target does not begin with a bracket, since the text has none
        rename_i rest bracket
        have there := List.mem_cons_self (a := '[') (l := rest)
        rw [← bracket] at there
        exact absurd (mem_of_mem_trim ((List.dropWhile_suffix _).subset there)) plain
      · obtain ⟨l, -, read⟩ := Option.bind_eq_some_iff.1 read
        split at read
        · cases read
        · obtain rfl := Option.some_inj.1 read
          rw [List.mem_singleton.1 here]

end Directive

namespace Filter

variable {f : Filter} {d e : Directive}

/-- No directive asks for a value. -/
def Plain (f : Filter) : Prop := ∀ d ∈ f.directives, d.field = none

theorem mem_add (h : e ∈ (f.add d).directives) : e = d ∨ e ∈ f.directives := by
  rcases List.mem_cons.1 h with rfl | kept
  · exact .inl rfl
  · exact .inr (List.mem_filter.1 kept).1

theorem Plain.add (plain : f.Plain) (none : d.field = none) : (f.add d).Plain := by
  intro e here
  rcases mem_add here with rfl | kept
  · exact none
  · exact plain e kept

theorem plain_ofDirectives {ds : List Directive} (none : ∀ d ∈ ds, d.field = none) :
    (ofDirectives ds).Plain := by
  have start : silent.Plain := fun d here => by cases here
  unfold ofDirectives
  generalize silent = f at start ⊢
  induction ds generalizing f with
  | nil => exact start
  | cons d ds ih =>
    exact ih (fun e here => none e (List.mem_cons_of_mem d here)) (f.add d)
      (start.add (none d List.mem_cons_self))

theorem exists_of_mapM {α β : Type} {f : α → Option β} {as : List α} {bs : List β} {b : β}
    (h : as.mapM f = some bs) (here : b ∈ bs) : ∃ a ∈ as, f a = some b := by
  induction as generalizing bs with
  | nil =>
    obtain rfl : [] = bs := Option.some_inj.1 h
    cases here
  | cons a as ih =>
    rw [List.mapM_cons] at h
    obtain ⟨c, first, h⟩ := Option.bind_eq_some_iff.1 h
    obtain ⟨cs, rest, h⟩ := Option.bind_eq_some_iff.1 h
    obtain rfl := Option.some_inj.1 h
    rcases List.mem_cons.1 here with rfl | further
    · exact ⟨a, List.mem_cons_self, first⟩
    · obtain ⟨a', there, found⟩ := ih rest further
      exact ⟨a', List.mem_cons_of_mem a there, found⟩

/-- **A filter that is written without brackets is plain.** -/
theorem plain_of_read? {text : String} (noBracket : '[' ∉ text.toList)
    (read : read? text = some f) : f.Plain := by
  obtain ⟨dss, each, rfl⟩ := Option.map_eq_some_iff.1 read
  refine plain_ofDirectives fun d here => ?_
  obtain ⟨ds, there, here⟩ := List.mem_flatten.1 here
  obtain ⟨piece, among, reads⟩ := exists_of_mapM each there
  refine Directive.field_of_read? (fun bracket => noBracket ?_) reads here
  exact Directive.mem_of_mem_pieces (List.mem_filter.1 among).1 bracket

/-- So is the filter of a level, and in either case that of the settings. -/
theorem plain_filterFor (level : Level) {directives : Option String}
    (h : ∀ text ∈ directives, read? text = none ∨ '[' ∉ text.toList) :
    (filterFor level directives).Plain := by
  have ofLevel : (ofDirectives [{ target := none, limit := .atLeast level }]).Plain :=
    plain_ofDirectives fun d here => by rw [List.mem_singleton.1 here]
  unfold filterFor
  cases directives with
  | none => exact ofLevel
  | some text =>
    rw [Option.bind_some]
    cases read : read? text with
    | none => exact ofLevel
    | some f =>
      rcases h text rfl with unread | noBracket
      · rw [unread] at read
        cases read
      · exact plain_of_read? noBracket read

/-! ### The most specific directive -/

/-- A directive that applies to an entry has a target no longer than that of the entry. -/
theorem reach_le {path : String} {names : List String} (applies : d.appliesTo path names = true) :
    d.reach ≤ path.utf8ByteSize + 1 := by
  obtain ⟨target, field, limit⟩ := d
  cases target with
  | none => exact Nat.zero_le _
  | some t =>
    have begins : t.toList.isPrefixOf path.toList = true := (Bool.and_eq_true_iff.1 applies).1
    obtain ⟨rest, whole⟩ := List.isPrefixOf_iff_prefix.1 begins
    have path_eq : path = t ++ String.ofList rest := by
      rw [← String.ofList_toList (s := path), ← whole, String.ofList_append, String.ofList_toList]
    rw [path_eq, String.utf8ByteSize_append]
    exact Nat.succ_le_succ (Nat.le_add_right _ _)

theorem foldl_moreSpecific {es : List Directive} (least : ∀ e ∈ es, e.outranks d = false) :
    es.foldl moreSpecific (some d) = some d := by
  induction es with
  | nil => rfl
  | cons e es ih =>
    have kept : moreSpecific (some d) e = some d := by
      rw [moreSpecific, least e List.mem_cons_self]
      rfl
    rw [List.foldl_cons, kept]
    exact ih fun e' here => least e' (List.mem_cons_of_mem e here)

/-- **A directive for the whole target of an entry decides** when it is added to a plain filter. -/
theorem decisive?_add (plain : f.Plain) {path : String} (target : d.target = some path)
    (field : d.field = none) (names : List String) : (f.add d).decisive? path names = some d := by
  have applies : d.appliesTo path names = true := by
    rw [Directive.appliesTo, target, field]
    simp
  have reach : d.reach = path.utf8ByteSize + 1 := by rw [Directive.reach, target]
  rw [decisive?, add, List.filter_cons, if_pos applies, List.foldl_cons]
  refine foldl_moreSpecific fun e here => ?_
  obtain ⟨kept, fits⟩ := List.mem_filter.1 here
  have unasked : e.field = none := plain e (List.mem_filter.1 kept).1
  have short := reach_le fits
  rw [Directive.outranks, unasked, field, reach]
  simpa using short

/-- Then its limit says what is written. -/
theorem admits_add (plain : f.Plain) {path : String} (target : d.target = some path)
    (field : d.field = none) (names : List String) (level : Level) :
    (f.add d).admits path names level = d.limit.admits level := by
  rw [admits, decisive?_add plain target field]
  rfl

end Filter

end Simulcast.Journal
