import Simulcast.Proofs.Settings.Overlay
import Simulcast.Proofs.Toml.Names

/-!
# The names in a file

What a file says uses each name once, at the root and in every table there: TOML refuses a document
that does not, and of several members of a JSON object with one name the last one counts
(`once_fileEntries`).
-/

namespace Simulcast.Settings

/-- A document uses each name once, and so does every table at its root. -/
structure Once (document : List (String × Tree)) : Prop where
  /-- The names at the root. -/
  root : (namesOf document).Nodup
  /-- The names in a table. -/
  table : ∀ k origin entries, (k, .table origin entries) ∈ document → (namesOf entries).Nodup

theorem once_nil : Once [] := ⟨List.nodup_nil, by simp⟩

namespace Tree

variable {k : String} {origin : Origin} {t : Tree} {entries : List (String × Tree)}

/-! ### TOML -/

theorem namesOf_entriesOfToml (origin : Origin) (es : Toml.Entries) :
    namesOf (entriesOfToml origin es) = es.names := by
  induction es with
  | nil => rfl
  | cons e es ih => exact congrArg (e.1 :: ·) ih

theorem mem_entriesOfToml {es : Toml.Entries} (mem : (k, t) ∈ entriesOfToml origin es) :
    ∃ n, (k, n) ∈ es ∧ t = ofToml origin n := by
  induction es with
  | nil => cases mem
  | cons e es ih =>
    obtain ⟨k', n⟩ := e
    obtain here | there := List.mem_cons.1 mem
    · obtain ⟨rfl, rfl⟩ := Prod.mk.inj here
      exact ⟨n, List.mem_cons_self, rfl⟩
    · obtain ⟨n, mem, same⟩ := ih there
      exact ⟨n, List.mem_cons_of_mem _ mem, same⟩

theorem once_entriesOfToml {es : Toml.Entries} (distinct : es.Distinct) :
    Once (entriesOfToml origin es) where
  root := by
    rw [namesOf_entriesOfToml]
    exact distinct.names
  table := by
    intro k from' entries mem
    obtain ⟨n, there, same⟩ := mem_entriesOfToml mem
    cases n with
    | table form es' =>
      obtain ⟨-, rfl⟩ := Tree.table.inj same
      rw [namesOf_entriesOfToml]
      exact (Toml.Entries.distinct_table_iff.1 (distinct.each _ there)).names
    | scalar s => cases same
    | list items => cases same
    | tables elements => cases same

/-! ### JSON -/

theorem mem_namesOf_alterEntry {f : Tree → Tree} {name : String}
    (mem : name ∈ namesOf (alterEntry k f entries)) : name = k ∨ name ∈ namesOf entries := by
  induction entries with
  | nil => exact .inl (List.mem_singleton.1 mem)
  | cons e entries ih =>
    rw [alterEntry] at mem
    split at mem
    · exact .inr mem
    · obtain here | there := List.mem_cons.1 mem
      · exact .inr (here ▸ List.mem_cons_self)
      · exact (ih there).imp_right (List.mem_cons_of_mem _)

theorem nodup_alterEntry (once : (namesOf entries).Nodup) (k : String) (f : Tree → Tree) :
    (namesOf (alterEntry k f entries)).Nodup := by
  induction entries with
  | nil => exact List.nodup_singleton k
  | cons e entries ih =>
    obtain ⟨fresh, rest⟩ := List.nodup_cons.1 once
    rw [alterEntry]
    split
    · exact once
    · rename_i other
      refine List.nodup_cons.2 ⟨fun again => ?_, ih rest⟩
      obtain same | there := mem_namesOf_alterEntry again
      · exact other same
      · exact fresh there

theorem mem_alterEntry {e : String × Tree} (mem : e ∈ alterEntry k (fun _ => t) entries) :
    e = (k, t) ∨ e ∈ entries := by
  induction entries with
  | nil => exact .inl (List.mem_singleton.1 mem)
  | cons e' entries ih =>
    rw [alterEntry] at mem
    split at mem
    · rename_i same
      obtain here | there := List.mem_cons.1 mem
      · exact .inl (same ▸ here)
      · exact .inr (List.mem_cons_of_mem _ there)
    · obtain rfl | there := List.mem_cons.1 mem
      · exact .inr List.mem_cons_self
      · exact (ih there).imp_right (List.mem_cons_of_mem _)

theorem nodup_entriesOfJson (once : (namesOf entries).Nodup) (ms : List (String × Json)) :
    (namesOf (entriesOfJson origin ms entries)).Nodup := by
  induction ms generalizing entries with
  | nil => exact once
  | cons m ms ih => exact ih (nodup_alterEntry once m.1 _)

theorem mem_entriesOfJson {e : String × Tree} {ms : List (String × Json)}
    (mem : e ∈ entriesOfJson origin ms entries) : (∃ j, e.2 = ofJson origin j) ∨ e ∈ entries := by
  induction ms generalizing entries with
  | nil => exact .inr mem
  | cons m ms ih =>
    obtain ⟨j, made⟩ | there := ih mem
    · exact .inl ⟨j, made⟩
    · exact (mem_alterEntry there).imp_left fun made => ⟨m.2, congrArg Prod.snd made⟩

theorem once_entriesOfJson (ms : List (String × Json)) : Once (entriesOfJson origin ms []) where
  root := nodup_entriesOfJson once_nil.root ms
  table := by
    intro k from' entries mem
    obtain ⟨j, made⟩ | there := mem_entriesOfJson mem
    · cases j with
      | object ms' =>
        obtain ⟨-, rfl⟩ := Tree.table.inj made
        exact nodup_entriesOfJson once_nil.root ms'
      | null => cases made
      | boolean b => cases made
      | number n => cases made
      | text s => cases made
      | list js => cases made
    · cases there

end Tree

/-! ### Files -/

theorem once_read? {origin : Origin} {s : String} {format : Format}
    {document : List (String × Tree)} (read : format.read? origin s = some document) :
    Once document := by
  cases format with
  | toml =>
    obtain ⟨es, parsed, rfl⟩ := Option.map_eq_some_iff.1 read
    exact Tree.once_entriesOfToml (Toml.distinct_parse parsed)
  | json =>
    simp only [Format.read?] at read
    split at read
    · obtain rfl := Option.some.inj read
      exact Tree.once_entriesOfJson _
    · cases read

/-- **What a file says uses each name once.** -/
theorem once_fileEntries {s : Sources} {document : List (String × Tree)}
    (read : s.fileEntries = .ok document) : Once document := by
  unfold Sources.fileEntries File.entries at read
  split at read
  · split at read
    · cases read
    · split at read
      · rename_i said
        obtain rfl := Except.ok.inj read
        exact once_read? said
      · cases read
  · obtain rfl := Except.ok.inj read
    exact once_nil

end Simulcast.Settings
