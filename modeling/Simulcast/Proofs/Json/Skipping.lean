import Simulcast.Proofs.Json.Layout
import Simulcast.Json.Skip

/-!
# Passing over values

Every well-formed value is passed over to its end, whatever its nesting and its layout
(`skip_value`). As many calls as the value has characters are enough (`passes_of_value`).
-/

namespace Simulcast.Json

/-- What a step gave is what the next one gets. -/
@[simp] theorem ok_bind {ε α β : Type} (a : α) (f : α → Except ε β) :
    (Except.ok a >>= f) = f a := rfl

@[simp] theorem pure_eq_ok {ε α : Type} (a : α) : (pure a : Except ε α) = .ok a := rfl

/-! ### Words, texts and numbers -/

theorem word_append (ws rest : List Char) : word ws (ws ++ rest) = .ok rest := by
  induction ws with
  | nil => rfl
  | cons w ws ih => simpa [word] using ih

/-- A number is over in front of what is no digit. -/
theorem span_digits {ds rest : List Char} (digits : ∀ d ∈ ds, d.isDigit = true)
    (after : ∀ c ∈ rest.head?, c.isDigit = false) :
    Text.Numeral.span (ds ++ rest) = (ds, rest) := by
  have taken : (ds ++ rest).takeWhile Char.isDigit = ds ++ rest.takeWhile Char.isDigit :=
    List.takeWhile_append_of_pos digits
  have dropped : (ds ++ rest).dropWhile Char.isDigit = rest.dropWhile Char.isDigit :=
    List.dropWhile_append_of_pos digits
  rw [Text.Numeral.span, taken, dropped]
  cases rest with
  | nil => simp
  | cons c rest => simp [after c rfl]

theorem Ends.noDigit {rest : List Char} (ends : Ends rest) :
    ∀ c ∈ rest.head?, c.isDigit = false := by
  intro c mem
  have := ends c mem
  simp only [stops, Bool.not_eq_true', Bool.or_eq_false_iff] at this
  exact this.1.1.1

theorem Ends.head_ne {rest : List Char} (ends : Ends rest) {c : Char} (mem : c ∈ rest.head?) :
    c ≠ '.' ∧ c ≠ 'e' ∧ c ≠ 'E' := by
  have := ends c mem
  simp only [stops, Bool.not_eq_true', Bool.or_eq_false_iff, decide_eq_false_iff_not] at this
  exact ⟨this.1.1.2, this.1.2, this.2⟩

namespace Skip

theorem textBody_append {cs : List Char} (body : TextBody cs) (rest : List Char) :
    textBody (cs ++ '"' :: rest) = .ok rest := by
  induction body with
  | nil =>
    rw [List.nil_append, textBody.eq_def]
    exact if_pos rfl
  | plain noQuote noEscape noControl body ih =>
    rw [List.cons_append, textBody.eq_def]
    simpa [noQuote, noEscape, Nat.not_lt.mpr noControl] using ih
  | @letter e cs known body ih =>
    have stands : (Reader.unescape? e).isSome = true := by
      simp only [List.mem_cons, List.not_mem_nil, or_false] at known
      obtain rfl | rfl | rfl | rfl | rfl | rfl | rfl | rfl := known <;> rfl
    rw [List.cons_append, textBody.eq_def]
    simpa [stands] using ih
  | @quad h₁ h₂ h₃ h₄ cs digits body ih =>
    have value : (Reader.quad? h₁ h₂ h₃ h₄).isSome = true := by
      simp only [List.mem_cons, List.not_mem_nil, or_false, forall_eq_or_imp, forall_eq,
        Option.isSome_iff_exists] at digits
      obtain ⟨⟨a, ha⟩, ⟨b, hb⟩, ⟨c, hc⟩, ⟨d, hd⟩⟩ := digits
      simp [Reader.quad?, ha, hb, hc, hd]
    have noLetter : Reader.unescape? 'u' = none := rfl
    rw [List.cons_append, textBody.eq_def]
    simpa [noLetter, value] using ih

theorem digits_append {ds rest : List Char} (h : Digits ds)
    (after : ∀ c ∈ rest.head?, c.isDigit = false) : digits (ds ++ rest) = .ok rest := by
  obtain ⟨d, ds', rfl⟩ := List.exists_cons_of_ne_nil h.ne_nil
  rw [digits, span_digits h.isDigit after]

theorem power_append {p rest : List Char} (h : PowerPart p) (ends : Ends rest) :
    power (p ++ rest) = .ok rest := by
  cases h with
  | none =>
    cases rest with
    | nil => rfl
    | cons c rest =>
      obtain ⟨-, noMark, noMark'⟩ := ends.head_ne (c := c) rfl
      simp [power, noMark, noMark']
  | @some e sign ds mark sign_mem h =>
    have passed := digits_append h ends.noDigit
    simp only [List.mem_cons, List.not_mem_nil, or_false] at sign_mem
    obtain rfl | rfl | rfl := sign_mem
    · obtain ⟨d, ds', rfl⟩ := List.exists_cons_of_ne_nil h.ne_nil
      have isDigit := h.isDigit d List.mem_cons_self
      have noPlus : d ≠ '+' := by rintro rfl; cases isDigit
      have noMinus : d ≠ '-' := by rintro rfl; cases isDigit
      simpa [power, mark, noPlus, noMinus] using passed
    · simpa [power, mark] using passed
    · simpa [power, mark] using passed

/-- Neither a fraction nor a power of ten begins with a digit. -/
theorem noDigit_tail {f p rest : List Char} (hf : FractionPart f) (hp : PowerPart p)
    (ends : Ends rest) : ∀ c ∈ (f ++ (p ++ rest)).head?, c.isDigit = false := by
  cases hf with
  | some digits => rintro c ⟨⟩; rfl
  | none =>
    cases hp with
    | none => exact ends.noDigit
    | some mark sign_mem digits =>
      rintro c ⟨⟩
      obtain rfl | rfl := mark <;> rfl

theorem fraction_append {f p rest : List Char} (hf : FractionPart f) (hp : PowerPart p)
    (ends : Ends rest) : fraction (f ++ (p ++ rest)) = .ok rest := by
  cases hf with
  | some digits =>
    have passed := digits_append digits (noDigit_tail .none hp ends)
    simp only [List.nil_append] at passed
    simp [fraction, passed, power_append hp ends]
  | none =>
    have noPoint : ∀ cs, p ++ rest ≠ '.' :: cs := by
      intro cs eq
      cases hp with
      | none => exact (ends.head_ne (c := '.') (by rw [List.nil_append] at eq; rw [eq]; rfl)).1 rfl
      | some mark sign_mem digits =>
        obtain rfl | rfl := mark <;> cases eq
    rw [List.nil_append, fraction]
    · exact power_append hp ends
    · exact noPoint

theorem magnitude_append {w f p rest : List Char} (hw : WholePart w) (hf : FractionPart f)
    (hp : PowerPart p) (ends : Ends rest) : magnitude (w ++ (f ++ (p ++ rest))) = .ok rest := by
  have noDigit := noDigit_tail hf hp ends
  have passed := fraction_append hf hp ends
  cases hw with
  | zero =>
    generalize f ++ (p ++ rest) = tail at noDigit passed
    cases tail with
    | nil => cases passed; rfl
    | cons c tail => simpa [magnitude, noDigit c rfl] using passed
  | @digits d ds isDigit ne_zero others =>
    have dropped : (ds ++ (f ++ (p ++ rest))).dropWhile Char.isDigit = f ++ (p ++ rest) :=
      congrArg Prod.snd (span_digits others noDigit)
    simpa [magnitude, ne_zero, isDigit, dropped] using passed

/-- A text is passed over as a value without parts. -/
def PassesScalar (t : List Char) : Prop :=
  ∀ rest, Ends rest → ∃ c cs, t = c :: cs ∧ c ≠ '[' ∧ c ≠ '{' ∧ scalar c (cs ++ rest) = .ok rest

theorem passesScalar_word {t : List Char}
    (known : t ∈ ["null".toList, "true".toList, "false".toList]) : PassesScalar t := by
  intro rest _
  simp only [List.mem_cons, List.not_mem_nil, or_false] at known
  obtain rfl | rfl | rfl := known
  · exact ⟨'n', ['u', 'l', 'l'], rfl, by decide, by decide, word_append ['u', 'l', 'l'] rest⟩
  · exact ⟨'t', ['r', 'u', 'e'], rfl, by decide, by decide, word_append ['r', 'u', 'e'] rest⟩
  · exact ⟨'f', ['a', 'l', 's', 'e'], rfl, by decide, by decide,
      word_append ['a', 'l', 's', 'e'] rest⟩

theorem passesScalar_number {t : List Char} (h : IsNumber t) : PassesScalar t := by
  intro rest ends
  obtain @⟨sign, w, f, p, sign_mem, hw, hf, hp⟩ := h
  have passed := magnitude_append hw hf hp ends
  simp only [List.mem_cons, List.not_mem_nil, or_false] at sign_mem
  obtain rfl | rfl := sign_mem
  · obtain ⟨c, ds, rfl, isDigit⟩ := hw.head_isDigit
    have noLetter : c ≠ '[' ∧ c ≠ '{' ∧ c ≠ 'n' ∧ c ≠ 't' ∧ c ≠ 'f' ∧ c ≠ '-' := by
      refine ⟨?_, ?_, ?_, ?_, ?_, ?_⟩ <;> rintro rfl <;> cases isDigit
    refine ⟨c, ds ++ (f ++ p), by simp, noLetter.1, noLetter.2.1, ?_⟩
    simpa [scalar, noLetter, isDigit] using passed
  · exact ⟨'-', w ++ (f ++ p), by simp, by decide, by decide, by simpa [scalar] using passed⟩

theorem passesScalar_text {t : List Char} (h : IsText t) : PassesScalar t := by
  obtain @⟨cs, body⟩ := h
  intro rest _
  exact ⟨'"', cs ++ ['"'], rfl, by decide, by decide,
    by simpa [scalar] using textBody_append body rest⟩

/-! ### Lists, objects and values -/

theorem colon_append {b cs : List Char} (blanks : Blanks b) : colon (b ++ ':' :: cs) = .ok cs := by
  simp [colon, skipBlanks_to ':' blanks]

/-- A text is passed over as a value, with blanks in front and whatever follows. -/
def Passes (fuel : Nat) (t : List Char) : Prop :=
  ∀ b rest, Blanks b → Ends rest → value fuel (b ++ (t ++ rest)) = .ok rest

/-- The items of a list are passed over, if each of them is. -/
theorem items_append {n : Nat} {ps : List (List Char)} {cs : List Char} (pieces : Sequel ']' ps cs)
    (short : cs.length ≤ n) (passes : ∀ p ∈ ps, ∀ m, p.length ≤ m → Passes m p)
    (rest : List Char) : items n (cs ++ rest) = .ok rest := by
  induction pieces generalizing n with
  | @last b p b' before after =>
    obtain ⟨n, rfl⟩ : ∃ m, n = m + 1 := Nat.exists_eq_add_of_le' (by simp at short; omega)
    have ends : Ends (b' ++ ']' :: rest) := (ends_cons rfl).append after
    have passed := passes p List.mem_cons_self n (by simp at short; omega) b _ before ends
    simp [items, passed, skipBlanks_to ']' after]
  | @more b p b' ps cs before after others ih =>
    obtain ⟨n, rfl⟩ : ∃ m, n = m + 1 := Nat.exists_eq_add_of_le' (by simp at short; omega)
    have ends : Ends (b' ++ ',' :: (cs ++ rest)) := (ends_cons rfl).append after
    have passed := passes p List.mem_cons_self n (by simp at short; omega) b _ before ends
    have passed' := ih (n := n) (by simp at short; omega)
      fun q mem => passes q (List.mem_cons_of_mem p mem)
    simpa [items, passed, skipBlanks_to ',' after] using passed'

/-- A text is passed over as a member of an object: the quote and the rest of the name, the colon
and the value. -/
def PassesMember (fuel : Nat) (p : List Char) : Prop :=
  ∀ rest, Ends rest → ∃ q cs ds, p = '"' :: q ∧
    textBody (q ++ rest) = .ok cs ∧ colon cs = .ok ds ∧ value fuel ds = .ok rest

theorem passesMember {n : Nat} {name t p : List Char} (isText : IsText name)
    (member : Member name t p) (passes : Passes n t) : PassesMember n p := by
  obtain @⟨b, b', before, after⟩ := member
  obtain @⟨s, body⟩ := isText
  intro rest ends
  refine ⟨_, b ++ ':' :: (b' ++ (t ++ rest)), b' ++ (t ++ rest), rfl, ?_, colon_append before,
    passes b' rest after ends⟩
  simpa using textBody_append body (b ++ ':' :: (b' ++ (t ++ rest)))

/-- The members of an object are passed over, if each of them is. -/
theorem members_append {n : Nat} {ps : List (List Char)} {cs : List Char}
    (pieces : Sequel '}' ps cs) (short : cs.length ≤ n)
    (passes : ∀ p ∈ ps, ∀ m, p.length ≤ m → PassesMember m p) (rest : List Char) :
    members n (cs ++ rest) = .ok rest := by
  induction pieces generalizing n with
  | @last b p b' before after =>
    obtain ⟨n, rfl⟩ : ∃ m, n = m + 1 := Nat.exists_eq_add_of_le' (by simp at short; omega)
    have ends : Ends (b' ++ '}' :: rest) := (ends_cons rfl).append after
    obtain ⟨q, c₁, c₂, rfl, named, parted, passed⟩ :=
      passes p List.mem_cons_self n (by simp at short; omega) _ ends
    simp [members, skipBlanks_to '"' before, named, parted, passed, skipBlanks_to '}' after]
  | @more b p b' ps cs before after others ih =>
    obtain ⟨n, rfl⟩ : ∃ m, n = m + 1 := Nat.exists_eq_add_of_le' (by simp at short; omega)
    have ends : Ends (b' ++ ',' :: (cs ++ rest)) := (ends_cons rfl).append after
    obtain ⟨q, c₁, c₂, rfl, named, parted, passed⟩ :=
      passes p List.mem_cons_self n (by simp at short; omega) _ ends
    have passed' := ih (n := n) (by simp at short; omega)
      fun r mem => passes r (List.mem_cons_of_mem _ mem)
    simpa [members, skipBlanks_to '"' before, named, parted, passed,
      skipBlanks_to ',' after] using passed'

/-- A list is passed over, if each of its items is. -/
theorem passes_list {n : Nat} {items : List (List Char)} {cs : List Char}
    (layout : Bracketed '[' ']' items cs) (short : cs.length ≤ n) (begins : ∀ p ∈ items, Opens p)
    (passes : ∀ p ∈ items, ∀ m, p.length ≤ m → Passes m p) : Passes n cs := by
  intro b rest blanks _
  obtain ⟨n, rfl⟩ := (layout.opens rfl).exists_eq_add_one short
  cases layout with
  | empty inner =>
    simp [value, skipBlanks_to '[' blanks, skipBlanks_to ']' inner]
  | @filled ps cs pieces =>
    obtain ⟨ds, trimmed, ⟨d, tail, rfl, first⟩, shorter, skipped⟩ := pieces.trim begins
    have passed := items_append trimmed (n := n) (by simp at short; omega) passes rest
    have noEnd : d ≠ ']' := ne_of_opens first rfl
    simpa [value, skipBlanks_to '[' blanks, skipped, noEnd] using passed

/-- An object is passed over, if each of its members is. -/
theorem passes_object {n : Nat} {pieces : List (List Char)} {cs : List Char}
    (layout : Bracketed '{' '}' pieces cs) (short : cs.length ≤ n) (begins : ∀ p ∈ pieces, Opens p)
    (passes : ∀ p ∈ pieces, ∀ m, p.length ≤ m → PassesMember m p) : Passes n cs := by
  intro b rest blanks _
  obtain ⟨n, rfl⟩ := (layout.opens rfl).exists_eq_add_one short
  cases layout with
  | empty inner =>
    simp [value, skipBlanks_to '{' blanks, skipBlanks_to '}' inner]
  | @filled ps cs pieces =>
    obtain ⟨ds, trimmed, ⟨d, tail, rfl, first⟩, shorter, skipped⟩ := pieces.trim begins
    have passed := members_append trimmed (n := n) (by simp at short; omega) passes rest
    have noEnd : d ≠ '}' := ne_of_opens first rfl
    simpa [value, skipBlanks_to '{' blanks, skipped, noEnd] using passed

theorem passes_scalar {n : Nat} {t : List Char} (short : t.length ≤ n) (first : Opens t)
    (passes : PassesScalar t) : Passes n t := by
  intro b rest blanks ends
  obtain ⟨n, rfl⟩ := first.exists_eq_add_one short
  obtain ⟨c, cs, rfl, noList, noObject, passed⟩ := passes rest ends
  have skipped : skipBlanks (b ++ c :: (cs ++ rest)) = c :: (cs ++ rest) :=
    first.skipBlanks_append blanks rest
  simp [value, skipped, noList, noObject, passed]

/-- A value is passed over by any number of calls that is not below its length. -/
theorem passes_of_value {t : List Char} (h : Value t) : ∀ n, t.length ≤ n → Passes n t := by
  -- The bound is part of the induction: the items of a list share the calls that are left.
  induction h with
  | word known =>
    exact fun n short => passes_scalar short (Value.word known).opens (passesScalar_word known)
  | number isNumber =>
    exact fun n short => passes_scalar short isNumber.opens (passesScalar_number isNumber)
  | text isText =>
    exact fun n short => passes_scalar short isText.opens (passesScalar_text isText)
  | list values layout ih =>
    exact fun n short => passes_list layout short (fun p mem => (values p mem).opens) ih
  | @object members pieces cs names values written layout ih =>
    intro n short
    refine passes_object layout short (fun p mem => ?_) fun p mem k long => ?_
    · obtain ⟨m, mem, member⟩ := exists_of_mem_right written mem
      exact member.opens (names m mem).opens
    · obtain ⟨m, mem, member⟩ := exists_of_mem_right written mem
      exact passesMember (names m mem) member (ih m mem k (Nat.le_trans member.length_le long))

/-- A value is passed over, whatever its nesting and its layout. -/
theorem skip_value {t b rest : List Char} (h : Value t) (blanks : Blanks b) (ends : Ends rest) :
    skip (b ++ (t ++ rest)) = .ok rest :=
  passes_of_value h _ (by simp; omega) b rest blanks ends

end Skip

end Simulcast.Json
