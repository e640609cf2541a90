import Simulcast.Proofs.Json.Skipping
import Simulcast.Json.Reader

/-!
# Reading what is written

A reader reads a text as a document if it gives the document wherever the text stands: with blanks
in front, and with anything behind that ends a number (`Reads`). Numbers, texts, truth values and
the absent value are read as they are written, and a list from its items in any layout.
-/

namespace Simulcast.Json

/-- A reader gives a document for a text that begins a value, with blanks in front and whatever
follows. -/
structure Reads (r : Reader Json) (t : List Char) (j : Json) : Prop where
  /-- The text begins a value. -/
  opens : Opens t
  /-- The document is read and what follows is left. -/
  read : ∀ b rest, Blanks b → Ends rest → r (b ++ (t ++ rest)) = .ok (j, rest)

namespace Reader

/-! ### Texts -/

/-- A letter stands for the character that it escapes. -/
theorem unescape?_escapeLetter {c l : Char} (h : escapeLetter? c = some l) :
    unescape? l = some c := by
  have ofNat {n : Nat} (code : c.toNat = n) : Char.ofNat n = c := by rw [← code, Char.ofNat_toNat]
  unfold escapeLetter? at h
  split_ifs at h with quote backslash newline return_ tab backspace feed <;> cases h
  · rw [quote]; rfl
  · rw [backslash]; rfl
  · rw [newline]; rfl
  · rw [return_]; rfl
  · rw [tab]; rfl
  · rw [← ofNat backspace]; rfl
  · rw [← ofNat feed]; rfl

/-- The number of a control is read back from its two digits. -/
theorem quad?_hexDigit :
    ∀ n < 0x20, quad? '0' '0' (hexDigit (n / 16)) (hexDigit (n % 16)) = some n := by
  decide

/-- An escaped character is taken up as the character. -/
theorem textBody_escape (acc : List Char) (c : Char) (cs : List Char) :
    textBody acc (escape c ++ cs) = textBody (c :: acc) cs := by
  unfold escape
  cases letter : escapeLetter? c with
  | some l =>
    have stands := unescape?_escapeLetter letter
    rw [List.cons_append, textBody.eq_def]
    simp [stands]
  | none =>
    by_cases control : c.toNat < 0x20
    · have number := quad?_hexDigit c.toNat control
      have noHalf : isLowHalf c.toNat = false ∧ isHighHalf c.toNat = false := by
        simp [isLowHalf, isHighHalf]; omega
      have noLetter : unescape? 'u' = none := rfl
      simp only [control, if_true, List.cons_append, List.nil_append]
      rw [textBody.eq_def]
      simp [noLetter, number, noHalf, Char.ofNat_toNat]
    · have noQuote : c ≠ '"' := by rintro rfl; cases letter
      have noEscape : c ≠ '\\' := by rintro rfl; cases letter
      simp only [control, if_false, List.cons_append, List.nil_append]
      rw [textBody.eq_def]
      simp [noQuote, noEscape, control]

/-- A text is read back up to its closing quote. -/
theorem textBody_escaped (s acc rest : List Char) :
    textBody acc (s.flatMap escape ++ '"' :: rest) = .ok (acc.reverse ++ s, rest) := by
  induction s generalizing acc with
  | nil =>
    rw [List.flatMap_nil, List.nil_append, textBody.eq_def]
    simp
  | cons c s ih => simp [List.append_assoc, textBody_escape, ih]

theorem text_reads (s : String) : Reads text (writeText s.toList) (.text s) where
  opens := writeText_opens _
  read b rest blanks _ := by
    have skipped := (writeText_opens s.toList).skipBlanks_append blanks rest
    have body := textBody_escaped s.toList [] rest
    rw [text, skipped]
    simp [writeText, body, Except.map]

/-! ### Numbers -/

/-- The digits of a number that is not zero begin with no zero. -/
theorem digits_eq_cons {n : Nat} (pos : 0 < n) :
    ∃ c ds, Text.Numeral.digits n = c :: ds ∧ c ≠ '0' := by
  have one_digit : ∀ n < 10, 0 < n → n.digitChar ≠ '0' := by decide
  induction n using Nat.strongRecOn with
  | ind n ih =>
    by_cases small : n < 10
    · exact ⟨n.digitChar, [], Nat.toDigits_of_lt_base small, one_digit n small pos⟩
    · obtain ⟨c, ds, front, ne⟩ := ih (n / 10) (by omega) (by omega)
      refine ⟨c, ds ++ [(n % 10).digitChar], ?_, ne⟩
      rw [Text.Numeral.digits, Nat.toDigits_of_base_le (by decide) (by omega)]
      exact congrArg (· ++ _) front

/-- Digits add to what was read before. -/
theorem le_ofDigitChars (s : Nat) (ds : List Char) : s ≤ Nat.ofDigitChars 10 ds s := by
  induction ds generalizing s with
  | nil => exact Nat.le_refl s
  | cons d ds ih =>
    rw [Nat.ofDigitChars_cons]
    exact Nat.le_trans (by omega) (ih _)

/-- All digits are taken up if the number is not too great. -/
theorem absorb_append {s : Nat} {ds rest : List Char} (digits : ∀ d ∈ ds, d.isDigit = true)
    (after : ∀ c ∈ rest.head?, c.isDigit = false)
    (small : Nat.ofDigitChars 10 ds s ≤ greatestSignificand) :
    absorb s (ds ++ rest) = (Nat.ofDigitChars 10 ds s, ds.length, rest) := by
  induction ds generalizing s with
  | nil =>
    cases rest with
    | nil => rfl
    | cons c rest => simp [absorb, after c rfl]
  | cons d ds ih =>
    rw [Nat.ofDigitChars_cons, Nat.mul_comm] at small
    have isDigit : d.isDigit = true := digits d List.mem_cons_self
    have fits : s * 10 + (d.toNat - '0'.toNat) ≤ greatestSignificand :=
      Nat.le_trans (le_ofDigitChars _ ds) small
    have others := ih (fun d mem => digits d (List.mem_cons_of_mem _ mem)) small
    simp only [List.cons_append, absorb, isDigit, fits, decide_true, Bool.and_true, if_true, others]
    rw [Nat.ofDigitChars_cons, Nat.mul_comm]
    rfl

/-- The digits of a number are read as the number. -/
theorem magnitude_digits {negative : Bool} {n : Nat} (small : n ≤ greatestSignificand)
    {rest : List Char} (ends : Ends rest) :
    magnitude negative (Text.Numeral.digits n ++ rest) = numberTail negative n 0 rest := by
  rcases Nat.eq_zero_or_pos n with rfl | pos
  · cases rest with
    | nil => rfl
    | cons c rest =>
      have noDigit := ends.noDigit c rfl
      simp [show Text.Numeral.digits 0 = ['0'] from rfl, magnitude, noDigit]
  · obtain ⟨c, ds, written, ne⟩ := digits_eq_cons pos
    have digits : ∀ d ∈ c :: ds, d.isDigit = true := fun d mem =>
      Text.Numeral.isDigit_of_mem_digits (written ▸ mem)
    have number : Nat.ofDigitChars 10 ds (c.toNat - '0'.toNat) = n := by
      have := Text.Numeral.value_digits n
      rwa [Text.Numeral.value, written, Nat.ofDigitChars_cons, Nat.mul_zero, Nat.zero_add] at this
    have taken : absorb (c.toNat - '0'.toNat) (ds ++ rest) = (n, ds.length, rest) := by
      rw [absorb_append (fun d mem => digits d (List.mem_cons_of_mem _ mem)) ends.noDigit
        (number ▸ small), number]
    have noneIsDigit : ∀ d ∈ ([] : List Char), d.isDigit = true := fun _ h => nomatch h
    have dropped : rest.dropWhile Char.isDigit = rest :=
      congrArg Prod.snd (span_digits noneIsDigit ends.noDigit)
    simp only [written, List.cons_append, magnitude, ne, if_false, digits c List.mem_cons_self,
      if_true, taken, dropped, Nat.sub_self]

/-- Behind its digits a number is over. -/
theorem numberTail_ends {negative : Bool} {n : Nat} {rest : List Char} (ends : Ends rest) :
    numberTail negative n 0 rest =
      if !negative then .ok (.whole n, rest)
      else if n = 0 ∨ 0x8000000000000000 < n then .ok (.real (Binary64.ofNat n).neg, rest)
      else .ok (.whole (-(n : Int)), rest) := by
  cases rest with
  | nil => rfl
  | cons c rest =>
    obtain ⟨noPoint, noMark, noMark'⟩ := ends.head_ne (c := c) rfl
    rw [numberTail.eq_def]
    split
    · next eq => exact absurd (List.cons.inj eq).1 noPoint
    · simp [noMark, noMark']

/-- A whole number is read as it is written, if it is in the range of 64-bit words. -/
theorem number_signed {n : Int} (low : -0x8000000000000000 ≤ n) (high : n ≤ 0xFFFFFFFFFFFFFFFF)
    {rest : List Char} (ends : Ends rest) :
    number (Text.Numeral.signed n ++ rest) = .ok (.whole n, rest) := by
  have small : n.natAbs ≤ greatestSignificand := by rw [greatestSignificand]; omega
  unfold Text.Numeral.signed
  split
  · next negative =>
    have tail : n.natAbs ≠ 0 ∧ ¬ 0x8000000000000000 < n.natAbs := by omega
    have value : -(n.natAbs : Int) = n := by omega
    rw [List.cons_append, number, magnitude_digits small ends, numberTail_ends ends]
    simp only [Bool.not_true, Bool.false_eq_true, if_false, tail.1, tail.2, or_self, value]
  · next positive =>
    have value : (n.natAbs : Int) = n := by omega
    obtain ⟨c, ds, written⟩ := List.exists_cons_of_ne_nil (Text.Numeral.digits_ne_nil n.natAbs)
    have noSign : c ≠ '-' := by
      rintro rfl
      cases Text.Numeral.isDigit_of_mem_digits (written ▸ List.mem_cons_self)
    have unsigned : number (Text.Numeral.digits n.natAbs ++ rest) =
        magnitude false (Text.Numeral.digits n.natAbs ++ rest) := by
      rw [written, List.cons_append, number.eq_def]
      split
      · next eq => exact absurd (List.cons.inj eq).1 noSign
      · rfl
    rw [unsigned, magnitude_digits small ends, numberTail_ends ends]
    simp [value]

theorem signed_opens (n : Int) :
    ∃ c ds, Text.Numeral.signed n = c :: ds ∧ startsNumber c = true := by
  unfold Text.Numeral.signed
  split
  · exact ⟨'-', _, rfl, rfl⟩
  · obtain ⟨c, ds, written⟩ := List.exists_cons_of_ne_nil (Text.Numeral.digits_ne_nil n.natAbs)
    have isDigit := Text.Numeral.isDigit_of_mem_digits (written ▸ List.mem_cons_self)
    exact ⟨c, ds, written, by simp [startsNumber, isDigit]⟩

theorem opens_of_startsNumber {c : Char} (h : startsNumber c = true) : Json.opens c = true := by
  simp only [startsNumber, Bool.or_eq_true, decide_eq_true_eq] at h
  obtain rfl | isDigit := h
  · rfl
  · simp [Json.opens, isDigit]

/-- A whole number within its range is read as it is written. -/
theorem wholeBetween_reads {low high n : Int} {expected : Expected}
    (low64 : -0x8000000000000000 ≤ low) (high64 : high ≤ 0xFFFFFFFFFFFFFFFF)
    (between : low ≤ n ∧ n ≤ high) :
    Reads (wholeBetween low high expected) (Json.whole n).write (Json.whole n) := by
  obtain ⟨c, ds, written, starts⟩ := signed_opens n
  have first : Opens (Text.Numeral.signed n) := ⟨c, ds, written, opens_of_startsNumber starts⟩
  refine ⟨first, fun b rest blanks ends => ?_⟩
  have skipped := first.skipBlanks_append blanks rest
  have value := number_signed (n := n) (by omega) (by omega) ends
  rw [written] at skipped value
  simp only [wholeBetween, Json.whole, write, writeNumber, written]
  rw [skipped]
  simp only [List.cons_append] at value ⊢
  simp [starts, value, between]

/-! ### Truth values and absence -/

theorem boolean_reads (b : Bool) : Reads boolean (Json.boolean b).write (.boolean b) := by
  cases b with
  | true =>
    refine ⟨⟨'t', _, rfl, rfl⟩, fun b rest blanks _ => ?_⟩
    have passed : word ['r', 'u', 'e'] ('r' :: 'u' :: 'e' :: rest) = .ok rest :=
      word_append ['r', 'u', 'e'] rest
    simp [boolean, write, skipBlanks_to 't' blanks, passed, Except.map]
  | false =>
    refine ⟨⟨'f', _, rfl, rfl⟩, fun b rest blanks _ => ?_⟩
    have passed : word ['a', 'l', 's', 'e'] ('a' :: 'l' :: 's' :: 'e' :: rest) = .ok rest :=
      word_append ['a', 'l', 's', 'e'] rest
    simp [boolean, write, skipBlanks_to 'f' blanks, passed, Except.map]

theorem optional_null_reads (inner : Reader Json) :
    Reads (optional inner) (Json.write .null) .null := by
  refine ⟨⟨'n', _, rfl, rfl⟩, fun b rest blanks _ => ?_⟩
  have passed : word ['u', 'l', 'l'] ('u' :: 'l' :: 'l' :: rest) = .ok rest :=
    word_append ['u', 'l', 'l'] rest
  simp [optional, write, skipBlanks_to 'n' blanks, passed, Except.map]

/-- What does not begin as the absent value does is left to the inner reader. -/
theorem optional_reads {inner : Reader Json} {t : List Char} {j : Json} (reads : Reads inner t j)
    (present : t.head? ≠ some 'n') : Reads (optional inner) t j := by
  refine ⟨reads.opens, fun b rest blanks ends => ?_⟩
  have skipped := reads.opens.skipBlanks_append blanks rest
  have inner_read := reads.read [] rest blanks_nil ends
  obtain ⟨c, ds, rfl, -⟩ := reads.opens
  have noNull : c ≠ 'n' := fun eq => present (congrArg some eq)
  rw [optional, skipped]
  simpa [noNull] using inner_read

/-! ### Lists -/

/-- An item in front is read before the others. -/
theorem items_first {item : Reader Json} {p : List Char} {j : Json} (reads : Reads item p j)
    {b tail : List Char} (blanks : Blanks b) (ends : Ends tail) (fuel : Nat) :
    items item (fuel + 1) true (b ++ (p ++ tail)) =
      (items item fuel false tail).map fun r => (j :: r.1, r.2) := by
  have skipped := reads.opens.skipBlanks_append blanks tail
  have first := reads.read [] tail blanks_nil ends
  obtain ⟨c, cs, rfl, opens⟩ := reads.opens
  have noEnd : c ≠ ']' := ne_of_opens opens rfl
  simp only [List.nil_append, List.cons_append] at skipped first ⊢
  rw [items, skipped]
  simp only [noEnd, if_false, if_true, first, ok_bind]
  cases items item fuel false tail <;> rfl

/-- Behind a comma the items are read as at the beginning of a list. -/
theorem items_comma (item : Reader Json) {b cs : List Char} (blanks : Blanks b)
    (more : ∃ d ds, skipBlanks cs = d :: ds ∧ d ≠ ']') (fuel : Nat) :
    items item (fuel + 1) false (b ++ ',' :: cs) = items item (fuel + 1) true cs := by
  obtain ⟨d, ds, skipped, noEnd⟩ := more
  simp [items, skipBlanks_to ',' blanks, skipped, noEnd]

theorem items_end {item : Reader Json} {b : List Char} (blanks : Blanks b) (rest : List Char)
    (fuel : Nat) : items item (fuel + 1) false (b ++ ']' :: rest) = .ok ([], rest) := by
  simp [items, skipBlanks_to ']' blanks]

/-- The items of a list are read in any layout. -/
theorem items_append {item : Reader Json} {ps : List (List Char)} {js : List Json}
    (reads : List.Forall₂ (fun j p => Reads item p j) js ps) {cs : List Char}
    (pieces : Sequel ']' ps cs) {fuel : Nat} (enough : ps.length < fuel) (rest : List Char) :
    items item fuel true (cs ++ rest) = .ok (js, rest) := by
  induction pieces generalizing js fuel with
  | @last b p b' before after =>
    obtain ⟨fuel, rfl⟩ : ∃ k, fuel = k + 2 := Nat.exists_eq_add_of_le' enough
    obtain _ | ⟨first, _ | _⟩ := reads
    have ends : Ends (b' ++ ']' :: rest) := (ends_cons rfl).append after
    have read := items_first first before ends (fuel + 1)
    simpa [items_end after, Except.map] using read
  | @more b p b' ps cs before after pieces ih =>
    obtain ⟨fuel, rfl⟩ : ∃ k, fuel = k + 2 :=
      Nat.exists_eq_add_of_le' (by simp at enough; omega)
    obtain _ | @⟨_, _, js, _, first, others⟩ := reads
    have ends : Ends (b' ++ ',' :: (cs ++ rest)) := (ends_cons rfl).append after
    have read := items_first first before ends (fuel + 1)
    have begins : ∀ p ∈ ps, Opens p := fun p mem => by
      obtain ⟨j, -, reads⟩ := exists_of_mem_right others mem
      exact reads.opens
    obtain ⟨ds, -, ⟨d, tail, rfl, opens⟩, -, skipped⟩ := pieces.trim begins
    have comma := items_comma item after ⟨d, _, skipped rest, ne_of_opens opens rfl⟩ fuel
    have enough' : ps.length < fuel + 1 := by simp at enough; omega
    have others := ih others enough'
    simpa [comma, others, Except.map] using read

/-- A list is read from its items in any layout. -/
theorem list_reads {item : Reader Json} {ps : List (List Char)} {js : List Json}
    (reads : List.Forall₂ (fun j p => Reads item p j) js ps) {cs : List Char}
    (layout : Bracketed '[' ']' ps cs) : Reads (list item) cs (.list js) := by
  refine ⟨layout.opens rfl, fun b rest blanks _ => ?_⟩
  cases layout with
  | empty inner =>
    cases reads
    simp [list, items, skipBlanks_to '[' blanks, skipBlanks_to ']' inner, Except.map]
  | @filled ps cs pieces =>
    have enough : ps.length < (cs ++ rest).length + 1 := by
      have := pieces.length_le
      simp; omega
    have read := items_append reads pieces enough rest
    simp only [List.length_append] at read
    simp [list, skipBlanks_to '[' blanks, read, Except.map]

end Reader

end Simulcast.Json
