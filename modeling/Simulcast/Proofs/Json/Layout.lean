import Simulcast.Json.Scan
import Simulcast.Json.Writer
import Mathlib.Data.List.Forall2

/-!
# How documents can be laid out

The grammar of JSON texts, apart from any reader: blanks, numbers and texts, lists and objects with
blanks between all their parts, and values of any nesting (`Value`). What the writer writes is laid
out in this way without blanks (`bracketed_list`, `bracketed_object`).
-/

namespace Simulcast.Json

/-! ### Blanks -/

/-- Only blanks. -/
def Blanks (cs : List Char) : Prop := ∀ c ∈ cs, isBlank c = true

instance (cs : List Char) : Decidable (Blanks cs) :=
  decidable_of_iff (cs.all isBlank = true) List.all_eq_true

@[simp] theorem blanks_nil : Blanks [] := fun _ h => nomatch h

/-- Blanks in front are passed over. -/
theorem skipBlanks_append {b cs : List Char} (blanks : Blanks b) :
    skipBlanks (b ++ cs) = skipBlanks cs := List.dropWhile_append_of_pos blanks

/-- Behind blanks alone nothing is left. -/
theorem Blanks.skipBlanks_eq {b : List Char} (blanks : Blanks b) : skipBlanks b = [] := by
  have passed : skipBlanks (b ++ []) = [] := skipBlanks_append blanks
  rwa [List.append_nil] at passed

/-- What begins with no blank is left as it is. -/
theorem skipBlanks_cons {c : Char} {cs : List Char} (solid : isBlank c = false) :
    skipBlanks (c :: cs) = c :: cs := List.dropWhile_cons_of_neg (by simp [solid])

/-- Behind blanks a character that is none is where the reading goes on. -/
theorem skipBlanks_to (c : Char) {b cs : List Char} (blanks : Blanks b)
    (solid : isBlank c = false := by rfl) : skipBlanks (b ++ c :: cs) = c :: cs := by
  rw [skipBlanks_append blanks, skipBlanks_cons solid]

/-! ### Where values begin and end -/

/-- Whether a value may begin with a character. -/
def opens (c : Char) : Bool :=
  c.isDigit || ['"', '[', '{', '-', 'n', 't', 'f'].contains c

/-- Characters of which the first may begin a value. -/
def Opens (cs : List Char) : Prop := ∃ c ds, cs = c :: ds ∧ opens c = true

/-- Whether a number is over where a character stands. -/
def stops (c : Char) : Bool := !(c.isDigit || c = '.' || c = 'e' || c = 'E')

/-- Characters before which a number is over. -/
def Ends (rest : List Char) : Prop := ∀ c ∈ rest.head?, stops c = true

theorem isBlank_of_opens {c : Char} (h : opens c = true) : isBlank c = false := by
  cases blank : isBlank c with
  | false => rfl
  | true =>
    simp only [isBlank, Bool.or_eq_true, decide_eq_true_eq] at blank
    obtain ((rfl | rfl) | rfl) | rfl := blank <;> cases h

theorem ne_of_opens {c d : Char} (h : opens c = true) (closed : opens d = false) : c ≠ d := by
  rintro rfl
  rw [h] at closed
  cases closed

theorem stops_of_isBlank {c : Char} (blank : isBlank c = true) : stops c = true := by
  simp only [isBlank, Bool.or_eq_true, decide_eq_true_eq] at blank
  obtain ((rfl | rfl) | rfl) | rfl := blank <;> rfl

theorem ends_nil : Ends [] := fun _ h => nomatch h

theorem ends_cons {c : Char} {cs : List Char} (h : stops c = true) : Ends (c :: cs) := by
  rintro d ⟨⟩
  exact h

/-- A number is over where blanks follow, if it is over behind them. -/
theorem Ends.append {b rest : List Char} (ends : Ends rest) (blanks : Blanks b) :
    Ends (b ++ rest) := by
  cases b with
  | nil => exact ends
  | cons c b => exact ends_cons (stops_of_isBlank (blanks c List.mem_cons_self))

/-- Behind blanks a value begins with its first character. -/
theorem Opens.skipBlanks_append {b cs : List Char} (h : Opens cs) (blanks : Blanks b)
    (rest : List Char) : skipBlanks (b ++ (cs ++ rest)) = cs ++ rest := by
  obtain ⟨c, ds, rfl, h⟩ := h
  rw [Json.skipBlanks_append blanks]
  exact skipBlanks_cons (isBlank_of_opens h)

/-- A bound on the length of what begins a value is not zero. -/
theorem Opens.exists_eq_add_one {cs : List Char} (h : Opens cs) {n : Nat} (short : cs.length ≤ n) :
    ∃ m, n = m + 1 := by
  obtain ⟨c, ds, rfl, -⟩ := h
  exact Nat.exists_eq_add_of_le' (Nat.le_trans (Nat.le_add_left 1 ds.length) short)

theorem Opens.append {cs : List Char} (h : Opens cs) (rest : List Char) : Opens (cs ++ rest) := by
  obtain ⟨c, ds, rfl, h⟩ := h
  exact ⟨c, ds ++ rest, rfl, h⟩

/-! ### Lists and objects -/

/-- Pieces with commas between them and blanks around them, up to the closing bracket. -/
inductive Sequel (close : Char) : List (List Char) → List Char → Prop where
  /-- The last piece and the bracket. -/
  | last {b p b' : List Char} (before : Blanks b) (after : Blanks b') :
    Sequel close [p] (b ++ (p ++ (b' ++ [close])))
  /-- A piece, a comma and more pieces. -/
  | more {b p b' : List Char} {ps : List (List Char)} {cs : List Char} (before : Blanks b)
    (after : Blanks b') (others : Sequel close ps cs) :
    Sequel close (p :: ps) (b ++ (p ++ (b' ++ ',' :: cs)))

/-- Pieces between brackets. -/
inductive Bracketed (first close : Char) : List (List Char) → List Char → Prop where
  /-- No piece. -/
  | empty {b : List Char} (blanks : Blanks b) : Bracketed first close [] (first :: (b ++ [close]))
  /-- One piece or more. -/
  | filled {ps : List (List Char)} {cs : List Char} (pieces : Sequel close ps cs) :
    Bracketed first close ps (first :: cs)

/-- A member of an object: its name as it is written, a colon and its value. -/
inductive Member (name value : List Char) : List Char → Prop where
  /-- Blanks may stand around the colon. -/
  | intro {b b' : List Char} (before : Blanks b) (after : Blanks b') :
    Member name value (name ++ (b ++ ':' :: (b' ++ value)))

/-- Blanks in front of the first piece can be left out. -/
theorem Sequel.trim {close : Char} {ps : List (List Char)} {cs : List Char}
    (pieces : Sequel close ps cs) (begins : ∀ p ∈ ps, Opens p) :
    ∃ ds, Sequel close ps ds ∧ Opens ds ∧ ds.length ≤ cs.length ∧
      ∀ rest, skipBlanks (cs ++ rest) = ds ++ rest := by
  cases pieces with
  | @last b p b' before after =>
    have first : Opens p := begins p List.mem_cons_self
    refine ⟨p ++ (b' ++ [close]), .last blanks_nil after, first.append _, by simp, fun rest => ?_⟩
    simpa using first.skipBlanks_append before (b' ++ close :: rest)
  | @more b p b' ps cs before after others =>
    have first : Opens p := begins p List.mem_cons_self
    refine ⟨p ++ (b' ++ ',' :: cs), .more blanks_nil after others, first.append _, by simp,
      fun rest => ?_⟩
    simpa using first.skipBlanks_append before (b' ++ ',' :: (cs ++ rest))

theorem Sequel.length_le {close : Char} {ps : List (List Char)} {cs : List Char}
    (pieces : Sequel close ps cs) : ps.length ≤ cs.length := by
  induction pieces with
  | last before after => simp; omega
  | more before after others ih => simp; omega

theorem Bracketed.opens {first close : Char} {ps : List (List Char)} {cs : List Char}
    (h : Bracketed first close ps cs) (first_opens : Json.opens first = true) : Opens cs := by
  cases h with
  | empty blanks => exact ⟨_, _, rfl, first_opens⟩
  | filled pieces => exact ⟨_, _, rfl, first_opens⟩

/-! ### Values -/

/-- What may stand between the quotes of a text. -/
inductive TextBody : List Char → Prop where
  /-- Nothing. -/
  | nil : TextBody []
  /-- A character that stands for itself. -/
  | plain {c : Char} {cs : List Char} (noQuote : c ≠ '"') (noEscape : c ≠ '\\')
    (noControl : 0x20 ≤ c.toNat) (body : TextBody cs) : TextBody (c :: cs)
  /-- A letter behind a backslash. -/
  | letter {e : Char} {cs : List Char} (known : e ∈ ['"', '\\', '/', 'b', 'f', 'n', 'r', 't'])
    (body : TextBody cs) : TextBody ('\\' :: e :: cs)
  /-- Four hexadecimal digits, which may write a half of a pair. -/
  | quad {h₁ h₂ h₃ h₄ : Char} {cs : List Char}
    (digits : ∀ h ∈ [h₁, h₂, h₃, h₄], (Text.Numeral.hexDigit? h).isSome) (body : TextBody cs) :
    TextBody ('\\' :: 'u' :: h₁ :: h₂ :: h₃ :: h₄ :: cs)

/-- A text between quotes. -/
inductive IsText : List Char → Prop where
  /-- What stands between the quotes. -/
  | intro {cs : List Char} (body : TextBody cs) : IsText ('"' :: (cs ++ ['"']))

/-- One decimal digit or more. -/
structure Digits (ds : List Char) : Prop where
  /-- There is one. -/
  ne_nil : ds ≠ []
  /-- There is nothing else. -/
  isDigit : ∀ d ∈ ds, d.isDigit = true

/-- The digits in front of the point: no zero leads. -/
inductive WholePart : List Char → Prop where
  /-- A zero alone. -/
  | zero : WholePart ['0']
  /-- Digits of which the first is no zero. -/
  | digits {d : Char} {ds : List Char} (isDigit : d.isDigit = true) (ne_zero : d ≠ '0')
    (others : ∀ d ∈ ds, d.isDigit = true) : WholePart (d :: ds)

/-- The point and the digits behind it, if there are any. -/
inductive FractionPart : List Char → Prop where
  /-- No point. -/
  | none : FractionPart []
  /-- A point and digits. -/
  | some {ds : List Char} (digits : Digits ds) : FractionPart ('.' :: ds)

/-- The power of ten, if there is one. -/
inductive PowerPart : List Char → Prop where
  /-- No power of ten. -/
  | none : PowerPart []
  /-- A mark, a sign that may be left out, and digits. -/
  | some {e : Char} {sign ds : List Char} (mark : e = 'e' ∨ e = 'E')
    (sign_mem : sign ∈ [[], ['+'], ['-']]) (digits : Digits ds) : PowerPart (e :: (sign ++ ds))

/-- A number of any size. -/
inductive IsNumber : List Char → Prop where
  /-- A sign that may be left out, and the three parts. -/
  | intro {sign whole fraction power : List Char} (sign_mem : sign ∈ [[], ['-']])
    (wholePart : WholePart whole) (fractionPart : FractionPart fraction)
    (powerPart : PowerPart power) : IsNumber (sign ++ (whole ++ (fraction ++ power)))

/-- A well-formed JSON value of any nesting. -/
inductive Value : List Char → Prop where
  /-- One of the three words. -/
  | word {cs : List Char} (known : cs ∈ ["null".toList, "true".toList, "false".toList]) : Value cs
  /-- A number. -/
  | number {cs : List Char} (isNumber : IsNumber cs) : Value cs
  /-- A text. -/
  | text {cs : List Char} (isText : IsText cs) : Value cs
  /-- A list of values. -/
  | list {items : List (List Char)} {cs : List Char} (values : ∀ t ∈ items, Value t)
    (layout : Bracketed '[' ']' items cs) : Value cs
  /-- An object with any texts as names and any values. -/
  | object {members : List (List Char × List Char)} {pieces : List (List Char)} {cs : List Char}
    (names : ∀ m ∈ members, IsText m.1) (values : ∀ m ∈ members, Value m.2)
    (written : List.Forall₂ (fun m p => Member m.1 m.2 p) members pieces)
    (layout : Bracketed '{' '}' pieces cs) : Value cs

theorem IsText.opens {cs : List Char} (h : IsText cs) : Opens cs := by
  cases h with
  | intro body => exact ⟨'"', _, rfl, rfl⟩

theorem WholePart.head_isDigit {cs : List Char} (h : WholePart cs) :
    ∃ d ds, cs = d :: ds ∧ d.isDigit = true := by
  cases h with
  | zero => exact ⟨'0', [], rfl, rfl⟩
  | digits isDigit ne_zero others => exact ⟨_, _, rfl, isDigit⟩

theorem IsNumber.opens {cs : List Char} (h : IsNumber cs) : Opens cs := by
  obtain @⟨sign, whole, fraction, power, sign_mem, wholePart, -, -⟩ := h
  have : sign = [] ∨ sign = ['-'] := by simpa using sign_mem
  obtain rfl | rfl := this
  · obtain ⟨d, ds, rfl, isDigit⟩ := wholePart.head_isDigit
    exact ⟨d, _, rfl, by simp [Json.opens, isDigit]⟩
  · exact ⟨'-', _, rfl, rfl⟩

/-- What is written belongs to what it writes. -/
theorem exists_of_mem_right {α β : Type} {R : α → β → Prop} {as : List α} {bs : List β}
    (written : List.Forall₂ R as bs) {b : β} (mem : b ∈ bs) : ∃ a ∈ as, R a b := by
  induction written with
  | nil => cases mem
  | @cons a c as bs first others ih =>
    rcases List.mem_cons.mp mem with rfl | mem
    · exact ⟨a, List.mem_cons_self, first⟩
    · obtain ⟨a', mem', related⟩ := ih mem
      exact ⟨a', List.mem_cons_of_mem a mem', related⟩

theorem Member.length_le {name value cs : List Char} (h : Member name value cs) :
    value.length ≤ cs.length := by
  cases h with
  | intro before after => simp; omega

theorem Member.opens {name value cs : List Char} (h : Member name value cs) (text : Opens name) :
    Opens cs := by
  cases h with
  | intro before after => exact text.append _

theorem Value.opens {cs : List Char} (h : Value cs) : Opens cs := by
  cases h with
  | word known =>
    have : cs = "null".toList ∨ cs = "true".toList ∨ cs = "false".toList := by simpa using known
    obtain rfl | rfl | rfl := this <;> exact ⟨_, _, rfl, rfl⟩
  | number isNumber => exact isNumber.opens
  | text isText => exact isText.opens
  | list values layout => exact layout.opens rfl
  | object names values written layout => exact layout.opens rfl

/-! ### What is written -/

theorem writeText_opens (s : List Char) : Opens (writeText s) := ⟨'"', _, rfl, rfl⟩

/-- The items of a list are written without blanks. -/
theorem sequel_writeItems (j : Json) (js : List Json) :
    Sequel ']' ((j :: js).map write) (write j ++ writeItems js) := by
  induction js generalizing j with
  | nil => exact .last blanks_nil blanks_nil
  | cons k js ih => exact .more blanks_nil blanks_nil (ih k)

/-- A list is written as its items between brackets. -/
theorem bracketed_list (js : List Json) :
    Bracketed '[' ']' (js.map write) (write (.list js)) := by
  cases js with
  | nil => exact .empty blanks_nil
  | cons j js => exact .filled (sequel_writeItems j js)

/-- A member as it is written. -/
def writeMember (m : String × Json) : List Char := writeText m.1.toList ++ ':' :: write m.2

theorem member_writeMember (m : String × Json) :
    Member (writeText m.1.toList) (write m.2) (writeMember m) := .intro blanks_nil blanks_nil

/-- The members of an object are written without blanks. -/
theorem sequel_writeMembers (m : String × Json) (ms : List (String × Json)) :
    Sequel '}' ((m :: ms).map writeMember) (writeMember m ++ writeMembers ms) := by
  induction ms generalizing m with
  | nil => exact .last blanks_nil blanks_nil
  | cons n ms ih =>
    have others := Sequel.more (p := writeMember m) blanks_nil blanks_nil (ih n)
    simpa [writeMembers, writeMember] using others

/-- An object is written as its members between brackets. -/
theorem bracketed_object (ms : List (String × Json)) :
    Bracketed '{' '}' (ms.map writeMember) (write (.object ms)) := by
  cases ms with
  | nil => exact .empty blanks_nil
  | cons m ms =>
    have pieces := sequel_writeMembers m ms
    refine .filled ?_
    simpa [writeMember] using pieces

end Simulcast.Json
