import Simulcast.Journal.Level
import Simulcast.Text.Alphanumeric
import Simulcast.Text.Blank
import Simulcast.Text.Numeral

/-!
# What the journal leaves out

Directives say from which level on entries are written, for every target or for those
whose path begins with a text. Of the directives that apply to an entry the most
specific one decides; an entry to which none applies is left out. Directives are written
as a list with commas, each as a level, a target, or `target=level`. Brackets behind a
target confine it: `[{name}]` to entries with a value of that name, and anything else in
them to surroundings that no entry of this library has.
-/

namespace Simulcast.Journal

/-- From which level on entries are written. -/
inductive Limit where
  /-- None is written. -/
  | off
  /-- Those of a level or of a more important one are. -/
  | atLeast (level : Level)
  deriving DecidableEq, Repr

namespace Limit

/-- Whether an entry of a level is written. -/
def admits : Limit → Level → Bool
  | .off, _ => false
  | .atLeast least, l => least.weight ≤ l.weight

/-- No limit. -/
def everything : Limit := .atLeast .trace

/-- The limits by number. -/
def numbered : List Limit :=
  [.off, .atLeast .error, .atLeast .warn, .atLeast .info, .atLeast .debug, .atLeast .trace]

/-- The limit that a text without a sign numbers, or names in letters of either case. -/
def ofWord? (cs : List Char) : Option Limit :=
  match Text.Numeral.natural? cs with
  | some n => numbered[n]?
  | none =>
    let word := String.ofList (cs.map Char.toLower)
    if word = "off" then some .off else (Level.names.lookup word).map .atLeast

/-- The limit that a text stands for. -/
def ofText? : List Char → Option Limit
  | '+' :: cs => (Text.Numeral.natural? cs).bind fun n => numbered[n]?
  | cs => ofWord? cs

end Limit

/-- A limit for some entries. -/
structure Directive where
  /-- The text that the paths of the targets begin with; without it all targets are meant. -/
  target : Option String
  /-- The name of a value that the entries have, if one is asked for. -/
  field : Option String := none
  /-- The limit. -/
  limit : Limit
  deriving DecidableEq, Repr

namespace Directive

/-- Whether the directive applies to entries about a target with values of the given names. -/
def appliesTo (d : Directive) (path : String) (fields : List String) : Bool :=
  (d.target.all fun t => t.toList.isPrefixOf path.toList) && d.field.all fields.contains

/-- How specific the target of the directive is. -/
def reach (d : Directive) : Nat :=
  match d.target with
  | none => 0
  | some t => t.utf8ByteSize + 1

/-- Whether the directive is more specific than another one: by its target, by whether it asks for a
value, or, to settle the rest, by the name of that value. -/
def outranks (d e : Directive) : Bool :=
  e.reach < d.reach || (e.reach == d.reach &&
    match e.field, d.field with
    | none, some _ => true
    | some f, some g => f < g
    | _, none => false)

/-! ### Directives as text -/

/-- Whether a target may begin with a character. -/
def isInitial (c : Char) : Bool :=
  c == '-' || c == ':' || c == '_' || Text.Alphanumeric.isAlphanumeric c

/-- What brackets ask of an entry. -/
inductive Demand where
  /-- A value with a name. -/
  | field (name : String)
  /-- Surroundings, or a certain value, that no entry has. -/
  | unmet
  deriving DecidableEq, Repr

/-- Reads what is in brackets from behind the opening one, and what follows them. -/
def demand? (cs : List Char) : Option (Demand × List Char) :=
  match cs.span fun c => c != ']' && c != '{' with
  | (_, ']' :: rest) => some (.unmet, rest)
  | (surroundings, '{' :: rest) =>
    match rest.span (· != '}') with
    | ([], _) => none
    | (field, '}' :: ']' :: rest) =>
      if surroundings = [] ∧ !field.contains '=' then
        some (.field (String.ofList field), rest)
      else some (.unmet, rest)
    | _ => none
  | _ => none

/-- The limit that follows a target, if one does. -/
def limit? : List Char → Option Limit
  | [] => some .everything
  | ['='] => some .everything
  | '=' :: level => Limit.ofText? level
  | _ => none

/-- The directive that a text without a limit of its own writes: a level, or else a target. -/
def ofWord (cs : List Char) : Directive :=
  match Limit.ofText? cs with
  | some l => { target := none, limit := l }
  | none => { target := some (String.ofList cs), limit := .everything }

/-- The directive behind a target in brackets, given what they ask for and what follows them; one
that no entry can meet is dropped. -/
def confined? (target : List Char) (demand : Demand) (rest : List Char) :
    Option (List Directive) :=
  (limit? rest).map fun l =>
    match demand with
    | .field name =>
      [⟨if target = [] then none else some (String.ofList target), some name, l⟩]
    | .unmet => []

/-- The directive that a text writes, if it concerns any entry. Blanks around a text are part of a
level or a target that stands alone; beside brackets they may stand if no limit follows, and make
an unmet demand when they come first. -/
def read? (cs : List Char) : Option (List Directive) :=
  let text := Text.Blank.trim cs
  let (target, rest) := text.span fun c => c != '=' && c != '['
  if target = [] ∧ rest.head? ≠ some '[' then none
  else if !target.head?.all isInitial then none
  else
    match rest with
    | [] => some [ofWord cs]
    | '[' :: rest => do
      let (demand, rest) ← demand? rest
      if rest ≠ [] ∧ text ≠ cs then none
      else confined? target (if cs.head?.any Text.Blank.isBlank then .unmet else demand) rest
    | rest => do
      let l ← limit? rest
      if text ≠ cs then none else pure [{ target := some (String.ofList target), limit := l }]

/-- The pieces of a text between commas. -/
def pieces (cs : List Char) : List (List Char) := cs.splitOn ','

end Directive

/-- The directives in force. -/
structure Filter where
  /-- The directives, no two of them for the same entries. -/
  directives : List Directive
  deriving DecidableEq, Repr

namespace Filter

/-- The filter without directives, which writes nothing. -/
def silent : Filter := ⟨[]⟩

/-- Adds a directive, in place of one for the same entries. -/
def add (f : Filter) (d : Directive) : Filter :=
  ⟨d :: f.directives.filter fun e => !(e.target == d.target && e.field == d.field)⟩

/-- The filter of directives, of which later ones replace earlier ones. -/
def ofDirectives (ds : List Directive) : Filter := ds.foldl add silent

/-- The filter that a text writes, unless a directive in it cannot be read. -/
def read? (s : String) : Option Filter :=
  (((Directive.pieces s.toList).filter (· ≠ [])).mapM Directive.read?).map fun ds =>
    ofDirectives ds.flatten

/-- The more specific of two directives. -/
def moreSpecific (d : Option Directive) (e : Directive) : Option Directive :=
  match d with
  | none => some e
  | some d => if e.outranks d then some e else some d

/-- The directive that decides about entries for a target, with values of the given names. -/
def decisive? (f : Filter) (path : String) (fields : List String) : Option Directive :=
  (f.directives.filter (·.appliesTo path fields)).foldl moreSpecific none

/-- Whether an entry of a level is written, about a target and with values of the given names. -/
def admits (f : Filter) (path : String) (fields : List String) (level : Level) : Bool :=
  (f.decisive? path fields).any fun d => d.limit.admits level

end Filter

end Simulcast.Journal
