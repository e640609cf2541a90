import Simulcast.Binary64.Basic
import Simulcast.Text.Numeral

/-!
# Numbers read from decimal text

A decimal with any number of digits is read as the nearest binary64 number. The
texts accepted have an optional sign, digits with an optional point before, among
or after them, and an optional power of ten; or they name an infinity or what is
no number, in letters of either case.
-/

namespace Simulcast.Binary64

/-- The number nearest to `± n · 10 ^ exponent`. A power of ten far outside the range of the
format is decided without computing it. -/
def ofDecimal (negative : Bool) (n : Nat) (exponent : Int) : Binary64 :=
  if n = 0 then zero negative
  else
    let leading : Int := exponent + (Text.Numeral.digits n).length
    if 400 < leading then .infinite negative
    else if leading < -400 then zero negative
    else ofRatio negative (n * raise 10 exponent) (raise 10 (-exponent))

/-- The power of ten after a mantissa: nothing, or a mark with an optional sign and digits. -/
def exponent? : List Char → Option Int
  | [] => some 0
  | c :: cs => if c = 'e' ∨ c = 'E' then Text.Numeral.integer? cs else none

/-- The magnitude that a text without a sign writes in digits. -/
def magnitude? (negative : Bool) (cs : List Char) : Option Binary64 :=
  let (whole, rest) := Text.Numeral.span cs
  let (part, rest) :=
    match rest with
    | '.' :: rest => Text.Numeral.span rest
    | rest => ([], rest)
  if whole = [] ∧ part = [] then none
  else (exponent? rest).map fun e =>
    ofDecimal negative (Text.Numeral.value (whole ++ part)) (e - part.length)

/-- The magnitude that a text without a sign names or writes. -/
def unsigned? (negative : Bool) (cs : List Char) : Option Binary64 :=
  let word := String.ofList (cs.map Char.toLower)
  if word = "inf" ∨ word = "infinity" then some (.infinite negative)
  else if word = "nan" then some .nan
  else magnitude? negative cs

/-- The number that the whole text writes. -/
def read? : List Char → Option Binary64
  | '-' :: cs => unsigned? true cs
  | '+' :: cs => unsigned? false cs
  | cs => unsigned? false cs

end Simulcast.Binary64
