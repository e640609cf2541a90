/-!
# Classes of characters as ranges

A class of characters is given by their code points, as ascending ranges with both ends
in them. The classes of this library are those of Unicode 17.
-/

namespace Simulcast.Text

/-- Code points as ascending ranges with both ends in them. -/
abbrev Ranges := List (Nat × Nat)

/-- Whether a character lies in one of the ranges. -/
def Ranges.holds (rs : Ranges) (c : Char) : Bool :=
  rs.any fun r => r.1 ≤ c.toNat && c.toNat ≤ r.2

end Simulcast.Text
