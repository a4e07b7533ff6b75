/-!
# Ranges of code points

A character class beyond ASCII is a table of closed ranges of code points. This module says when a
table holds a character; the tables stand in the modules named for their class.
-/

namespace Scriptlet.Text

/-- A table of closed ranges of code points, in ascending order and apart from each other. -/
abbrev Ranges := List (Nat × Nat)

/-- Whether the character lies in one of the ranges. -/
def Ranges.holds (ranges : Ranges) (c : Char) : Bool :=
  ranges.any fun (low, high) => low ≤ c.toNat && c.toNat ≤ high

end Scriptlet.Text
