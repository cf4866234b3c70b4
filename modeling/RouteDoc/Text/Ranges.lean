/-
Character classes as tables of code point ranges.

A class of characters is written down as the ascending list of its closed
ranges; `Ranges.has` decides membership. The classes of the ASCII characters,
which most texts never leave, are decided by comparison before a table is
consulted, so a table is walked for the other characters only.
-/

namespace RouteDoc.Text

/-- Ascending, disjoint closed ranges of code points. -/
abbrev Ranges := List (Nat × Nat)

/-- Whether the code point `n` lies in one of the ranges. -/
def Ranges.has (rs : Ranges) (n : Nat) : Bool :=
  rs.any fun r => decide (r.1 ≤ n) && decide (n ≤ r.2)

end RouteDoc.Text
