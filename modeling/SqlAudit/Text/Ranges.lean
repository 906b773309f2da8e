/-!
# Sets of code points

A property of characters that follows no short rule is given as a list of ranges of code points.
-/

namespace SqlAudit.Text

/-- Ranges of code points, both ends included. -/
abbrev Ranges := List (Nat × Nat)

/-- Whether a code point lies in one of the ranges. -/
def Ranges.has (rs : Ranges) (n : Nat) : Bool :=
  rs.any fun r => r.1 ≤ n && n ≤ r.2

end SqlAudit.Text
