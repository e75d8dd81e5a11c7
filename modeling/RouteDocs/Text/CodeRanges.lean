/-!
Sets of code points, written as closed intervals.
-/

namespace RouteDocs.Text

/-- a set of code points: closed intervals, in increasing order -/
abbrev CodeRanges := List (Nat × Nat)

def CodeRanges.contains (ranges : CodeRanges) (c : Char) : Bool :=
  ranges.any fun r => r.1 ≤ c.toNat && c.toNat ≤ r.2

end RouteDocs.Text
