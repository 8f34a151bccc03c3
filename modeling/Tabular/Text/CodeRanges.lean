import Tabular.Search

/-!
# Ranges of code points

A property of characters is given by the ranges of code points that have it.
-/

namespace Tabular.Text

/-- Ascending disjoint ranges of code points, each with its first and its last. -/
abbrev CodeRanges := Array (Nat × Nat)

/-- Whether a character is in one of the ranges. -/
def CodeRanges.contains (ranges : CodeRanges) (c : Char) : Bool :=
  match ranges[partitionPoint (fun range => range.2 < c.toNat) ranges]? with
  | some (first, _) => first ≤ c.toNat
  | none => false

end Tabular.Text
