import Tabular.Table.Basic

/-!
# Joins

The inner join of two tables on the equality of one column of each. Empty cells join nothing.
-/

namespace Tabular.Table

variable {α : Type u} [DecidableEq α]

/-- The pairs of a left and a right row with equal keys, in order of the left row and then of the
right one. There are none when a column is outside its table. -/
def join (left right : Table α) (leftColumn rightColumn : Nat) : List (Nat × Nat) :=
  if leftColumn < left.columnCount ∧ rightColumn < right.columnCount then
    (List.range left.rowCount).flatMap fun l =>
      match left.cell l leftColumn with
      | none => []
      | some key =>
        ((List.range right.rowCount).filter fun r => right.cell r rightColumn = some key).map (l, ·)
  else []

end Tabular.Table
