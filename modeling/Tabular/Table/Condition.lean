import Tabular.Table.Basic

/-!
# Conditions and selection

A condition is a test of the cells of one column, or a conjunction or disjunction of conditions.
An empty cell passes no comparison; only the test for empty cells accepts it. Selecting by a scan
evaluates the condition on every row. A test of one column can also be answered from a sorted index
of that column.
-/

namespace Tabular

/-- A test of one cell. -/
inductive CellTest (α : Type u)
  | equal (value : α)
  | notEqual (value : α)
  | above (value : α)
  | below (value : α)
  /-- Both bounds are included. -/
  | between (low high : α)
  | isNull
  | isNotNull
deriving Repr, DecidableEq

/-- A predicate on the rows of a table. -/
inductive Condition (α : Type u)
  | test (column : Nat) (check : CellTest α)
  | all (conditions : List (Condition α))
  | any (conditions : List (Condition α))

namespace CellTest

variable {α : Type u} [Ord α] [DecidableEq α]

/-- Whether the content of a cell passes. -/
def accepts : CellTest α → Option α → Bool
  | isNull, content => content.isNone
  | isNotNull, content => content.isSome
  | _, none => false
  | equal value, some cell => cell = value
  | notEqual value, some cell => cell ≠ value
  | above value, some cell => (compare cell value).isGT
  | below value, some cell => (compare cell value).isLT
  | between low high, some cell => (compare low cell).isLE && (compare cell high).isLE

end CellTest

namespace Condition

variable {α : Type u}

/-- The column that the condition tests, if it tests exactly one. -/
def column? : Condition α → Option Nat
  | test column _ => some column
  | all _ | any _ => none

variable [Ord α] [DecidableEq α]

mutual

/-- Whether a row satisfies the condition. A row outside the table has empty cells. -/
def holds (t : Table α) (row : Nat) : Condition α → Bool
  | test column check => check.accepts (t.cell row column)
  | all conditions => allHold t row conditions
  | any conditions => anyHolds t row conditions

/-- Whether a row satisfies every condition of a list. -/
def allHold (t : Table α) (row : Nat) : List (Condition α) → Bool
  | [] => true
  | condition :: conditions => holds t row condition && allHold t row conditions

/-- Whether a row satisfies some condition of a list. -/
def anyHolds (t : Table α) (row : Nat) : List (Condition α) → Bool
  | [] => false
  | condition :: conditions => holds t row condition || anyHolds t row conditions

end

end Condition

namespace Table

variable {α : Type u} [Ord α] [DecidableEq α]

/-- The rows that satisfy a condition, ascending. -/
def select (t : Table α) (condition : Condition α) : List Nat :=
  (List.range t.rowCount).filter fun row => condition.holds t row

end Table

namespace SortedIndex

variable {α : Type u} [Ord α]

/-- The rows that pass a test, ascending, from the index of a column by row. Nulls come first in the
order, so the rows below a value are those behind them. Inequality is not answered. -/
def rowsPassing? (x : SortedIndex (Option α)) (test : CellTest α) : Option (List Nat) :=
  let rows := match test with
    | .equal value => some (x.positionsOf (some value))
    | .above value => some (x.above (some value))
    | .below value => some ((x.below (some value)).drop (x.positionsOf none).length)
    | .between low high => some ((x.between? (some low) (some high)).getD [])
    | .isNull => some (x.positionsOf none)
    | .isNotNull => some (x.above none)
    | .notEqual _ => none
  rows.map fun rows => rows.mergeSort (· ≤ ·)

/-- The rows that satisfy a condition, ascending, from the index of column `indexed`. Only a test of
that column is answered. -/
def select? (x : SortedIndex (Option α)) (indexed : Nat) : Condition α → Option (List Nat)
  | .test column check => if column = indexed then x.rowsPassing? check else none
  | .all _ | .any _ => none

end SortedIndex

end Tabular
