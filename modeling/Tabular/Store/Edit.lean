import Tabular.Grid
import Tabular.Store.Basic

/-!
# Edits

The edits of a store as data, with what each answers, and their effect on a store and on a dense
grid. A run is a list of edits, performed in order.
-/

namespace Tabular

/-- An edit of a store. -/
inductive Edit (α : Type u)
  | addRow (values : List α)
  | addColumn (values : List α)
  | insertRow (row : Nat) (values : List α)
  | insertColumn (column : Nat) (values : List α)
  | set (row column : Nat) (value : α)
  | unset (row column : Nat)
  | removeRow (row : Nat)
  | removeColumn (column : Nat)
  | clear
deriving Repr, DecidableEq

/-- What an edit answers. -/
inductive Edit.Answer (α : Type u)
  /-- The position of a new line, if it was made. -/
  | position (position : Option Nat)
  /-- What the cell held. -/
  | content (content : Option α)
  /-- The cells of the removed line, if there was one. -/
  | line (cells : Option (List (Option α)))
  | done
deriving Repr, DecidableEq

namespace Edit

variable {α : Type u}

/-- The edit with rows and columns exchanged. -/
def transpose : Edit α → Edit α
  | addRow values => addColumn values
  | addColumn values => addRow values
  | insertRow row values => insertColumn row values
  | insertColumn column values => insertRow column values
  | set row column value => set column row value
  | unset row column => unset column row
  | removeRow row => removeColumn row
  | removeColumn column => removeRow column
  | clear => clear

end Edit

namespace Store

variable {α : Type u}

/-- Performs an edit. -/
def apply (s : Store α) : Edit α → Edit.Answer α × Store α
  | .addRow values => (s.addRow values).map .position id
  | .addColumn values => (s.addColumn values).map .position id
  | .insertRow row values => (s.insertRow row values).map .position id
  | .insertColumn column values => (s.insertColumn column values).map .position id
  | .set row column value => (s.set row column value).map .content id
  | .unset row column => (s.unset row column).map .content id
  | .removeRow row => (s.removeRow row).map .line id
  | .removeColumn column => (s.removeColumn column).map .line id
  | .clear => (.done, s.clear)

/-- The store after a list of edits. -/
def run (s : Store α) (edits : List (Edit α)) : Store α :=
  edits.foldl (fun s edit => (s.apply edit).2) s

end Store

namespace Grid

variable {α : Type u}

/-- Performs an edit. -/
def apply (g : Grid α) : Edit α → Edit.Answer α × Grid α
  | .addRow values => (.position (some g.rowCount), g.insertRow g.rowCount values)
  | .addColumn values => (.position (some g.columnCount), g.insertColumn g.columnCount values)
  | .insertRow row values => (.position (some row), g.insertRow row values)
  | .insertColumn column values => (.position (some column), g.insertColumn column values)
  | .set row column value => (g.set row column value).map .content id
  | .unset row column => (g.unset row column).map .content id
  | .removeRow row => (g.removeRow row).map .line id
  | .removeColumn column => (g.removeColumn column).map .line id
  | .clear => (.done, empty)

/-- The grid after a list of edits. -/
def run (g : Grid α) (edits : List (Edit α)) : Grid α :=
  edits.foldl (fun g edit => (g.apply edit).2) g

end Grid

end Tabular
