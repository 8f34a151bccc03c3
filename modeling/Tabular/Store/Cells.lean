/-!
# Backing cells

The rectangle of cells behind a store, addressed by the slots of a row and a column. Lines of empty
cells are added at the far ends, lines are swapped when slots are packed, and the far lines are
dropped when a capacity shrinks.
-/

namespace Tabular

/-- Cells by row slot and column slot. -/
structure Cells (α : Type u) where
  lines : Array (Array (Option α))

namespace Cells

variable {α : Type u}

/-- Empty cells. -/
def blank (rows columns : Nat) : Cells α := ⟨.replicate rows (.replicate columns none)⟩

/-- The content of a cell. There is none outside the rectangle. -/
def get (c : Cells α) (row column : Nat) : Option α :=
  match c.lines[row]? with
  | none => none
  | some cells => cells[column]?.join

/-- Replaces the content of a cell. -/
def put (c : Cells α) (row column : Nat) (content : Option α) : Cells α :=
  ⟨c.lines.modify row fun line => line.setIfInBounds column content⟩

/-- A blank rectangle holds nothing. -/
@[simp] theorem get_blank (rows columns row column : Nat) :
    (blank rows columns : Cells α).get row column = none := by
  simp only [get, blank, Array.getElem?_replicate]
  split
  · rfl
  · next h =>
    split at h
    · cases h
      rw [Array.getElem?_replicate]
      split <;> rfl
    · cases h

/-- Whether a cell is within the rectangle. -/
def Within (c : Cells α) (row column : Nat) : Prop :=
  ∃ line, c.lines[row]? = some line ∧ column < line.size

/-- A write is read back at its own cell. -/
theorem get_put_self {c : Cells α} {row column : Nat} (within : c.Within row column)
    (content : Option α) : (c.put row column content).get row column = content := by
  obtain ⟨line, found, inside⟩ := within
  simp [get, put, Array.getElem?_modify, found, inside]

/-- A write leaves every other cell alone. -/
theorem get_put_of_ne {c : Cells α} {row column i j : Nat} (other : row ≠ i ∨ column ≠ j)
    (content : Option α) : (c.put row column content).get i j = c.get i j := by
  simp only [get, put, Array.getElem?_modify]
  by_cases same : row = i
  · subst same
    have ne : column ≠ j := by simpa using other
    cases c.lines[row]? with
    | none => simp
    | some line => simp [ne]
  · simp [same]

/-- Adds empty rows of `columns` cells until there are `rows`. -/
def growRows (c : Cells α) (rows columns : Nat) : Cells α :=
  ⟨c.lines ++ Array.replicate (rows - c.lines.size) (.replicate columns none)⟩

/-- Adds empty cells to every row until it has `columns`. -/
def growColumns (c : Cells α) (columns : Nat) : Cells α :=
  ⟨c.lines.map fun line => line ++ Array.replicate (columns - line.size) none⟩

/-- Exchanges two rows. -/
def swapRows (c : Cells α) (i j : Nat) : Cells α := ⟨c.lines.swapIfInBounds i j⟩

/-- Exchanges two columns. -/
def swapColumns (c : Cells α) (i j : Nat) : Cells α := ⟨c.lines.map (·.swapIfInBounds i j)⟩

/-- Keeps the first rows only. -/
def takeRows (c : Cells α) (rows : Nat) : Cells α := ⟨c.lines.take rows⟩

/-- Keeps the first cells of every row only. -/
def takeColumns (c : Cells α) (columns : Nat) : Cells α := ⟨c.lines.map (·.take columns)⟩

end Cells

end Tabular
