import Tabular.Proofs.Store.Growth

/-!
# Removing and packing

A removal empties the backing row and gives its slot back, so that the rest of the invariant does
not notice it. Packing moves the backing rows along with the slots of the positions, so it changes
nothing that is seen, and the backing rows that it drops are empty.
-/

namespace Tabular.Cells

variable {α : Type u} {c d : Cells α} {rows columns : Nat}

open Axis (Move Separate)

/-! ## Performing the moves of a packing -/

/-- Exchanges of lines keep the shape, one after the other. -/
theorem Shaped.foldl_swapRows (h : c.Shaped rows columns) (moves : List Move)
    (inside : ∀ m ∈ moves, m.source < rows ∧ m.target < rows) :
    (moves.foldl (fun cells m => cells.swapRows m.source m.target) c).Shaped rows columns := by
  induction moves generalizing c with
  | nil => exact h
  | cons first rest ih =>
    obtain ⟨hs, ht⟩ := inside first List.mem_cons_self
    exact ih (h.swapRows hs ht) fun m mem => inside m (List.mem_cons_of_mem _ mem)

/-- A line that is neither source nor target of a move stays. -/
theorem Shaped.get_foldl_of_other (h : c.Shaped rows columns) {moves : List Move}
    (inside : ∀ m ∈ moves, m.source < rows ∧ m.target < rows) {x : Nat}
    (other : ∀ m ∈ moves, m.source ≠ x ∧ m.target ≠ x) (y : Nat) :
    (moves.foldl (fun cells m => cells.swapRows m.source m.target) c).get x y = c.get x y := by
  induction moves generalizing c with
  | nil => rfl
  | cons first rest ih =>
    obtain ⟨hs, ht⟩ := inside first List.mem_cons_self
    obtain ⟨notSource, notTarget⟩ := other first List.mem_cons_self
    rw [List.foldl_cons, ih (h.swapRows hs ht) (fun m mem => inside m (List.mem_cons_of_mem _ mem))
      fun m mem => other m (List.mem_cons_of_mem _ mem), h.get_swapRows hs ht]
    unfold exchanged
    rw [if_neg (Ne.symm notSource), if_neg (Ne.symm notTarget)]

/-- Each move exchanges its two lines, whatever the other moves do. -/
theorem Shaped.get_foldl_of_mem (h : c.Shaped rows columns) {moves : List Move}
    (inside : ∀ m ∈ moves, m.source < rows ∧ m.target < rows) (separate : Separate moves)
    {move : Move} (mem : move ∈ moves) (y : Nat) :
    (moves.foldl (fun cells m => cells.swapRows m.source m.target) c).get move.target y
        = c.get move.source y ∧
      (moves.foldl (fun cells m => cells.swapRows m.source m.target) c).get move.source y
        = c.get move.target y := by
  induction moves generalizing c with
  | nil => cases mem
  | cons first rest ih =>
    obtain ⟨hs, ht⟩ := inside first List.mem_cons_self
    have insideRest : ∀ m ∈ rest, m.source < rows ∧ m.target < rows := fun m mem =>
      inside m (List.mem_cons_of_mem _ mem)
    have swapped := h.swapRows hs ht
    have newSource : ∀ m ∈ rest, m.source ≠ first.source := fun m mem eq =>
      (List.nodup_cons.1 separate.sources).1 (eq ▸ List.mem_map_of_mem mem)
    have newTarget : ∀ m ∈ rest, m.target ≠ first.target := fun m mem eq =>
      (List.nodup_cons.1 separate.targets).1 (eq ▸ List.mem_map_of_mem mem)
    have apart := separate.source_ne_target first List.mem_cons_self first List.mem_cons_self
    have apart' : ∀ m ∈ rest, m.source ≠ first.target ∧ first.source ≠ m.target := fun m mem =>
      ⟨separate.source_ne_target m (List.mem_cons_of_mem _ mem) first List.mem_cons_self,
        separate.source_ne_target first List.mem_cons_self m (List.mem_cons_of_mem _ mem)⟩
    rw [List.foldl_cons]
    rcases List.mem_cons.1 mem with rfl | later
    -- The first move: no later one touches its two lines.
    · have otherTarget : ∀ m ∈ rest, m.source ≠ move.target ∧ m.target ≠ move.target :=
        fun m mem => ⟨(apart' m mem).1, newTarget m mem⟩
      have otherSource : ∀ m ∈ rest, m.source ≠ move.source ∧ m.target ≠ move.source :=
        fun m mem => ⟨newSource m mem, Ne.symm (apart' m mem).2⟩
      rw [swapped.get_foldl_of_other insideRest otherTarget,
        swapped.get_foldl_of_other insideRest otherSource, h.get_swapRows hs ht,
        h.get_swapRows hs ht]
      unfold exchanged
      rw [if_neg (Ne.symm apart), if_pos rfl, if_pos rfl]
      exact ⟨rfl, rfl⟩
    -- A later move: the first one does not touch its two lines.
    · obtain ⟨atTarget, atSource⟩ := ih swapped insideRest separate.tail later
      have sourceKept : exchanged first.source first.target move.source = move.source := by
        unfold exchanged
        rw [if_neg (newSource move later), if_neg (apart' move later).1]
      have targetKept : exchanged first.source first.target move.target = move.target := by
        unfold exchanged
        rw [if_neg (Ne.symm (apart' move later).2), if_neg (newTarget move later)]
      rw [atTarget, atSource, h.get_swapRows hs ht, h.get_swapRows hs ht, sourceKept, targetKept]
      exact ⟨rfl, rfl⟩

/-- The cells after some moves of their rows. -/
def moveRows (c : Cells α) (moves : List Move) : Cells α :=
  moves.foldl (fun cells m => cells.swapRows m.source m.target) c

/-- The cells after some moves of their columns. -/
def moveColumns (c : Cells α) (moves : List Move) : Cells α :=
  moves.foldl (fun cells m => cells.swapColumns m.source m.target) c

/-- The contents of an active slot are found where the slot is relocated to. -/
theorem Shaped.get_moveRows_relocate {a : Axis} (h : c.Shaped a.capacity columns)
    (assigned : a.Assigned) {r : Nat} (active : r ∈ a.active) (y : Nat) :
    (c.moveRows a.packingMoves).get (Axis.relocate a.packingMoves r) y = c.get r y := by
  by_cases lt : r < a.size
  -- A slot below the size that was in use already is not touched by a move.
  · rw [assigned.relocate_of_lt lt]
    refine h.get_foldl_of_other assigned.moves_lt (fun m mem => ⟨fun eq => ?_, fun eq => ?_⟩) y
    · have := (assigned.le_source mem).1
      omega
    · exact (assigned.target_lt mem).2 (eq ▸ active)
  · obtain ⟨m, mem, rfl, target⟩ := assigned.relocate_of_le (Nat.le_of_not_lt lt) active
    rw [target]
    exact (h.get_foldl_of_mem assigned.moves_lt assigned.separate mem y).1

/-- When the inactive lines are empty, then after the moves there is nothing from the size of the
axis on. -/
theorem Shaped.get_moveRows_of_le {a : Axis} (h : c.Shaped a.capacity columns)
    (assigned : a.Assigned) (empty : ∀ x, x ∉ a.active → ∀ y, c.get x y = none) {r : Nat}
    (le : a.size ≤ r) (y : Nat) : (c.moveRows a.packingMoves).get r y = none := by
  by_cases active : r ∈ a.active
  -- The slot is vacated: it now has what was on the inactive slot of its move.
  · obtain ⟨m, mem, rfl, -⟩ := assigned.relocate_of_le le active
    refine (h.get_foldl_of_mem assigned.moves_lt assigned.separate mem y).2.trans ?_
    exact empty m.target (assigned.target_lt mem).2 y
  · refine (h.get_foldl_of_other assigned.moves_lt (fun m mem => ⟨fun eq => ?_, fun eq => ?_⟩)
      y).trans (empty r active y)
    · exact active (eq ▸ (assigned.le_source mem).2)
    · have := (assigned.target_lt mem).1
      omega

/-- The same moves of columns and of rows keep two rectangles the mirror images of each other. -/
theorem foldl_swapColumns_mirror (h : c.Shaped rows columns) (h' : d.Shaped columns rows)
    (get : ∀ x y, d.get x y = c.get y x) (moves : List Move)
    (inside : ∀ m ∈ moves, m.source < columns ∧ m.target < columns) :
    (moves.foldl (fun cells m => cells.swapColumns m.source m.target) c).Shaped rows columns ∧
      ∀ x y, (moves.foldl (fun cells m => cells.swapRows m.source m.target) d).get x y
        = (moves.foldl (fun cells m => cells.swapColumns m.source m.target) c).get y x := by
  induction moves generalizing c d with
  | nil => exact ⟨h, get⟩
  | cons first rest ih =>
    obtain ⟨hs, ht⟩ := inside first List.mem_cons_self
    refine ih (h.swapColumns _ _) (h'.swapRows hs ht) (fun x y => ?_) fun m mem =>
      inside m (List.mem_cons_of_mem _ mem)
    rw [h'.get_swapRows hs ht, h.get_swapColumns hs ht, get]

end Tabular.Cells

namespace Tabular.Store

variable {α : Type u} {s t : Store α}

/-! ## Packing the rows -/

/-- The cells after the moves of a packing, before the far rows are dropped. -/
def movedCells (s : Store α) : Cells α :=
  s.rows.packingMoves.foldl (fun cells m => cells.swapRows m.source m.target) s.cells

/-- Moving the rows keeps the shape. -/
theorem WellFormed.shaped_movedCells (h : s.WellFormed) :
    s.movedCells.Shaped s.rows.capacity s.columns.capacity :=
  h.shaped.foldl_swapRows _ h.rows.assigned.moves_lt

/-- The contents of an active slot are found where the slot is relocated to. -/
theorem WellFormed.get_movedCells_relocate (h : s.WellFormed) {r : Nat} (active : r ∈ s.rows.active)
    (c : Nat) : s.movedCells.get (Axis.relocate s.rows.packingMoves r) c = s.cells.get r c :=
  h.shaped.get_moveRows_relocate h.rows.assigned active c

/-- After the moves there is nothing from the size of the axis on. -/
theorem WellFormed.get_movedCells_of_le (h : s.WellFormed) {r : Nat} (le : s.rows.size ≤ r)
    (c : Nat) : s.movedCells.get r c = none :=
  h.shaped.get_moveRows_of_le h.rows.assigned (fun x inactive y => h.dead x y (.inl inactive)) le c

/-- After the moves an inactive column is still empty. -/
theorem WellFormed.get_movedCells_of_inactive (h : s.WellFormed) {c : Nat}
    (inactive : c ∉ s.columns.active) (r : Nat) : s.movedCells.get r c = none := by
  by_cases lt : r < s.rows.size
  -- A slot below the size has the contents of an active slot, dead in this column.
  · have packed : r ∈ s.rows.pack.active := h.rows.assigned.mem_active_pack.2 lt
    rw [h.rows.pack.mem_active_iff, Axis.toList_slots_pack, List.mem_map] at packed
    obtain ⟨slot, mem, rfl⟩ := packed
    rw [h.get_movedCells_relocate ((h.rows.mem_active_iff slot).2 mem)]
    exact h.dead slot c (.inr inactive)
  · exact h.get_movedCells_of_le (Nat.le_of_not_lt lt) c

/-- Packing moves the rows to the lowest slots and drops the others. -/
theorem packRows_of_due (due : s.rows.packingDue = true) :
    s.packRows = { s with
      rows := s.rows.pack, cells := s.movedCells.takeRows s.rows.packedCapacity } := if_pos due

/-- Rows are left alone when packing would not lower their capacity. -/
theorem packRows_of_not_due (due : ¬ s.rows.packingDue = true) : s.packRows = s := if_neg due

/-- Packing changes nothing that is seen. -/
theorem WellFormed.holds_packRows (h : s.WellFormed) :
    s.packRows.Holds s.rowCount s.columnCount s.get? := by
  by_cases due : s.rows.packingDue = true
  · rw [packRows_of_due due]
    have kept : ∀ {r}, r < s.rows.size → r < s.rows.packedCapacity := fun lt =>
      Nat.lt_of_lt_of_le lt (Capacity.size_le_halved h.rows.size_le_capacity)
    have smaller : s.rows.packedCapacity ≤ s.rows.capacity := Capacity.halved_le _ _
    refine ⟨⟨h.rows.pack, h.columns, h.shaped_movedCells.takeRows smaller, ?_, h.initialRows,
      h.initialColumns⟩, Axis.size_pack s.rows, rfl, ?_⟩
    -- A cell that is dropped reads as empty, and the others are as the moves left them.
    · intro r c inactive
      show (s.movedCells.takeRows s.rows.packedCapacity).get r c = none
      rw [Cells.get_takeRows]
      split
      · rcases inactive with inactive | inactive
        · have le : s.rows.size ≤ r := Nat.le_of_not_lt fun lt =>
            inactive (h.rows.assigned.mem_active_pack.2 lt)
          exact h.get_movedCells_of_le le c
        · exact h.get_movedCells_of_inactive inactive r
      · rfl
    -- A position is now on the slot to which its contents were moved.
    · intro row column
      rw [get?_eq, get?_eq]
      show (s.rows.slots.map (Axis.relocate s.rows.packingMoves))[row]?.bind _ = _
      rw [Array.getElem?_map]
      cases found : s.rows.slots[row]? with
      | none => rfl
      | some r =>
        have active := h.rows.active_of_found found
        rw [Option.map_some, Option.bind_some, Option.bind_some]
        unfold lineAt
        congr 1
        funext c
        show (s.movedCells.takeRows s.rows.packedCapacity).get _ c = _
        rw [Cells.get_takeRows, if_pos (kept (h.rows.assigned.relocate_lt active)),
          h.get_movedCells_relocate active]
  · rw [packRows_of_not_due due]
    exact h.holds

/-! ## Removing a row -/

/-- The store after a row is emptied and its slot given back, before packing. -/
def withoutRow (s : Store α) (row r : Nat) : Store α :=
  { s with
    cells := s.columns.slots.foldl (fun cells c => cells.put r c none) s.cells
    rows := s.rows.remove row }

/-- A row that is there is returned and taken out, and then the rows are packed. -/
theorem removeRow_of_found {row r : Nat} (found : s.rows.slots[row]? = some r) :
    s.removeRow row = (s.row? row, (s.withoutRow row r).packRows) := by
  unfold removeRow row? withoutRow
  rw [found]
  rfl

/-- Outside the store nothing is removed. -/
theorem removeRow_of_outside {row : Nat} (outside : s.rowCount ≤ row) :
    s.removeRow row = (none, s) := by
  unfold removeRow
  rw [Array.getElem?_eq_none outside]

/-- The cells of a row are within the rectangle. -/
theorem WellFormed.inside_of_row (h : s.WellFormed) {row r : Nat}
    (found : s.rows.slots[row]? = some r) :
    ∀ k ∈ s.columns.slots.toList.map (fun c => (r, c)),
      k.1 < s.rows.capacity ∧ k.2 < s.columns.capacity := by
  intro k mem
  obtain ⟨c, slot, rfl⟩ := List.mem_map.1 mem
  have lt := h.columns.lt_highWater slot
  have le := h.columns.highWater_le
  exact ⟨h.rows.lt_capacity found, by omega⟩

/-- The cells of a column are within the rectangle. -/
theorem WellFormed.inside_of_column (h : s.WellFormed) {column c : Nat}
    (found : s.columns.slots[column]? = some c) :
    ∀ k ∈ s.rows.slots.toList.map (fun r => (r, c)),
      k.1 < s.rows.capacity ∧ k.2 < s.columns.capacity := by
  intro k mem
  obtain ⟨r, slot, rfl⟩ := List.mem_map.1 mem
  have lt := h.rows.lt_highWater slot
  have le := h.rows.highWater_le
  exact ⟨by omega, h.columns.lt_capacity found⟩

/-- Emptying the active columns of a row empties the whole backing row. -/
theorem WellFormed.emptied (h : s.WellFormed) {row r : Nat} (found : s.rows.slots[row]? = some r) :
    (s.columns.slots.foldl (fun cells c => cells.put r c none) s.cells).Shaped s.rows.capacity
        s.columns.capacity ∧
      ∀ x y, (s.columns.slots.foldl (fun cells c => cells.put r c none) s.cells).get x y
        = if x = r then none else s.cells.get x y := by
  obtain ⟨shaped, get⟩ := h.shaped.foldl_put _ (h.inside_of_row found)
  rw [List.foldl_map, Array.foldl_toList] at shaped
  rw [List.foldl_map, Array.foldl_toList] at get
  refine ⟨shaped, fun x y => (get x y).trans ?_⟩
  by_cases same : x = r
  · subst same
    rw [if_pos rfl]
    split
    · rfl
    -- An inactive column is empty already.
    · next notMem =>
      refine h.dead x y (.inr fun active => notMem ?_)
      exact List.mem_map.2 ⟨y, (h.columns.mem_active_iff y).1 active, rfl⟩
  · rw [if_neg same, if_neg]
    intro mem
    obtain ⟨c, -, eq⟩ := List.mem_map.1 mem
    exact same (congrArg Prod.fst eq).symm

/-- A removed row is gone, and the rows behind it have moved down. -/
theorem WellFormed.holds_withoutRow (h : s.WellFormed) {row r : Nat}
    (found : s.rows.slots[row]? = some r) :
    (s.withoutRow row r).Holds (s.rowCount - 1) s.columnCount
      (Content.removeRow row s.get?) := by
  obtain ⟨shaped, get⟩ := h.emptied found
  have removed := h.rows.removes_remove found
  -- No other position is on the emptied slot.
  have other : ∀ k, k ≠ row → ∀ column,
      (s.rows.slots[k]?.bind fun x => (s.withoutRow row r).lineAt x column)
        = s.rows.slots[k]?.bind fun x => s.lineAt x column := by
    intro k ne column
    cases at_k : s.rows.slots[k]? with
    | none => rfl
    | some x =>
      have apart : x ≠ r := by
        rintro rfl
        exact ne (h.rows.position_inj at_k found)
      rw [Option.bind_some, Option.bind_some]
      unfold lineAt
      congr 1
      funext c
      exact (get x c).trans (if_neg apart)
  refine ⟨⟨removed.wellFormed, h.columns, removed.capacity ▸ shaped, ?_, h.initialRows,
    h.initialColumns⟩, removed.size found, rfl, ?_⟩
  · intro x y inactive
    refine (get x y).trans ?_
    split
    · rfl
    · next other =>
      refine h.dead x y (inactive.imp_left fun notActive active => notActive ?_)
      exact (removed.mem_active_iff x).2 ⟨other, active⟩
  · intro k column
    rw [get?_eq]
    show (s.rows.remove row).slots[k]?.bind _ = _
    rw [removed.getElem?]
    unfold Content.removeRow
    split
    · rw [get?_eq]
      exact other k (by omega) column
    · rw [get?_eq]
      exact other (k + 1) (by omega) column

/-- A removal answers the cells of the row. -/
theorem fst_removeRow (s : Store α) (row : Nat) : (s.removeRow row).1 = s.row? row := by
  unfold removeRow row?
  cases s.rows.slots[row]? <;> rfl

/-- A row of the store is removed with its cells, whatever the packing does. -/
theorem WellFormed.removeRow_spec (h : s.WellFormed) {row : Nat} (inside : row < s.rowCount) :
    (s.removeRow row).2.Holds (s.rowCount - 1) s.columnCount (Content.removeRow row s.get?) := by
  obtain ⟨r, found⟩ := s.rows.exists_found inside
  have holds := h.holds_withoutRow found
  have packed := holds.wellFormed.holds_packRows
  rw [holds.rowCount, holds.columnCount, holds.content_eq] at packed
  rw [removeRow_of_found found]
  exact packed

/-- A store stays well formed when a row is removed, whether or not it is there. -/
theorem WellFormed.removeRow (h : s.WellFormed) (row : Nat) : (s.removeRow row).2.WellFormed := by
  by_cases inside : row < s.rowCount
  · exact (h.removeRow_spec inside).wellFormed
  · rw [removeRow_of_outside (Nat.le_of_not_lt inside)]
    exact h

/-! ## Removing a column -/

/-- Packing the columns is packing the rows of the mirror image. -/
theorem Mirrors.packRows (m : s.Mirrors t) (h : s.WellFormed) :
    s.packColumns.Mirrors t.packRows := by
  unfold Store.packRows packColumns
  rw [m.rows]
  split
  · have smaller : s.columns.packedCapacity ≤ s.columns.capacity := Capacity.halved_le _ _
    have shaped' : t.cells.Shaped s.columns.capacity s.rows.capacity := by
      rw [← m.rows, ← m.columns]
      exact m.shaped'
    obtain ⟨shaped, get⟩ := Cells.foldl_swapColumns_mirror m.shaped shaped' m.get
      s.columns.packingMoves h.columns.assigned.moves_lt
    have shapedRows := (shaped'.foldl_swapRows _ h.columns.assigned.moves_lt).takeRows smaller
    refine ⟨rfl, m.columns, m.initialRows, m.initialColumns, shaped.takeColumns smaller,
      m.columns ▸ shapedRows, fun r c => ?_⟩
    -- The same lines are kept on both sides, and the moved cells are mirror images already.
    refine (Cells.get_takeRows _ _ _ _).trans (Eq.trans ?_ (Cells.get_takeColumns _ _ _ _).symm)
    rw [get]
  · exact m

/-- The store after a column is emptied and its slot given back, before packing. -/
def withoutColumn (s : Store α) (column c : Nat) : Store α :=
  { s with
    cells := s.rows.slots.foldl (fun cells r => cells.put r c none) s.cells
    columns := s.columns.remove column }

/-- Emptying a column is emptying a row of the mirror image. -/
theorem Mirrors.withoutRow (m : s.Mirrors t) (h : s.WellFormed) {column c : Nat}
    (found : s.columns.slots[column]? = some c) :
    (s.withoutColumn column c).Mirrors (t.withoutRow column c) := by
  have inside := h.inside_of_column found
  -- The shape of the mirror image comes from its own removal, the contents from emptying cells
  -- with exchanged coordinates.
  have emptied := ((m.wellFormed h).holds_withoutRow (m.rows ▸ found)).wellFormed
  have shaped := (h.shaped.foldl_put _ inside).1
  have shaped' : t.cells.Shaped s.columns.capacity s.rows.capacity := by
    rw [← m.rows, ← m.columns]
    exact m.shaped'
  have get := Cells.foldl_put_swap h.shaped shaped' m.get _ inside
  rw [List.map_map] at get
  simp only [List.foldl_map, Array.foldl_toList] at shaped get
  have removed := h.columns.removes_remove found
  refine ⟨by rw [Store.withoutRow, m.rows, withoutColumn], m.columns, m.initialRows,
    m.initialColumns, removed.capacity ▸ shaped, emptied.shaped, fun x y => ?_⟩
  unfold Store.withoutRow withoutColumn
  rw [m.columns]
  exact get x y

/-- A store stays well formed when a column is taken out. -/
theorem WellFormed.wellFormed_withoutColumn (h : s.WellFormed) {column c : Nat}
    (found : s.columns.slots[column]? = some c) : (s.withoutColumn column c).WellFormed := by
  have m := h.mirrors
  have emptied := ((m.wellFormed h).holds_withoutRow (m.rows ▸ found)).wellFormed
  exact (m.withoutRow h found).symm.wellFormed emptied

/-- A removal answers the cells of the column. -/
theorem fst_removeColumn (s : Store α) (column : Nat) :
    (s.removeColumn column).1 = s.column? column := by
  unfold removeColumn column?
  cases s.columns.slots[column]? <;> rfl

/-- Removing a column is removing a row of the mirror image. -/
theorem Mirrors.removeRow (m : s.Mirrors t) (h : s.WellFormed) (column : Nat) :
    (t.removeRow column).1 = (s.removeColumn column).1 ∧
      (s.removeColumn column).2.Mirrors (t.removeRow column).2 := by
  refine ⟨by rw [fst_removeRow, fst_removeColumn, m.row?], ?_⟩
  unfold removeColumn
  cases found : s.columns.slots[column]? with
  | none =>
    rw [removeRow_of_outside (by rw [m.rowCount]; exact Array.getElem?_eq_none_iff.1 found)]
    exact m
  | some c =>
    rw [removeRow_of_found (m.rows ▸ found)]
    exact (m.withoutRow h found).packRows (h.wellFormed_withoutColumn found)

/-- A store stays well formed when a column is removed, whether or not it is there. -/
theorem WellFormed.removeColumn (h : s.WellFormed) (column : Nat) :
    (s.removeColumn column).2.WellFormed :=
  (h.mirrors.removeRow h column).2.symm.wellFormed ((h.mirrors.wellFormed h).removeRow column)

/-- Outside the store nothing is removed. -/
theorem removeColumn_of_outside {column : Nat} (outside : s.columnCount ≤ column) :
    s.removeColumn column = (none, s) := by
  unfold removeColumn
  rw [Array.getElem?_eq_none (show s.columns.slots.size ≤ column from outside)]

/-- A column of the store is removed with its cells, whatever the packing does. -/
theorem WellFormed.removeColumn_spec (h : s.WellFormed) {column : Nat}
    (inside : column < s.columnCount) :
    (s.removeColumn column).2.Holds s.rowCount (s.columnCount - 1)
      (Content.removeRow column (Content.flip s.get?)).flip := by
  have m := h.mirrors
  have holds := (m.wellFormed h).removeRow_spec (by rwa [m.rowCount])
  rw [m.rowCount, m.columnCount, m.content] at holds
  exact (m.removeRow h column).2.holds holds

end Tabular.Store
