import Tabular.Proofs.Store.CapacityLaw
import Tabular.Proofs.Store.PackingLoop

/-!
# What packing costs

A packing can move many slots at once, but only after as many lines were removed. The edits are
written again with packing as the loop that tells the holder of the slots every move, and each call
is logged with its axis. The log of a run has, for either axis, at most one call for each removal
that found a line there (`run_calls_le_removals`).

The released slots of an axis are what pays: a removal releases one slot and nothing else releases
any, while packing makes at most one call for each released slot and leaves none of them.
-/

namespace Tabular

namespace Axis

variable {a : Axis}

/-- Packing fills released slots only, each of them once. -/
theorem Assigned.length_packingMoves_le (h : a.Assigned) :
    a.packingMoves.length ≤ a.released.size := by
  have sub : a.packingMoves.map Move.target ⊆ a.released.toList := by
    intro slot mem
    obtain ⟨move, made, rfl⟩ := List.mem_map.1 mem
    obtain ⟨lt, inactive⟩ := h.target_lt made
    have below : move.target < a.highWater := Nat.lt_of_lt_of_le lt h.size_le_highWater
    exact Std.TreeSet.mem_toList.2 (((h.lt_highWater_iff _).1 below).resolve_left inactive)
  have le := (List.subperm_of_subset h.separate.targets sub).length_le
  rwa [List.length_map, Std.TreeSet.length_toList] at le

/-- A removal releases one slot at most. -/
theorem size_released_remove_le (a : Axis) (position : Nat) :
    (a.remove position).released.size ≤ a.released.size + 1 := by
  unfold remove
  split
  · exact Nat.le_succ _
  · unfold release
    dsimp only
    split
    · exact Std.TreeSet.size_insert_le
    · exact Nat.le_succ _

end Axis

namespace Store

variable {α : Type} {s : Store α}

/-! ## Logged edits -/

/-- The number of calls that were made on an axis. -/
def callCount (line : Line) (calls : List (Line × Axis.Move)) : Nat :=
  calls.countP fun call => call.1 = line

/-- Makes a move of backing lines and logs it. -/
def logged (line : Line) (swap : Cells α → Axis.Move → Except Fault (Cells α))
    (state : List (Line × Axis.Move) × Cells α) (move : Axis.Move) :
    Except Fault (List (Line × Axis.Move) × Cells α) := do
  let cells ← swap state.2 move
  return (state.1 ++ [(line, move)], cells)

/-- Packs the rows when that lowers their capacity, move by move. -/
def packRowsLogged (s : Store α) : Except Fault (List (Line × Axis.Move) × Store α) :=
  if s.rows.packingDue then do
    let target := s.rows.packedCapacity
    let ((calls, cells), rows) ← s.rows.packLow (logged .row Cells.swapRowsChecked) ([], s.cells)
    return (calls, { s with
      rows := { rows with capacity := target }, cells := cells.takeRows target })
  else .ok ([], s)

/-- Packs the columns when that lowers their capacity, move by move. -/
def packColumnsLogged (s : Store α) : Except Fault (List (Line × Axis.Move) × Store α) :=
  if s.columns.packingDue then do
    let target := s.columns.packedCapacity
    let ((calls, cells), columns) ←
      s.columns.packLow (logged .column Cells.swapColumnsChecked) ([], s.cells)
    return (calls, { s with
      columns := { columns with capacity := target }, cells := cells.takeColumns target })
  else .ok ([], s)

/-- Performs an edit with its calls logged. Only a removal packs. -/
def applyLogged (s : Store α) : Edit α → Except Fault (List (Line × Axis.Move) × Store α)
  | .removeRow row =>
    match s.rows.slots[row]? with
    | none => .ok ([], s)
    | some r => (s.withoutRow row r).packRowsLogged
  | .removeColumn column =>
    match s.columns.slots[column]? with
    | none => .ok ([], s)
    | some c => (s.withoutColumn column c).packColumnsLogged
  | e => .ok ([], (s.apply e).2)

/-- Performs a list of edits with all their calls logged. -/
def runLogged (s : Store α) : List (Edit α) → Except Fault (List (Line × Axis.Move) × Store α)
  | [] => .ok ([], s)
  | e :: edits => do
    let (calls, s) ← s.applyLogged e
    let (later, s) ← runLogged s edits
    return (calls ++ later, s)

instance (answer : Edit.Answer α) : Decidable (∃ cells, answer = .line (some cells)) :=
  match answer with
  | .line (some cells) => .isTrue ⟨cells, rfl⟩
  | .line none => .isFalse fun ⟨_, eq⟩ => nomatch eq
  | .position _ => .isFalse fun ⟨_, eq⟩ => nomatch eq
  | .content _ => .isFalse fun ⟨_, eq⟩ => nomatch eq
  | .done => .isFalse fun ⟨_, eq⟩ => nomatch eq

instance (s : Store α) (e : Edit α) (line : Line) : Decidable (s.Removes e line) :=
  inferInstanceAs (Decidable (_ ∧ ∃ cells, (s.apply e).1 = .line (some cells)))

/-- The number of edits of a run that remove a line of an axis and answer what it held. -/
def removals (line : Line) (s : Store α) : List (Edit α) → Nat
  | [] => 0
  | e :: edits => (if s.Removes e line then 1 else 0) + removals line (s.apply e).2 edits

/-! ## What calls cost -/

/-- From one state of a store to another, the calls on an axis and the slots that are released at
the end are together no more than the slots that were released at the beginning and a credit. -/
def Spends (s t : Store α) (credit : Line → Nat) (calls : List (Line × Axis.Move)) : Prop :=
  ∀ line, callCount line calls + (t.axis line).released.size ≤
    (s.axis line).released.size + credit line

/-- What the first part leaves released is what the second part begins with. -/
theorem Spends.append {t u : Store α} {credit credit' : Line → Nat}
    {calls later : List (Line × Axis.Move)} (first : Spends s t credit calls)
    (second : Spends t u credit' later) :
    Spends s u (fun line => credit line + credit' line) (calls ++ later) := by
  intro line
  have count : callCount line (calls ++ later) = callCount line calls + callCount line later :=
    List.countP_append
  have := first line
  have := second line
  dsimp only
  omega

/-- Without calls it is enough that no slot is released. -/
theorem spends_nil {t : Store α} (credit : Line → Nat)
    (le : ∀ line, (t.axis line).released.size ≤ (s.axis line).released.size) :
    Spends s t credit [] := by
  intro line
  rw [show callCount line [] = 0 from rfl, Nat.zero_add]
  exact Nat.le_trans (le line) (Nat.le_add_right _ _)

/-- The moves of one axis are calls of this axis only. -/
theorem callCount_map (line other : Line) (moves : List Axis.Move) :
    callCount line (moves.map (Prod.mk other)) = if other = line then moves.length else 0 := by
  unfold callCount
  rw [List.countP_map]
  split
  · next same => exact List.countP_eq_length.2 fun _ _ => by simp [same]
  · next ne => exact List.countP_eq_zero.2 fun _ _ => by simp [ne]

/-! ## Packing -/

/-- The log has one call for each move. -/
theorem foldlM_logged (line : Line) (swap : Cells α → Axis.Move → Except Fault (Cells α))
    (moves : List Axis.Move) (calls : List (Line × Axis.Move)) (cells : Cells α) :
    moves.foldlM (logged line swap) (calls, cells) =
      (moves.foldlM swap cells).map fun cells => (calls ++ moves.map (Prod.mk line), cells) := by
  induction moves generalizing calls cells with
  | nil =>
    rw [List.map_nil, List.append_nil]
    rfl
  | cons first rest ih =>
    rw [List.foldlM_cons, List.foldlM_cons, logged]
    cases swap cells first with
    | error fault => rfl
    | ok cells' =>
      refine (ih _ cells').trans ?_
      rw [List.append_assoc]
      rfl

/-- Packing the rows finds no fault, and it makes no more calls than it takes released slots. -/
theorem WellFormed.packRowsLogged (h : s.WellFormed) :
    ∃ calls, s.packRowsLogged = .ok (calls, s.packRows) ∧
      Spends s s.packRows (fun _ => 0) calls := by
  unfold Store.packRowsLogged packRows
  split
  · refine ⟨s.rows.packingMoves.map (Prod.mk .row), ?_, fun line => ?_⟩
    · dsimp only
      rw [h.rows.assigned.packLow_eq, foldlM_logged,
        h.shaped.foldlM_swapRowsChecked h.rows.assigned.moves_lt]
      rfl
    · rw [callCount_map]
      cases line with
      | row => exact h.rows.assigned.length_packingMoves_le
      | column => exact Nat.le_of_eq (Nat.zero_add _)
  · exact ⟨[], rfl, spends_nil _ fun _ => Nat.le_refl _⟩

/-- Packing the columns finds no fault either, and it makes no more calls than it takes released
slots. -/
theorem WellFormed.packColumnsLogged (h : s.WellFormed) :
    ∃ calls, s.packColumnsLogged = .ok (calls, s.packColumns) ∧
      Spends s s.packColumns (fun _ => 0) calls := by
  unfold Store.packColumnsLogged packColumns
  split
  · refine ⟨s.columns.packingMoves.map (Prod.mk .column), ?_, fun line => ?_⟩
    · dsimp only
      rw [h.columns.assigned.packLow_eq, foldlM_logged,
        h.shaped.foldlM_swapColumnsChecked h.columns.assigned.moves_lt]
      rfl
    · rw [callCount_map]
      cases line with
      | row => exact Nat.le_of_eq (Nat.zero_add _)
      | column => exact h.columns.assigned.length_packingMoves_le
  · exact ⟨[], rfl, spends_nil _ fun _ => Nat.le_refl _⟩

/-! ## Edits -/

/-- The credit that an edit earns: one for a line that it removes. -/
def earned (s : Store α) (e : Edit α) (line : Line) : Nat := if s.Removes e line then 1 else 0

/-- Taking a row out releases one slot, which is paid for by the credit of the removal. -/
theorem spends_withoutRow {row r : Nat} (found : s.rows.slots[row]? = some r) :
    Spends s (s.withoutRow row r) (s.earned (.removeRow row)) [] := by
  intro line
  refine Nat.le_trans (Nat.le_of_eq (Nat.zero_add _)) ?_
  cases line with
  | row =>
    rw [earned, if_pos (removes_removeRow found)]
    exact s.rows.size_released_remove_le row
  | column => exact Nat.le_add_right _ _

/-- Taking a column out releases one slot, which is paid for by the credit of the removal. -/
theorem spends_withoutColumn {column c : Nat} (found : s.columns.slots[column]? = some c) :
    Spends s (s.withoutColumn column c) (s.earned (.removeColumn column)) [] := by
  intro line
  refine Nat.le_trans (Nat.le_of_eq (Nat.zero_add _)) ?_
  cases line with
  | row => exact Nat.le_add_right _ _
  | column =>
    rw [earned, if_pos (removes_removeColumn found)]
    exact s.columns.size_released_remove_le column

/-- A removal releases the slot that its packing may then take. -/
theorem WellFormed.applyLogged_removeRow (h : s.WellFormed) (row : Nat) :
    ∃ calls, s.applyLogged (.removeRow row) = .ok (calls, (s.removeRow row).2) ∧
      Spends s (s.removeRow row).2 (s.earned (.removeRow row)) calls := by
  unfold Store.applyLogged
  dsimp only
  cases found : s.rows.slots[row]? with
  | none =>
    rw [removeRow_of_outside (Array.getElem?_eq_none_iff.1 found)]
    exact ⟨[], rfl, spends_nil _ fun _ => Nat.le_refl _⟩
  | some r =>
    obtain ⟨calls, packed, spends⟩ := (h.holds_withoutRow found).wellFormed.packRowsLogged
    rw [removeRow_of_found found]
    exact ⟨calls, packed, (spends_withoutRow found).append spends⟩

/-- The removal of a column releases the slot that its packing may then take. -/
theorem WellFormed.applyLogged_removeColumn (h : s.WellFormed) (column : Nat) :
    ∃ calls, s.applyLogged (.removeColumn column) = .ok (calls, (s.removeColumn column).2) ∧
      Spends s (s.removeColumn column).2 (s.earned (.removeColumn column)) calls := by
  unfold Store.applyLogged
  dsimp only
  cases found : s.columns.slots[column]? with
  | none =>
    rw [removeColumn_of_outside (Array.getElem?_eq_none_iff.1 found)]
    exact ⟨[], rfl, spends_nil _ fun _ => Nat.le_refl _⟩
  | some c =>
    obtain ⟨calls, packed, spends⟩ := (h.wellFormed_withoutColumn found).packColumnsLogged
    have removed : (s.removeColumn column).2 = (s.withoutColumn column c).packColumns := by
      rw [Store.removeColumn, found]
      rfl
    rw [removed]
    exact ⟨calls, packed, (spends_withoutColumn found).append spends⟩

/-- Logging an edit finds no fault and changes nothing of what it does. Its calls are paid for by
released slots and by what it earns. -/
theorem WellFormed.applyLogged (h : s.WellFormed) (e : Edit α) :
    ∃ calls, s.applyLogged e = .ok (calls, (s.apply e).2) ∧
      Spends s (s.apply e).2 (s.earned e) calls := by
  have grown : ∀ e : Edit α, e ≠ .clear → e.removal? = none →
      Spends s (s.apply e).2 (s.earned e) [] := fun e notClear none =>
    spends_nil _ fun line => ((h.grown_apply notClear none).axis line).released_le
  cases e with
  | removeRow row => exact h.applyLogged_removeRow row
  | removeColumn column => exact h.applyLogged_removeColumn column
  | clear => exact ⟨[], rfl, spends_nil _ fun line => by cases line <;> exact Nat.zero_le _⟩
  | _ => exact ⟨[], rfl, grown _ (by nofun) rfl⟩

/-- The calls of a run are paid for by released slots and by what its edits earn. -/
theorem WellFormed.runLogged (h : s.WellFormed) (edits : List (Edit α)) :
    ∃ calls, s.runLogged edits = .ok (calls, s.run edits) ∧
      Spends s (s.run edits) (fun line => removals line s edits) calls := by
  induction edits generalizing s with
  | nil => exact ⟨[], rfl, spends_nil _ fun _ => Nat.le_refl _⟩
  | cons e edits ih =>
    obtain ⟨calls, applied, first⟩ := h.applyLogged e
    obtain ⟨later, followed, second⟩ := ih (h.apply e)
    refine ⟨calls ++ later, ?_, first.append second⟩
    rw [Store.runLogged, applied]
    show (do
      let (later, s) ← (s.apply e).2.runLogged edits
      return (calls ++ later, s)) = _
    rw [followed]
    rfl

/-! ## Runs from an empty store -/

/-- In a run from an empty store with capacities up to `maxSlots` packing never fails, and the calls
it makes on an axis are, over the whole run, at most as many as the removals that found a line of
this axis. -/
theorem run_calls_le_removals {rows columns : Nat} (hr : rows ≤ Capacity.maxSlots)
    (hc : columns ≤ Capacity.maxSlots) (edits : List (Edit α)) :
    let start : Store α := withCapacity rows columns
    ∃ calls, start.runLogged edits = .ok (calls, start.run edits) ∧
      ∀ line, callCount line calls ≤ removals line start edits := by
  intro start
  obtain ⟨calls, logged, spends⟩ := (wellFormed_withCapacity (α := α) hr hc).runLogged edits
  refine ⟨calls, logged, fun line => ?_⟩
  -- At the start nothing is released, so the whole run is paid for by what it earns.
  have none : (start.axis line).released.size = 0 := by cases line <;> rfl
  have le := spends line
  rw [none, Nat.zero_add] at le
  exact Nat.le_trans (Nat.le_add_right _ _) le

/-- Five rows, then three removals of which one finds nothing. -/
def decline : List (Edit Nat) :=
  [.addRow [0], .addRow [1], .addRow [2], .addRow [3], .addRow [4], .removeRow 0, .removeRow 9,
    .removeRow 0]

/-- Of the three removals two find a row, so packing makes at most two calls on the rows. -/
theorem run_calls_le_removals_decline :
    let start : Store Nat := withCapacity 16 1
    (16 ≤ Capacity.maxSlots ∧ 1 ≤ Capacity.maxSlots) ∧ removals .row start decline = 2 ∧
      ∃ calls, start.runLogged decline = .ok (calls, start.run decline) ∧
        callCount .row calls ≤ 2 ∧ callCount .column calls ≤ removals .column start decline := by
  intro start
  have hr : 16 ≤ Capacity.maxSlots := by decide
  have hc : 1 ≤ Capacity.maxSlots := by decide
  have two : removals .row start decline = 2 := by
    unfold start decline
    cbv
  obtain ⟨calls, logged, paid⟩ := run_calls_le_removals hr hc decline
  refine ⟨⟨hr, hc⟩, two, calls, logged, ?_, paid .column⟩
  rw [← two]
  exact paid .row

end Store

end Tabular
