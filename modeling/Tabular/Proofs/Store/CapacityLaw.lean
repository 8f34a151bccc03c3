import Tabular.Proofs.Store.Run
import Tabular.Table.Error

/-!
# How capacities change

An edit that adds lines keeps the capacity of an axis while the lines fit and doubles it until they
do. `Axis.Grown` says this of one axis and `Store.Grown` of both. The steps of an edit can be put
together, because the relation is transitive: what it says depends on the first capacity and on the
last size only, not on the way from one to the other.

A removal halves the capacity of its axis while less than a quarter is in use and does nothing to
the other axis (`Store.Shrunk`). Clearing goes back to the capacities of the start, which no edit
changes.
-/

namespace Tabular

/-! ## Growing one axis -/

namespace Axis

variable {a b c : Axis} {slot : Nat}

/-- `b` is `a` with more positions, and its capacity has grown as far as they need. No slot was
given back. -/
structure Grown (a b : Axis) : Prop where
  size_le : a.size ≤ b.size
  released_le : b.released.size ≤ a.released.size
  kept : b.size ≤ a.capacity → b.capacity = a.capacity
  doubled : a.capacity < b.size → b.capacity / 2 < b.size

/-- An axis grows by nothing into itself. -/
theorem Grown.refl (a : Axis) : Grown a a :=
  ⟨Nat.le_refl _, Nat.le_refl _, fun _ => rfl, fun short => by omega⟩

/-- Growth after growth is growth: it depends on the first capacity and the last size only. -/
theorem Grown.trans (first : Grown a b) (second : Grown b c) : Grown a c where
  size_le := Nat.le_trans first.size_le second.size_le
  released_le := Nat.le_trans second.released_le first.released_le
  kept fits := by
    have before := first.kept (Nat.le_trans second.size_le fits)
    rw [second.kept (before ▸ fits), before]
  doubled short := by
    by_cases fits : c.size ≤ b.capacity
    -- The second step keeps the capacity, so the first one has reached it.
    · rw [second.kept fits]
      by_cases early : b.size ≤ a.capacity
      · have := first.kept early
        omega
      · exact Nat.lt_of_lt_of_le (first.doubled (Nat.lt_of_not_le early)) second.size_le
    · exact second.doubled (Nat.lt_of_not_le fits)

/-- Allocation changes neither the positions nor the capacity, and it releases nothing. -/
theorem of_allocate (taken : a.allocate = some (slot, b)) :
    b.slots = a.slots ∧ b.capacity = a.capacity ∧ b.released.size ≤ a.released.size := by
  unfold allocate at taken
  dsimp only at taken
  split at taken
  · cases taken
  · split at taken
    · cases taken
      exact ⟨rfl, rfl, Nat.le_refl _⟩
    · cases taken
      exact ⟨rfl, rfl, Std.TreeSet.size_erase_le⟩

/-- Appending adds the positions asked for; it neither makes room nor releases a slot. -/
theorem of_append {count : Nat} (appended : a.append count = some b) :
    b.size = a.size + count ∧ b.capacity = a.capacity ∧ b.released.size ≤ a.released.size := by
  induction count generalizing a with
  | zero =>
    cases appended
    exact ⟨rfl, rfl, Nat.le_refl _⟩
  | succ count ih =>
    rw [append] at appended
    split at appended
    · cases appended
    · next slot taken allocated =>
      obtain ⟨slots, capacity, released⟩ := of_allocate allocated
      obtain ⟨size, same, released'⟩ := ih appended
      have pushed : (taken.slots.push slot).size = a.size + 1 := by
        rw [slots, Array.size_push]
        rfl
      refine ⟨size.trans ?_, same.trans capacity, Nat.le_trans released' released⟩
      show (taken.slots.push slot).size + count = _
      omega

/-- Making room changes the capacity only, and only if it is too small. -/
theorem of_reserve {needed : Nat} (reserved : a.reserve needed = some b) :
    b.slots = a.slots ∧ b.released = a.released ∧
      (needed ≤ a.capacity → b.capacity = a.capacity) ∧
      (a.capacity < needed → b.capacity / 2 < needed) := by
  unfold reserve at reserved
  split at reserved
  · next enough =>
    cases reserved
    exact ⟨rfl, rfl, fun _ => rfl, fun short => absurd enough (Nat.not_le_of_lt short)⟩
  · next short =>
    obtain ⟨capacity, grown, rfl⟩ := Option.map_eq_some_iff.1 reserved
    exact ⟨rfl, rfl, fun enough => absurd enough short, Capacity.half_lt_of_grown? grown⟩

/-- An axis grows when it is extended, to the positions asked for. -/
theorem grown_extend {count : Nat} (extended : a.extend count = some b) :
    Grown a b ∧ count ≤ b.size := by
  unfold extend at extended
  split at extended
  · next enough =>
    cases extended
    exact ⟨.refl a, enough⟩
  · next short =>
    obtain ⟨larger, reserved, appended⟩ := Option.bind_eq_some_iff.1 extended
    obtain ⟨slots, same, kept, doubled⟩ := of_reserve reserved
    obtain ⟨size, capacity, released⟩ := of_append appended
    have start : larger.size = a.size := congrArg Array.size slots
    have reached : b.size = count := by omega
    rw [← capacity, ← reached] at kept doubled
    exact ⟨⟨by omega, same ▸ released, kept, doubled⟩, Nat.le_of_eq reached.symm⟩

/-- An axis grows when a position is inserted. -/
theorem grown_insert {position : Nat} (inside : position ≤ a.size)
    (inserted : a.insert position = some (slot, b)) : Grown a b := by
  unfold insert at inserted
  obtain ⟨larger, reserved, placed⟩ := Option.bind_eq_some_iff.1 inserted
  obtain ⟨⟨slot', taken⟩, allocated, eq⟩ := Option.map_eq_some_iff.1 placed
  cases eq
  obtain ⟨slots, same, kept, doubled⟩ := of_reserve reserved
  obtain ⟨slots', capacity, released⟩ := of_allocate allocated
  have bound : position ≤ taken.slots.size := by
    rw [slots', slots]
    exact inside
  have size : (taken.slots.insertIdxIfInBounds position slot).size = a.size + 1 := by
    rw [Array.insertIdxIfInBounds, dif_pos bound, Array.size_insertIdx, slots', slots]
    rfl
  refine ⟨?_, same ▸ released, fun enough => capacity.trans (kept ?_), fun short => ?_⟩
  · show a.size ≤ (taken.slots.insertIdxIfInBounds position slot).size
    omega
  · rw [← size]
    exact enough
  · show taken.capacity / 2 < (taken.slots.insertIdxIfInBounds position slot).size
    rw [size, capacity]
    exact doubled (size ▸ short)

end Axis

/-! ## Growing a store -/

namespace Store

variable {α : Type u} {s t u : Store α} {b : Axis}

/-- `t` is `s` with more lines, and the capacities have grown as far as they need. -/
structure Grown (s t : Store α) : Prop where
  rows : Axis.Grown s.rows t.rows
  columns : Axis.Grown s.columns t.columns
  initialRows : t.initialRows = s.initialRows
  initialColumns : t.initialColumns = s.initialColumns

/-- A store grows by nothing into itself. -/
theorem Grown.refl (s : Store α) : Grown s s := ⟨.refl _, .refl _, rfl, rfl⟩

/-- Growth after growth is growth on both axes. -/
theorem Grown.trans (first : Grown s t) (second : Grown t u) : Grown s u where
  rows := first.rows.trans second.rows
  columns := first.columns.trans second.columns
  initialRows := second.initialRows.trans first.initialRows
  initialColumns := second.initialColumns.trans first.initialColumns

/-- What the cells hold does not matter. -/
theorem grown_cells (s : Store α) (cells : Cells α) : Grown s { s with cells } :=
  ⟨.refl _, .refl _, rfl, rfl⟩

/-- A store grows with its rows. -/
theorem grown_withRows (grown : Axis.Grown s.rows b) : Grown s (s.withRows b) where
  rows := by rwa [rows_withRows]
  columns := by
    rw [columns_withRows]
    exact .refl _
  initialRows := initialRows_withRows s b
  initialColumns := initialColumns_withRows s b

/-- A store grows with its columns. -/
theorem grown_withColumns (grown : Axis.Grown s.columns b) : Grown s (s.withColumns b) where
  rows := by
    rw [rows_withColumns]
    exact .refl _
  columns := by rwa [columns_withColumns]
  initialRows := initialRows_withColumns s b
  initialColumns := initialColumns_withColumns s b

/-- A store grows when its rows are extended, to the count asked for. -/
theorem grown_extendRows {count : Nat} (extended : s.extendRows count = some t) :
    Grown s t ∧ count ≤ t.rows.size := by
  obtain ⟨b, grown, rfl⟩ := Option.map_eq_some_iff.1 extended
  obtain ⟨rows, reached⟩ := Axis.grown_extend grown
  refine ⟨grown_withRows rows, ?_⟩
  rwa [rows_withRows]

/-- A store grows when its columns are extended, to the count asked for. -/
theorem grown_extendColumns {count : Nat} (extended : s.extendColumns count = some t) :
    Grown s t ∧ count ≤ t.columns.size := by
  obtain ⟨b, grown, rfl⟩ := Option.map_eq_some_iff.1 extended
  obtain ⟨columns, reached⟩ := Axis.grown_extend grown
  refine ⟨grown_withColumns columns, ?_⟩
  rwa [columns_withColumns]

/-- A cell is exchanged without any growth. -/
theorem grown_exchange (s : Store α) (row column : Nat) (content : Option α) :
    Grown s (s.exchange row column content).2 := by
  unfold exchange
  split
  · exact grown_cells s _
  · exact .refl s

/-- A write grows a store, also when it is refused. -/
theorem grown_set (s : Store α) (row column : Nat) (value : α) :
    Grown s (s.set row column value).2 := by
  unfold set
  split
  · exact .refl s
  · split
    · exact .refl s
    · next withRows extended =>
      have rows := (grown_extendRows extended).1
      split
      · exact rows
      · next withColumns extended' =>
        exact (rows.trans (grown_extendColumns extended').1).trans (grown_exchange _ _ _ _)

/-- Values that are filled into a row grow the columns, also when they do not all fit. -/
theorem grown_fillRow (s : Store α) (slot column : Nat) (values : List α) :
    Grown s (fillRow slot column values s).2 := by
  induction values generalizing s column with
  | nil => exact .refl s
  | cons value values ih =>
    rw [fillRow]
    split
    · exact .refl s
    · next extended =>
      have grown := (grown_extendColumns extended).1
      split
      · exact grown
      · exact grown.trans ((grown_cells _ _).trans (ih _ (column + 1)))

/-- An insertion grows a store, also when it stops early. -/
theorem grown_insertRow (s : Store α) (row : Nat) (values : List α) :
    Grown s (s.insertRow row values).2 := by
  unfold insertRow
  split
  · exact .refl s
  · next extended =>
    obtain ⟨grown, inside⟩ := grown_extendRows extended
    split
    · exact grown
    · next slot rows inserted =>
      have filled := (grown.trans (grown_withRows (Axis.grown_insert inside inserted))).trans
        (grown_fillRow _ slot 0 values)
      split
      · next eq => rwa [eq] at filled
      · next eq => rwa [eq] at filled

/-- What grows the mirror image grows the store. -/
theorem Grown.mirrored {s' t' : Store α} (grown : Grown t t') (m : s.Mirrors t)
    (m' : s'.Mirrors t') : Grown s s' where
  rows := by
    rw [← m.columns, ← m'.columns]
    exact grown.columns
  columns := by
    rw [← m.rows, ← m'.rows]
    exact grown.rows
  initialRows := by rw [← m.initialColumns, ← m'.initialColumns, grown.initialColumns]
  initialColumns := by rw [← m.initialRows, ← m'.initialRows, grown.initialRows]

/-- An insertion of a column grows a store, since that of a row grows the mirror image. -/
theorem WellFormed.grown_insertColumn (h : s.WellFormed) (column : Nat) (values : List α) :
    Grown s (s.insertColumn column values).2 :=
  (grown_insertRow s.mirror column values).mirrored h.mirrors
    (h.mirrors.insertRow h column values).2

/-! ## Shrinking one axis -/

/-- One axis of a store. -/
def axis (s : Store α) : Line → Axis
  | .row => s.rows
  | .column => s.columns

/-- Both axes of a well-formed store are well formed. -/
theorem WellFormed.axis (h : s.WellFormed) (line : Line) : (s.axis line).WellFormed := by
  cases line with
  | row => exact h.rows
  | column => exact h.columns

/-- Both axes of a store that grows do. -/
theorem Grown.axis (grown : Grown s t) (line : Line) : Axis.Grown (s.axis line) (t.axis line) := by
  cases line with
  | row => exact grown.rows
  | column => exact grown.columns

/-- The capacity of one axis is halved as long as its lines leave it sparse, and the other axis and
the capacities of the start are as they were. -/
structure Shrunk (line : Line) (s t : Store α) : Prop where
  capacity : (t.axis line).capacity = Capacity.halved (t.axis line).size (s.axis line).capacity
  other : ∀ other, other ≠ line → t.axis other = s.axis other
  initialRows : t.initialRows = s.initialRows
  initialColumns : t.initialColumns = s.initialColumns

/-- Packing halves the capacity of the rows only. -/
theorem shrunk_packRows (s : Store α) : Shrunk .row s s.packRows := by
  by_cases due : s.rows.packingDue = true
  · rw [packRows_of_due due]
    refine ⟨congrArg (Capacity.halved · _) (Axis.size_pack s.rows).symm, fun other ne => ?_, rfl,
      rfl⟩
    cases other with
    | row => exact absurd rfl ne
    | column => rfl
  · rw [packRows_of_not_due due]
    have same : s.rows.packedCapacity = s.rows.capacity := by
      simpa [Axis.packingDue] using due
    exact ⟨same.symm, fun _ _ => rfl, rfl, rfl⟩

/-- Giving a slot back leaves the capacity to the packing. -/
theorem WellFormed.shrunk_removeRow (h : s.WellFormed) {row : Nat} (inside : row < s.rowCount) :
    Shrunk .row s (s.removeRow row).2 := by
  obtain ⟨r, found⟩ := s.rows.exists_found inside
  have removed := h.rows.removes_remove found
  have packed := shrunk_packRows (s.withoutRow row r)
  have capacity : ((s.withoutRow row r).axis .row).capacity = (s.axis .row).capacity :=
    removed.capacity
  rw [removeRow_of_found found]
  refine ⟨capacity ▸ packed.capacity, fun other ne => (packed.other other ne).trans ?_,
    packed.initialRows, packed.initialColumns⟩
  cases other with
  | row => exact absurd rfl ne
  | column => rfl

/-- What shrinks the rows of the mirror image shrinks the columns of the store. -/
theorem Shrunk.mirrored {s' t' : Store α} (shrunk : Shrunk .row t t') (m : s.Mirrors t)
    (m' : s'.Mirrors t') : Shrunk .column s s' where
  capacity := by
    show s'.columns.capacity = Capacity.halved s'.columns.size s.columns.capacity
    rw [← m.rows, ← m'.rows]
    exact shrunk.capacity
  other other ne := by
    cases other with
    | row =>
      show s'.rows = s.rows
      rw [← m.columns, ← m'.columns]
      exact shrunk.other .column (by decide)
    | column => exact absurd rfl ne
  initialRows := by rw [← m.initialColumns, ← m'.initialColumns, shrunk.initialColumns]
  initialColumns := by rw [← m.initialRows, ← m'.initialRows, shrunk.initialRows]

/-- The removal of a column shrinks the columns, since that of a row shrinks the rows of the mirror
image. -/
theorem WellFormed.shrunk_removeColumn (h : s.WellFormed) {column : Nat}
    (inside : column < s.columnCount) : Shrunk .column s (s.removeColumn column).2 := by
  have m := h.mirrors
  have shrunk := (m.wellFormed h).shrunk_removeRow (by rwa [m.rowCount])
  exact shrunk.mirrored m (m.removeRow h column).2

end Store

/-! ## Every edit -/

/-- The axis of which an edit removes a line. -/
def Edit.removal? {α : Type u} : Edit α → Option Line
  | removeRow _ => some .row
  | removeColumn _ => some .column
  | _ => none

namespace Store

variable {α : Type u} {s : Store α} {e : Edit α} {line : Line}

/-- The edit removes a line of the axis, and there is such a line. -/
def Removes (s : Store α) (e : Edit α) (line : Line) : Prop :=
  e.removal? = some line ∧ ∃ cells, (s.apply e).1 = .line (some cells)

/-- An edit that removes nothing grows the store, also when it fails. -/
theorem WellFormed.grown_apply (h : s.WellFormed) (notClear : e ≠ .clear)
    (none : e.removal? = none) : Grown s (s.apply e).2 := by
  cases e with
  | addRow values => exact grown_insertRow s _ values
  | addColumn values => exact h.grown_insertColumn _ values
  | insertRow row values => exact grown_insertRow s row values
  | insertColumn column values => exact h.grown_insertColumn column values
  | set row column value => exact grown_set s row column value
  | unset row column => exact grown_exchange s row column _
  | removeRow | removeColumn => cases none
  | clear => exact absurd rfl notClear

/-- A row that is there is removed. -/
theorem removes_removeRow {row r : Nat} (found : s.rows.slots[row]? = some r) :
    s.Removes (.removeRow row) .row := by
  have answer : (s.removeRow row).1 = some _ :=
    (s.fst_removeRow row).trans (by rw [row?, found, Option.map_some])
  exact ⟨rfl, _, congrArg Edit.Answer.line answer⟩

/-- A column that is there is removed. -/
theorem removes_removeColumn {column c : Nat} (found : s.columns.slots[column]? = some c) :
    s.Removes (.removeColumn column) .column := by
  have answer : (s.removeColumn column).1 = some _ :=
    (s.fst_removeColumn column).trans (by rw [column?, found, Option.map_some])
  exact ⟨rfl, _, congrArg Edit.Answer.line answer⟩

/-- A removal shrinks its axis, or there is nothing to remove. -/
theorem WellFormed.shrunk_apply (h : s.WellFormed) (removal : e.removal? = some line) :
    (s.Removes e line ∧ Shrunk line s (s.apply e).2) ∨
      (¬ s.Removes e line ∧ (s.apply e).2 = s) := by
  cases e with
  | removeRow row =>
    cases removal
    rcases Nat.lt_or_ge row s.rowCount with inside | outside
    · obtain ⟨r, found⟩ := s.rows.exists_found inside
      exact .inl ⟨removes_removeRow found, h.shrunk_removeRow inside⟩
    · have nothing := removeRow_of_outside outside
      refine .inr ⟨fun ⟨_, cells, answer⟩ => ?_, congrArg Prod.snd nothing⟩
      rw [Store.apply, nothing] at answer
      cases answer
  | removeColumn column =>
    cases removal
    rcases Nat.lt_or_ge column s.columnCount with inside | outside
    · obtain ⟨c, found⟩ := s.columns.exists_found inside
      exact .inl ⟨removes_removeColumn found, h.shrunk_removeColumn inside⟩
    · have nothing := removeColumn_of_outside outside
      refine .inr ⟨fun ⟨_, cells, answer⟩ => ?_, congrArg Prod.snd nothing⟩
      rw [Store.apply, nothing] at answer
      cases answer
  | _ => cases removal

/-- No edit changes the capacities to which clearing returns. -/
theorem WellFormed.initial_apply (h : s.WellFormed) (e : Edit α) :
    (s.apply e).2.initialRows = s.initialRows ∧
      (s.apply e).2.initialColumns = s.initialColumns := by
  by_cases clear : e = .clear
  · subst clear
    exact ⟨Capacity.rounded_of_valid h.initialRows, Capacity.rounded_of_valid h.initialColumns⟩
  · cases removal : e.removal? with
    | none =>
      have grown := h.grown_apply clear removal
      exact ⟨grown.initialRows, grown.initialColumns⟩
    | some line =>
      rcases h.shrunk_apply removal with ⟨-, shrunk⟩ | ⟨-, same⟩
      · exact ⟨shrunk.initialRows, shrunk.initialColumns⟩
      · rw [same]
        exact ⟨rfl, rfl⟩

/-- No run changes the capacities to which clearing returns. -/
theorem WellFormed.initial_run (h : s.WellFormed) (edits : List (Edit α)) :
    (s.run edits).initialRows = s.initialRows ∧
      (s.run edits).initialColumns = s.initialColumns := by
  induction edits generalizing s with
  | nil => exact ⟨rfl, rfl⟩
  | cons e edits ih =>
    obtain ⟨rows, columns⟩ := h.initial_apply e
    obtain ⟨rows', columns'⟩ := ih (h.apply e)
    exact ⟨rows'.trans rows, columns'.trans columns⟩

/-- Clearing gives every axis the capacity with which the run started. -/
theorem capacity_clear {rows columns : Nat} (hr : rows ≤ Capacity.maxSlots)
    (hc : columns ≤ Capacity.maxSlots) (edits : List (Edit α)) (line : Line) :
    (((withCapacity rows columns : Store α).run edits).clear.axis line).capacity
      = ((withCapacity rows columns : Store α).axis line).capacity := by
  obtain ⟨initialRows, initialColumns⟩ :=
    (wellFormed_withCapacity (α := α) hr hc).initial_run edits
  cases line with
  | row =>
    refine (congrArg Capacity.rounded initialRows).trans ?_
    exact Capacity.rounded_of_valid (Capacity.rounded_valid hr)
  | column =>
    refine (congrArg Capacity.rounded initialColumns).trans ?_
    exact Capacity.rounded_of_valid (Capacity.rounded_valid hc)

/-- Whatever a run has done to a store that starts at capacities up to `maxSlots`, the next edit
leaves each axis with a power of two as its capacity that holds its lines. An edit that removes
nothing of the axis keeps a capacity that is enough and otherwise leaves less than half of the
capacity unused. A removal keeps a capacity of which a quarter is in use and otherwise halves it to
one between a quarter and a half of which is in use, never to less than 2, and it does not touch the
other axis. Clearing restores the capacities of the start. -/
theorem apply_capacity_law {rows columns : Nat} (hr : rows ≤ Capacity.maxSlots)
    (hc : columns ≤ Capacity.maxSlots) (edits : List (Edit α)) (e : Edit α) (line : Line) :
    let start : Store α := withCapacity rows columns
    let s := start.run edits
    let s' := (s.apply e).2
    let capacity := (s.axis line).capacity
    let size' := (s'.axis line).size
    let capacity' := (s'.axis line).capacity
    (capacity'.isPowerOfTwo ∧ size' ≤ capacity') ∧
    (e ≠ .clear → ¬ s.Removes e line →
      (size' ≤ capacity → capacity' = capacity) ∧
        (capacity < size' → capacity' / 2 < size')) ∧
    (s.Removes e line →
      (capacity / 4 ≤ size' → capacity' = capacity) ∧
        (size' < capacity / 4 → 2 ≤ capacity' ∧ capacity' < capacity ∧ capacity' / 4 ≤ size' ∧
          size' < capacity' / 2) ∧
        capacity' ≤ 4 * max 1 size') ∧
    (∀ other, e.removal? = some other → other ≠ line → capacity' = capacity) ∧
    (e = .clear → capacity' = (start.axis line).capacity) := by
  intro start s s' capacity size' capacity'
  have h : s.WellFormed := (wellFormed_withCapacity hr hc).run edits
  have h' : s'.WellFormed := h.apply e
  -- A removal on another axis leaves this one alone, whether it finds a line or not.
  have elsewhere : ∀ other, e.removal? = some other → other ≠ line →
      s'.axis line = s.axis line := by
    intro other removal ne
    rcases h.shrunk_apply removal with ⟨-, shrunk⟩ | ⟨-, same⟩
    · exact shrunk.other line ne.symm
    · exact congrArg (fun t => t.axis line) same
  refine ⟨⟨(h'.axis line).valid.isPowerOfTwo, (h'.axis line).size_le_capacity⟩,
    fun notClear notRemoved => ?_, fun removed => ?_, fun other removal ne => ?_, fun clear => ?_⟩
  · have grown : Axis.Grown (s.axis line) (s'.axis line) := by
      cases removal : e.removal? with
      | none => exact (h.grown_apply notClear removal).axis line
      | some other =>
        by_cases ne : other = line
        · rw [ne] at removal
          have same := ((h.shrunk_apply removal).resolve_left fun found => notRemoved found.1).2
          show Axis.Grown _ ((s.apply e).2.axis line)
          rw [same]
          exact .refl _
        · rw [elsewhere other removal ne]
          exact .refl _
    exact ⟨grown.kept, grown.doubled⟩
  · have shrunk := ((h.shrunk_apply removed.1).resolve_right fun kept => kept.1 removed).2
    have halved : capacity' = Capacity.halved size' capacity := shrunk.capacity
    rw [halved]
    refine ⟨Capacity.halved_of_enough, fun sparse => ?_,
      Capacity.halved_le_four_mul size' (h.axis line).valid.isPowerOfTwo⟩
    obtain ⟨two, half⟩ := Capacity.lt_half_halved sparse
    have quarter : Capacity.halved size' capacity / 4 ≤ size' :=
      (Capacity.halved_div_le size' capacity).resolve_left (by omega)
    have le := Capacity.halved_le size' capacity
    exact ⟨two, by omega, quarter, half⟩
  · exact congrArg Axis.capacity (elsewhere other removal ne)
  · subst clear
    exact capacity_clear hr hc edits line

/-- One row in 64 slots: its removal halves the capacity as often as it can at once. -/
theorem apply_capacity_law_lonelyRow :
    let s : Store Nat := (withCapacity 64 1).run [.addRow [7]]
    s.rowCapacity = 64 ∧ s.Removes (.removeRow 0) .row ∧
      (s.apply (.removeRow 0)).2.rowCapacity = 2 := by
  intro s
  have hr : 64 ≤ Capacity.maxSlots := by decide
  have hc : 1 ≤ Capacity.maxSlots := by decide
  have empty : (withCapacity 64 1 : Store Nat).WellFormed := wellFormed_withCapacity hr hc
  have holds := (empty.insertRow_spec (show max 0 0 < Capacity.maxSlots by decide)
    (show [7].length ≤ Capacity.maxSlots by decide)).2
  have one : s.rowCount = 1 := holds.rowCount
  -- One row fits into the capacity of the start, which is a power of two already.
  have start : Capacity.rounded 64 = 64 := Capacity.rounded_of_valid ⟨⟨6, rfl⟩, hr⟩
  have added := apply_capacity_law (α := Nat) hr hc [] (.addRow [7]) .row
  have keeps := (added.2.1 (fun eq => by cases eq) fun removes => by cases removes.1).1
  have capacity : s.rows.capacity = Capacity.rounded 64 := keeps (by
    show s.rowCount ≤ Capacity.rounded 64
    rw [one, start]
    decide)
  -- Without the row the capacity is halved to the lowest that halving leads to.
  have inside : 0 < s.rowCount := by omega
  obtain ⟨r, found⟩ := s.rows.exists_found inside
  have removes : s.Removes (.removeRow 0) .row := removes_removeRow found
  have removed := apply_capacity_law (α := Nat) hr hc [.addRow [7]] (.removeRow 0) .row
  have size : (s.removeRow 0).2.rows.size = 0 := by
    have left : (s.removeRow 0).2.rows.size = s.rowCount - 1 :=
      (holds.wellFormed.removeRow_spec inside).rowCount
    rw [left, one]
  obtain ⟨two, -, quarter, -⟩ := (removed.2.2.1 removes).2.1 (by
    show (s.removeRow 0).2.rows.size < s.rows.capacity / 4
    rw [size, capacity, start]
    decide)
  refine ⟨capacity.trans start, removes, ?_⟩
  obtain ⟨⟨k, power⟩, -⟩ := removed.1
  have least : (s.removeRow 0).2.rows.capacity / 4 ≤ (s.removeRow 0).2.rows.size := quarter
  have power' : (s.removeRow 0).2.rows.capacity = 2 ^ k := power
  have two' : 2 ≤ (s.removeRow 0).2.rows.capacity := two
  show (s.removeRow 0).2.rows.capacity = 2
  rcases k with _ | _ | k
  · omega
  · exact power'
  · rw [Nat.pow_succ, Nat.pow_succ] at power'
    have pos : 0 < 2 ^ k := Nat.two_pow_pos k
    omega

end Store

end Tabular
