import Tabular.Proofs.Store.CapacityLaw

/-!
# How far capacities go

Growing stops at `maxSlots`, but the capacities that a store starts with are rounded up from the
requested ones without a limit. So an axis has at most `maxSlots` slots or as many as it started
with, whichever is more (`Capacity.limit`), and every edit keeps this (`Store.Within.apply`) as long
as slots up to the limit have numbers of their own.
-/

namespace Tabular

/-! ## Capacities -/

namespace Capacity

/-- The most slots of an axis for which `requested` slots are requested. -/
def limit (requested : Nat) : Nat := max maxSlots (rounded requested)

/-- A capacity up to a limit, which is no smaller than `maxSlots` and no larger than
`slotNumbers`. -/
structure Within (limit capacity : Nat) : Prop where
  isPowerOfTwo : capacity.isPowerOfTwo
  le_limit : capacity ≤ limit
  maxSlots_le : maxSlots ≤ limit
  limit_le : limit ≤ slotNumbers

variable {m current needed capacity : Nat}

/-- There are as many numbers as a power of two. -/
theorem slotNumbers_isPowerOfTwo : slotNumbers.isPowerOfTwo := ⟨32, rfl⟩

/-- Up to the limit every slot has a number of its own. -/
theorem Within.le_slotNumbers (h : Within m capacity) : capacity ≤ slotNumbers :=
  Nat.le_trans h.le_limit h.limit_le

/-- Growing leads past `maxSlots` only where the capacity was larger already. -/
theorem Within.grown (h : Within m current) (short : current < needed)
    (grown : grown? current needed = some capacity) : Within m capacity := by
  have fits : needed ≤ maxSlots := Nat.le_of_not_lt fun tooMany => by
    rw [grown?_eq_none tooMany] at grown
    cases grown
  have valid : Valid current := ⟨h.isPowerOfTwo, Nat.le_trans (Nat.le_of_lt short) fits⟩
  obtain ⟨capacity', grown', valid', -⟩ := grown?_eq_some valid fits
  cases grown.symm.trans grown'
  exact ⟨valid'.isPowerOfTwo, Nat.le_trans valid'.le_maxSlots h.maxSlots_le, h.maxSlots_le,
    h.limit_le⟩

/-- Halving keeps a capacity within its limit. -/
theorem Within.halved (h : Within m capacity) (size : Nat) : Within m (halved size capacity) :=
  ⟨halved_isPowerOfTwo size capacity h.isPowerOfTwo,
    Nat.le_trans (halved_le size capacity) h.le_limit, h.maxSlots_le, h.limit_le⟩

/-- The limit of an axis is at most a power of two exactly if the request is. -/
theorem limit_le_iff {requested bound : Nat} (power : bound.isPowerOfTwo)
    (large : maxSlots ≤ bound) : limit requested ≤ bound ↔ requested ≤ bound := by
  unfold limit
  rw [Nat.max_le, and_iff_right large]
  exact ⟨Nat.le_trans (le_rounded requested), rounded_le power⟩

/-- A request for at most `maxSlots` slots does not raise the limit. -/
theorem limit_of_le {requested : Nat} (le : requested ≤ maxSlots) : limit requested = maxSlots :=
  Nat.max_eq_left (rounded_valid le).le_maxSlots

/-- A request for at most `slotNumbers` slots is rounded to a capacity within its limit. -/
theorem within_rounded {requested : Nat} (few : requested ≤ slotNumbers) :
    Within (limit requested) (rounded requested) :=
  ⟨rounded_isPowerOfTwo requested, Nat.le_max_right _ _, Nat.le_max_left _ _,
    (limit_le_iff slotNumbers_isPowerOfTwo (by decide)).2 few⟩

/-- A capacity within its limit needs no rounding. -/
theorem Within.rounded (h : Within m capacity) : Within m (rounded capacity) := by
  rwa [rounded_of_isPowerOfTwo h.isPowerOfTwo]

end Capacity

/-! ## One axis -/

namespace Axis

/-- An axis whose slots are assigned, and are at most `limit`. -/
structure Within (limit : Nat) (a : Axis) : Prop extends Assigned a where
  capacity : Capacity.Within limit a.capacity

variable {m needed count position slot : Nat} {a b : Axis}

/-- There are no more positions than the limit allows slots. -/
theorem Within.size_le (h : a.Within m) : a.size ≤ m :=
  Nat.le_trans h.size_le_capacity h.capacity.le_limit

/-- Whatever is needed, what is handed out of it has a number of its own. -/
theorem Within.min_capacity_le (h : a.Within m) (needed : Nat) :
    min a.capacity needed ≤ Capacity.slotNumbers :=
  Nat.le_trans (Nat.min_le_left _ _) h.capacity.le_slotNumbers

/-- Making room keeps an axis within its limit. -/
theorem Within.reserve (h : a.Within m) (reserved : a.reserve needed = some b) : b.Within m := by
  obtain ⟨capacity, rfl, le, -⟩ := exists_capacity_of_reserve reserved
  refine ⟨h.toAssigned.withCapacity le, ?_⟩
  show Capacity.Within m capacity
  unfold Axis.reserve at reserved
  split at reserved
  · have same : a.capacity = capacity := congrArg Axis.capacity (Option.some.inj reserved)
    exact same ▸ h.capacity
  · next short =>
    obtain ⟨grown, eq, same⟩ := Option.map_eq_some_iff.1 reserved
    have same : grown = capacity := congrArg Axis.capacity same
    exact h.capacity.grown (Nat.lt_of_not_le short) (same ▸ eq)

/-- Extending an axis keeps it within its limit. -/
theorem Within.extend (h : a.Within m) (extended : a.extend count = some b) : b.Within m := by
  obtain ⟨assigned, -, room, reserved, capacity⟩ := h.of_extend (h.min_capacity_le count) extended
  exact ⟨assigned, capacity ▸ (h.reserve reserved).capacity⟩

/-- Inserting a position keeps an axis within its limit. -/
theorem Within.insert (h : a.Within m) (inside : position ≤ a.size)
    (inserted : a.insert position = some (slot, b)) : b.Within m := by
  obtain ⟨assigned, -, room, reserved, capacity⟩ := h.of_insert inside (h.min_capacity_le _) inserted
  exact ⟨assigned, capacity ▸ (h.reserve reserved).capacity⟩

/-- Removing a position keeps an axis within its limit. -/
theorem Within.remove (h : a.Within m) (found : a.slots[position]? = some slot) :
    (a.remove position).Within m := by
  have few := h.capacity.le_slotNumbers
  refine ⟨h.toAssigned.remove few found, ?_⟩
  rw [h.remove_eq few found]
  exact h.capacity

/-- Packing keeps an axis within its limit. -/
theorem Within.pack (h : a.Within m) : a.pack.Within m :=
  ⟨h.toAssigned.pack, h.capacity.halved a.size⟩

end Axis

/-! ## Every edit -/

namespace Store

/-- A store whose axes are within their limits, also after clearing. -/
structure Within {α : Type u} (rowLimit columnLimit : Nat) (s : Store α) : Prop where
  rows : s.rows.Within rowLimit
  columns : s.columns.Within columnLimit
  initialRows : Capacity.Within rowLimit s.initialRows
  initialColumns : Capacity.Within columnLimit s.initialColumns

variable {α : Type u} {m n count : Nat} {s t : Store α} {b : Axis}

/-- Every store of which no more slots than numbers are requested starts within its limits. -/
theorem within_withCapacity {rows columns : Nat} (hr : rows ≤ Capacity.slotNumbers)
    (hc : columns ≤ Capacity.slotNumbers) :
    (withCapacity rows columns : Store α).Within (Capacity.limit rows) (Capacity.limit columns) where
  rows := ⟨Axis.assigned_empty _, Capacity.within_rounded hr⟩
  columns := ⟨Axis.assigned_empty _, Capacity.within_rounded hc⟩
  initialRows := Capacity.within_rounded hr
  initialColumns := Capacity.within_rounded hc

/-- Clearing returns to capacities that were within the limits at the start. -/
theorem Within.clear (h : s.Within m n) : s.clear.Within m n where
  rows := ⟨Axis.assigned_empty _, h.initialRows.rounded⟩
  columns := ⟨Axis.assigned_empty _, h.initialColumns.rounded⟩
  initialRows := h.initialRows.rounded
  initialColumns := h.initialColumns.rounded

/-! ### Growing -/

/-- What the cells hold does not matter. -/
theorem Within.withCells (h : s.Within m n) (cells : Cells α) : Within m n { s with cells } :=
  ⟨h.rows, h.columns, h.initialRows, h.initialColumns⟩

/-- New rows within their limit keep a store within its limits. -/
theorem Within.withRows (h : s.Within m n) (within : b.Within m) : (s.withRows b).Within m n where
  rows := by rwa [rows_withRows]
  columns := by
    rw [columns_withRows]
    exact h.columns
  initialRows := by
    rw [initialRows_withRows]
    exact h.initialRows
  initialColumns := by
    rw [initialColumns_withRows]
    exact h.initialColumns

/-- New columns within their limit keep a store within its limits. -/
theorem Within.withColumns (h : s.Within m n) (within : b.Within n) :
    (s.withColumns b).Within m n where
  rows := by
    rw [rows_withColumns]
    exact h.rows
  columns := by rwa [columns_withColumns]
  initialRows := by
    rw [initialRows_withColumns]
    exact h.initialRows
  initialColumns := by
    rw [initialColumns_withColumns]
    exact h.initialColumns

/-- Extending the rows keeps a store within its limits. -/
theorem Within.extendRows (h : s.Within m n) (extended : s.extendRows count = some t) :
    t.Within m n := by
  obtain ⟨b, grown, rfl⟩ := Option.map_eq_some_iff.1 extended
  exact h.withRows (h.rows.extend grown)

/-- Extending the columns keeps a store within its limits. -/
theorem Within.extendColumns (h : s.Within m n) (extended : s.extendColumns count = some t) :
    t.Within m n := by
  obtain ⟨b, grown, rfl⟩ := Option.map_eq_some_iff.1 extended
  exact h.withColumns (h.columns.extend grown)

/-- Exchanging a cell changes no axis. -/
theorem Within.exchange (h : s.Within m n) (row column : Nat) (content : Option α) :
    (s.exchange row column content).2.Within m n := by
  unfold Store.exchange
  split
  · exact h.withCells _
  · exact h

/-- A write keeps a store within its limits, wherever it goes. -/
theorem Within.set (h : s.Within m n) (row column : Nat) (value : α) :
    (s.set row column value).2.Within m n := by
  unfold Store.set
  split
  · exact h
  · split
    · exact h
    · next extended =>
      have rows := h.extendRows extended
      split
      -- The rows that were added stay when there is no room for the columns.
      · exact rows
      · next extended' => exact (rows.extendColumns extended').exchange row column _

/-- Filling a row keeps a store within its limits, also when it stops early. -/
theorem Within.fillRow (h : s.Within m n) (slot column : Nat) (values : List α) :
    (fillRow slot column values s).2.Within m n := by
  induction values generalizing s column with
  | nil => exact h
  | cons value values ih =>
    rw [Store.fillRow]
    split
    · exact h
    · next extended =>
      have columns := h.extendColumns extended
      split
      · exact columns
      · exact ih (columns.withCells _) (column + 1)

/-- Filling a column keeps a store within its limits, also when it stops early. -/
theorem Within.fillColumn (h : s.Within m n) (slot row : Nat) (values : List α) :
    (fillColumn slot row values s).2.Within m n := by
  induction values generalizing s row with
  | nil => exact h
  | cons value values ih =>
    rw [Store.fillColumn]
    split
    · exact h
    · next extended =>
      have rows := h.extendRows extended
      split
      · exact rows
      · exact ih (rows.withCells _) (row + 1)

/-- Inserting a row keeps a store within its limits, wherever it goes. -/
theorem Within.insertRow (h : s.Within m n) (row : Nat) (values : List α) :
    (s.insertRow row values).2.Within m n := by
  unfold Store.insertRow
  split
  · exact h
  · next extended =>
    have inside := (grown_extendRows extended).2
    have within := h.extendRows extended
    split
    · exact within
    · next slot rows inserted =>
      have filled := (within.withRows (within.rows.insert inside inserted)).fillRow slot 0 values
      split
      · next eq => rwa [eq] at filled
      · next eq => rwa [eq] at filled

/-- Inserting a column keeps a store within its limits, wherever it goes. -/
theorem Within.insertColumn (h : s.Within m n) (column : Nat) (values : List α) :
    (s.insertColumn column values).2.Within m n := by
  unfold Store.insertColumn
  split
  · exact h
  · next extended =>
    have inside := (grown_extendColumns extended).2
    have within := h.extendColumns extended
    split
    · exact within
    · next slot columns inserted =>
      have filled :=
        (within.withColumns (within.columns.insert inside inserted)).fillColumn slot 0 values
      split
      · next eq => rwa [eq] at filled
      · next eq => rwa [eq] at filled

/-! ### Shrinking -/

/-- Packing the rows keeps a store within its limits. -/
theorem Within.packRows (h : s.Within m n) : s.packRows.Within m n := by
  unfold Store.packRows
  split
  · exact ⟨h.rows.pack, h.columns, h.initialRows, h.initialColumns⟩
  · exact h

/-- Packing the columns keeps a store within its limits. -/
theorem Within.packColumns (h : s.Within m n) : s.packColumns.Within m n := by
  unfold Store.packColumns
  split
  · exact ⟨h.rows, h.columns.pack, h.initialRows, h.initialColumns⟩
  · exact h

/-- Taking a row out keeps a store within its limits. -/
theorem Within.withoutRow (h : s.Within m n) {row r : Nat} (found : s.rows.slots[row]? = some r) :
    (s.withoutRow row r).Within m n :=
  ⟨h.rows.remove found, h.columns, h.initialRows, h.initialColumns⟩

/-- Taking a column out keeps a store within its limits. -/
theorem Within.withoutColumn (h : s.Within m n) {column c : Nat}
    (found : s.columns.slots[column]? = some c) : (s.withoutColumn column c).Within m n :=
  ⟨h.rows, h.columns.remove found, h.initialRows, h.initialColumns⟩

/-- Removing a row keeps a store within its limits. -/
theorem Within.removeRow (h : s.Within m n) (row : Nat) : (s.removeRow row).2.Within m n := by
  unfold Store.removeRow
  split
  · exact h
  · next found => exact (h.withoutRow found).packRows

/-- Removing a column keeps a store within its limits. -/
theorem Within.removeColumn (h : s.Within m n) (column : Nat) :
    (s.removeColumn column).2.Within m n := by
  unfold Store.removeColumn
  split
  · exact h
  · next found => exact (h.withoutColumn found).packColumns

/-- Every edit keeps the limits, whatever it answers. -/
theorem Within.apply (h : s.Within m n) (e : Edit α) : (s.apply e).2.Within m n := by
  cases e with
  | addRow values => exact h.insertRow _ values
  | addColumn values => exact h.insertColumn _ values
  | insertRow row values => exact h.insertRow row values
  | insertColumn column values => exact h.insertColumn column values
  | set row column value => exact h.set row column value
  | unset row column => exact h.exchange row column none
  | removeRow row => exact h.removeRow row
  | removeColumn column => exact h.removeColumn column
  | clear => exact h.clear

/-- A run keeps a store within its limits. -/
theorem Within.run (h : s.Within m n) (edits : List (Edit α)) : (s.run edits).Within m n := by
  induction edits generalizing s with
  | nil => exact h
  | cons e edits ih => exact ih (h.apply e)

end Store

end Tabular
