import Tabular.Store.Edit
import Tabular.Proofs.Store.Insertion

/-!
# Insertions and writes that do not fit

A line is inserted exactly when both axes then have at most `maxSlots` lines
(`isSome_insertRow_iff`), and a cell is written when both of its coordinates are below `maxSlots`.
What does not fit is refused, and the store stays as it was.

There is one exception. An insertion in front of position `maxSlots` pads the axis up to this
position first, which works, and then there is no slot for the line itself (`PadsInVain`). It is
refused like the others, but the store is left with the padding.
-/

namespace Tabular

variable {α : Type u}

/-- The number of values that an edit has for a new line. -/
def Edit.valueCount : Edit α → Nat
  | addRow values | addColumn values | insertRow _ values | insertColumn _ values => values.length
  | _ => 0

/-- An axis that has as many lines as it can have has that capacity too. -/
theorem Axis.WellFormed.capacity_of_full {a : Axis} (h : a.WellFormed)
    (full : a.size = Capacity.maxSlots) : a.capacity = Capacity.maxSlots :=
  Nat.le_antisymm h.valid.le_maxSlots (full ▸ h.size_le_capacity)

namespace Store

variable {s : Store α}

/-- The edits that do not fit: a line that is not made, or a write where no axis has a line. -/
def Refuses (s : Store α) (e : Edit α) : Prop :=
  (s.apply e).1 = .position none ∨
    ∃ row column value, e = .set row column value ∧
      (Capacity.maxSlots ≤ row ∨ Capacity.maxSlots ≤ column)

/-- The insertions that fill an axis up with empty lines and are refused then. -/
def PadsInVain (s : Store α) (e : Edit α) : Prop :=
  (s.rowCount < Capacity.maxSlots ∧ ∃ values, e = .insertRow Capacity.maxSlots values) ∨
    (s.columnCount < Capacity.maxSlots ∧ ∃ values, e = .insertColumn Capacity.maxSlots values)

/-- Where a line that is too far away and a line for a full axis are refused without an effect, and
all others are made, nothing is left of a refusal, unless the axis was padded. -/
theorem eq_self_of_refused {size position : Nat} {result : Option Nat × Store α}
    (far : Capacity.maxSlots < position → result = (none, s))
    (full : position ≤ size → Capacity.maxSlots ≤ size → result = (none, s))
    (fits : max size position < Capacity.maxSlots → result.1 = some position)
    (refused : result.1 = none) (other : position = Capacity.maxSlots → Capacity.maxSlots ≤ size) :
    result.2 = s := by
  rcases Nat.lt_or_ge Capacity.maxSlots position with beyond | near
  · rw [far beyond]
  · rcases Nat.lt_or_ge size Capacity.maxSlots with notFull | isFull
    · have before : position < Capacity.maxSlots :=
        Nat.lt_of_le_of_ne near fun eq => Nat.not_lt_of_le (other eq) notFull
      have made := fits (Nat.max_lt.2 ⟨notFull, before⟩)
      rw [refused] at made
      cases made
    · rw [full (Nat.le_trans near isFull) isFull]

/-! ## Rows -/

/-- An insertion that cannot even be padded up to leaves the store as it is. -/
theorem WellFormed.insertRow_of_far (h : s.WellFormed) {row : Nat} (far : Capacity.maxSlots < row)
    (values : List α) : s.insertRow row values = (none, s) := by
  unfold Store.insertRow
  rw [h.extendRows_eq_none far]

/-- An insertion behind the last row that there can be is padded up to and then refused. -/
theorem WellFormed.insertRow_maxSlots (h : s.WellFormed) (notFull : s.rowCount < Capacity.maxSlots)
    (values : List α) :
    ∃ s', s.insertRow Capacity.maxSlots values = (none, s') ∧
      s'.Holds Capacity.maxSlots s.columnCount s.get? ∧ s'.columns = s.columns := by
  obtain ⟨s', extended, holds, columns, -⟩ := h.extendRows_spec (Nat.le_refl Capacity.maxSlots)
  rw [Nat.max_eq_right (Nat.le_of_lt notFull)] at holds
  have full : Capacity.maxSlots ≤ s'.rows.size := Nat.le_of_eq holds.rowCount.symm
  refine ⟨s', ?_, holds, columns⟩
  unfold Store.insertRow
  rw [extended]
  dsimp only
  rw [holds.wellFormed.rows.insert_eq_none full]

/-- A row that is refused leaves the store as it was, unless it was padded up to. -/
theorem WellFormed.insertRow_eq_self (h : s.WellFormed) {row : Nat} {values : List α}
    (short : values.length ≤ Capacity.maxSlots) (refused : (s.insertRow row values).1 = none)
    (other : row = Capacity.maxSlots → Capacity.maxSlots ≤ s.rowCount) :
    (s.insertRow row values).2 = s :=
  eq_self_of_refused (h.insertRow_of_far · values) (h.insertRow_of_full · · values)
    (fun fits => (h.insertRow_spec fits short).1) refused other

/-! ## Columns -/

/-- An insertion of a column past `maxSlots` does nothing. -/
theorem WellFormed.insertColumn_of_far (h : s.WellFormed) {column : Nat}
    (far : Capacity.maxSlots < column) (values : List α) :
    s.insertColumn column values = (none, s) := by
  unfold Store.insertColumn extendColumns
  rw [h.columns.extend_eq_none far, Option.map_none]

/-- An insertion behind the last column that there can be is padded up to and then refused. -/
theorem WellFormed.insertColumn_maxSlots (h : s.WellFormed)
    (notFull : s.columnCount < Capacity.maxSlots) (values : List α) :
    ∃ s', s.insertColumn Capacity.maxSlots values = (none, s') ∧
      s'.Holds s.rowCount Capacity.maxSlots s.get? ∧ s'.rows = s.rows := by
  obtain ⟨s', extended, holds, rows, -⟩ := h.extendColumns_spec (Nat.le_refl Capacity.maxSlots)
  rw [Nat.max_eq_right (Nat.le_of_lt notFull)] at holds
  have full : Capacity.maxSlots ≤ s'.columns.size := Nat.le_of_eq holds.columnCount.symm
  refine ⟨s', ?_, holds, rows⟩
  unfold Store.insertColumn
  rw [extended]
  dsimp only
  rw [holds.wellFormed.columns.insert_eq_none full]

/-- A column that is refused leaves the store as it was, unless it was padded up to. -/
theorem WellFormed.insertColumn_eq_self (h : s.WellFormed) {column : Nat} {values : List α}
    (short : values.length ≤ Capacity.maxSlots) (refused : (s.insertColumn column values).1 = none)
    (other : column = Capacity.maxSlots → Capacity.maxSlots ≤ s.columnCount) :
    (s.insertColumn column values).2 = s :=
  eq_self_of_refused (h.insertColumn_of_far · values) (h.insertColumn_of_full · · values)
    (fun fits => (h.insertColumn_spec fits short).1) refused other

/-! ## What is made -/

/-- Neither axis of a well-formed store has more than `maxSlots` positions. -/
theorem WellFormed.fits (h : s.WellFormed) :
    s.rowCount ≤ Capacity.maxSlots ∧ s.columnCount ≤ Capacity.maxSlots :=
  ⟨h.rows.size_le_maxSlots, h.columns.size_le_maxSlots⟩

/-- Values that were all written into a row are at most as many as there can be columns. -/
theorem WellFormed.length_le_of_fillRow (h : s.WellFormed) {row slot column : Nat}
    {values : List α} (found : s.rows.slots[row]? = some slot) (reached : column ≤ s.columnCount)
    (all : (Store.fillRow slot column values s).1 = true) :
    column + values.length ≤ Capacity.maxSlots := by
  induction values generalizing s column with
  | nil => exact Nat.le_trans reached h.fits.2
  | cons value values ih =>
    cases extended : s.extendColumns (column + 1) with
    | none =>
      rw [Store.fillRow, extended] at all
      cases all
    | some s' =>
      obtain ⟨holds, rows, -⟩ := h.of_extendColumns extended
      rw [h.fillRow_cons found extended] at all
      -- The row is still on its slot, and the next column is reached.
      have found' : (s'.exchange row column (some value)).2.rows.slots[row]? = some slot := by
        rwa [rows_exchange, rows]
      have reached' : column + 1 ≤ (s'.exchange row column (some value)).2.columnCount := by
        have count := holds.columnCount
        unfold columnCount at count ⊢
        rw [columns_exchange]
        omega
      have rest := ih (holds.wellFormed.exchange row column (some value)) found' reached' all
      rw [List.length_cons]
      omega

/-- A row that was made has at most as many values as there can be columns. -/
theorem WellFormed.length_le_of_insertRow (h : s.WellFormed) {row : Nat} {values : List α}
    (made : (s.insertRow row values).1.isSome) : values.length ≤ Capacity.maxSlots := by
  unfold Store.insertRow at made
  cases extended : s.extendRows row with
  | none =>
    rw [extended] at made
    cases made
  | some s₁ =>
    have holds := (h.of_extendRows extended).1
    have inside : row ≤ s₁.rowCount := by
      rw [holds.rowCount]
      exact Nat.le_max_right _ _
    rw [extended] at made
    dsimp only at made
    cases inserted : s₁.rows.insert row with
    | none =>
      rw [inserted] at made
      cases made
    | some result =>
      obtain ⟨slot, b⟩ := result
      obtain ⟨new, found⟩ := holds.wellFormed.of_insert inside inserted
      rw [inserted] at made
      dsimp only at made
      split at made
      · next all =>
        have length := new.wellFormed.length_le_of_fillRow found (Nat.zero_le _)
          (congrArg Prod.fst all)
        rwa [Nat.zero_add] at length
      · cases made

/-- A row is made exactly when the store then has at most `maxSlots` rows and columns. -/
theorem WellFormed.isSome_insertRow_iff (h : s.WellFormed) {row : Nat} {values : List α} :
    (s.insertRow row values).1.isSome ↔
      max s.rowCount row < Capacity.maxSlots ∧ values.length ≤ Capacity.maxSlots := by
  refine ⟨fun made => ⟨?_, h.length_le_of_insertRow made⟩, fun ⟨room, short⟩ => ?_⟩
  · refine Nat.lt_of_not_le fun full => ?_
    rcases Nat.lt_or_ge Capacity.maxSlots row with far | near
    · rw [h.insertRow_of_far far] at made
      cases made
    · rcases Nat.lt_or_ge s.rowCount Capacity.maxSlots with notFull | isFull
      -- Only the row is at the limit, so the rows are padded up to it first.
      · have at_end : row = Capacity.maxSlots := by omega
        obtain ⟨s', refused, -⟩ := h.insertRow_maxSlots notFull values
        rw [at_end, refused] at made
        cases made
      · rw [h.insertRow_of_full (Nat.le_trans near isFull) isFull] at made
        cases made
  · rw [(h.insertRow_spec room short).1]
    rfl

/-- A column is made exactly when the store then has at most `maxSlots` rows and columns. -/
theorem WellFormed.isSome_insertColumn_iff (h : s.WellFormed) {column : Nat} {values : List α} :
    (s.insertColumn column values).1.isSome ↔
      max s.columnCount column < Capacity.maxSlots ∧ values.length ≤ Capacity.maxSlots := by
  have m := h.mirrors
  rw [← (m.insertRow h column values).1, (m.wellFormed h).isSome_insertRow_iff, m.rowCount]

/-! ## Every edit -/

/-- An edit that does not fit leaves the store as it was, unless it pads an axis in vain. -/
theorem WellFormed.apply_eq_self_of_refuses (h : s.WellFormed) {e : Edit α}
    (short : e.valueCount ≤ Capacity.maxSlots) (refused : s.Refuses e)
    (other : ¬ s.PadsInVain e) : (s.apply e).2 = s := by
  rcases refused with none | ⟨row, column, value, rfl, outside⟩
  · cases e with
    | addRow values =>
      exact h.insertRow_eq_self short (Edit.Answer.position.inj none) (Nat.le_of_eq ·.symm)
    | addColumn values =>
      exact h.insertColumn_eq_self short (Edit.Answer.position.inj none) (Nat.le_of_eq ·.symm)
    | insertRow row values =>
      refine h.insertRow_eq_self short (Edit.Answer.position.inj none) fun eq => ?_
      subst eq
      exact Nat.le_of_not_lt fun notFull => other (.inl ⟨notFull, values, rfl⟩)
    | insertColumn column values =>
      refine h.insertColumn_eq_self short (Edit.Answer.position.inj none) fun eq => ?_
      subst eq
      exact Nat.le_of_not_lt fun notFull => other (.inr ⟨notFull, values, rfl⟩)
    -- No other edit answers with a position.
    | set | unset | removeRow | removeColumn | clear => cases none
  · exact congrArg Prod.snd (set_of_outside outside value)

end Store

end Tabular
