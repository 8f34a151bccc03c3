import Tabular.Proofs.Store.Refusal
import Tabular.Proofs.Store.Run
import Tabular.Proofs.Table.Edits

/-!
# Edits of a table that do not fit

A table passes on what its store refuses, so an edit of lines within the table that is not refused
had room. An edit of a table is refused without an effect, also where the store would be padded: a
table is not asked to insert a line past its end. Only naming a column goes further, and so a name
for the column `maxSlots` leaves a table without a name and with as many columns as there can be.
-/

namespace Tabular

variable {α : Type u}

namespace Table

variable {t : Table α}

/-- A name is refused without an effect, unless the table is padded up to its column. -/
theorem allOrNothing_setHeader (h : t.store.WellFormed) {column : Nat} (text : String)
    (other : column = Capacity.maxSlots → Capacity.maxSlots ≤ t.columnCount) :
    AllOrNothing t (t.setHeader column text) := by
  have short : ([] : List α).length ≤ Capacity.maxSlots := Nat.zero_le _
  unfold setHeader
  split
  · exact allOrNothing_of_ok rfl
  · split
    · exact allOrNothing_of_ok rfl
    · next store eq =>
      have same := h.insertColumn_eq_self short (congrArg Prod.fst eq) other
      rw [eq] at same
      refine allOrNothing_of_eq ?_
      dsimp only at same ⊢
      rw [same]

/-- A column is inserted with all its values, or the table is as it was. -/
theorem allOrNothing_insertColumn (h : t.store.WellFormed) (column : Nat) {values : List α}
    (short : values.length ≤ Capacity.maxSlots) :
    AllOrNothing t (t.insertColumn column values) := by
  unfold insertColumn
  split
  · exact allOrNothing_of_eq rfl
  · next inside =>
    split
    · exact allOrNothing_of_ok rfl
    · next store eq =>
      -- A column within the table is not padded up to.
      have other : column = Capacity.maxSlots → Capacity.maxSlots ≤ t.store.columnCount :=
        fun at_end => at_end ▸ Nat.le_of_not_lt inside
      have same := h.insertColumn_eq_self short (congrArg Prod.fst eq) other
      rw [eq] at same
      refine allOrNothing_of_eq ?_
      dsimp only at same ⊢
      rw [same]

/-- A name for the column behind the last one that there can be is refused after the padding. -/
theorem setHeader_maxSlots (h : t.store.WellFormed) (notFull : t.columnCount < Capacity.maxSlots)
    (text : String) :
    t.setHeader Capacity.maxSlots text = (.error (.slotUnavailable .column),
      { t with store := (t.store.insertColumn Capacity.maxSlots []).2 }) := by
  obtain ⟨s', inserted, -⟩ := h.insertColumn_maxSlots notFull []
  unfold setHeader
  rw [if_neg (Nat.not_lt_of_le (Nat.le_of_lt notFull)), inserted]

/-! ## Where there is room -/

/-- A row is inserted only if there is room for it and for its values. -/
theorem room_of_insertRow (h : t.store.WellFormed) {row : Nat} {values : List α}
    (inside : row ≤ t.rowCount)
    (made : (t.insertRow row values).1 ≠ .error (.slotUnavailable .row)) :
    max t.store.rowCount row < Capacity.maxSlots ∧ values.length ≤ Capacity.maxSlots := by
  refine h.isSome_insertRow_iff.1 ?_
  unfold insertRow at made
  rw [if_neg (Nat.not_lt_of_le inside)] at made
  split at made
  · next eq =>
    rw [eq]
    rfl
  · exact absurd rfl made

/-- A column is inserted only if there is room for it and for its values. -/
theorem room_of_insertColumn (h : t.store.WellFormed) {column : Nat} {values : List α}
    (inside : column ≤ t.columnCount)
    (made : (t.insertColumn column values).1 ≠ .error (.slotUnavailable .column)) :
    max t.store.columnCount column < Capacity.maxSlots ∧ values.length ≤ Capacity.maxSlots := by
  refine h.isSome_insertColumn_iff.1 ?_
  unfold insertColumn at made
  rw [if_neg (Nat.not_lt_of_le inside)] at made
  split at made
  · next eq =>
    rw [eq]
    rfl
  · exact absurd rfl made

/-- A new column is named only if there is room for it. -/
theorem room_of_setHeader (h : t.store.WellFormed) {column : Nat} {text : String}
    (new : t.columnCount ≤ column)
    (named : (t.setHeader column text).1 ≠ .error (.slotUnavailable .column)) :
    column < Capacity.maxSlots := by
  have made : (t.store.insertColumn column []).1.isSome := by
    unfold setHeader at named
    rw [if_neg (Nat.not_lt_of_le new)] at named
    split at named
    · next eq =>
      rw [eq]
      rfl
    · exact absurd rfl named
  exact Nat.lt_of_le_of_lt (Nat.le_max_right _ _) (h.isSome_insertColumn_iff.1 made).1

/-- While there is room for a column it is inserted, and a place for its name with it. -/
theorem insertColumn_of_room (h : t.store.WellFormed) {column : Nat}
    (inside : column ≤ t.columnCount) {values : List α}
    (room : max t.store.columnCount column < Capacity.maxSlots)
    (short : values.length ≤ Capacity.maxSlots) :
    t.insertColumn column values = (.ok column,
      { store := (t.store.insertColumn column values).2
        headers :=
          if column < t.headers.size then t.headers.insertIdxIfInBounds column none
          else t.headers }) := by
  have inserted : t.store.insertColumn column values
      = (some column, (t.store.insertColumn column values).2) :=
    Prod.ext (h.insertColumn_spec room short).1 rfl
  unfold insertColumn
  rw [if_neg (Nat.not_lt_of_le inside), inserted]

/-- Where there are no more names than columns, appending a column is inserting it at the end. -/
theorem pushColumn_eq (h : t.store.WellFormed) (enough : t.headers.size ≤ t.columnCount)
    (values : List α) : t.pushColumn values = t.insertColumn t.columnCount values := by
  have added : t.store.addColumn values = t.store.insertColumn t.columnCount values := rfl
  unfold pushColumn insertColumn
  rw [if_neg (Nat.lt_irrefl _), added]
  cases eq : t.store.insertColumn t.columnCount values with
  | mk answer store =>
    cases answer with
    | none => rfl
    | some column =>
      have made : (t.store.insertColumn t.columnCount values).1.isSome := by
        rw [eq]
        rfl
      obtain ⟨room, short⟩ := h.isSome_insertColumn_iff.1 made
      have at_end := (h.insertColumn_spec room short).1
      rw [eq] at at_end
      cases at_end
      dsimp only
      rw [if_neg (Nat.not_lt_of_le enough)]

end Table

namespace Store

/-- A store that a run leads to, of capacities that an axis can have at the start, is left exactly
as it was by an insertion of at most `maxSlots` values or a write that does not fit, unless it is
padded in vain. So is a table over the store, whatever its names are. A store that is padded in vain
has as many lines on that axis as there can be, all the new ones empty. -/
theorem refused_eq_self_unless_padded {rows columns : Nat} (hr : rows ≤ Capacity.maxSlots)
    (hc : columns ≤ Capacity.maxSlots) (edits : List (Edit α)) :
    let s : Store α := (withCapacity rows columns).run edits
    (∀ e : Edit α, e.valueCount ≤ Capacity.maxSlots → s.Refuses e → ¬ s.PadsInVain e →
      (s.apply e).2 = s) ∧
    (∀ t : Table α, t.store = s →
      (∀ column text, (column = Capacity.maxSlots → Capacity.maxSlots ≤ t.columnCount) →
        AllOrNothing t (t.setHeader column text)) ∧
      ∀ position values, values.length ≤ Capacity.maxSlots →
        AllOrNothing t (t.pushRow values) ∧ AllOrNothing t (t.pushColumn values) ∧
          AllOrNothing t (t.insertRow position values) ∧
          AllOrNothing t (t.insertColumn position values)) ∧
    (∀ values, s.rowCount < Capacity.maxSlots →
      ∃ s', s.insertRow Capacity.maxSlots values = (none, s') ∧
        s'.rowCount = Capacity.maxSlots ∧ s'.rowCapacity = Capacity.maxSlots ∧
        s'.columns = s.columns ∧ s'.get? = s.get?) ∧
    ∀ values, s.columnCount < Capacity.maxSlots →
      ∃ s', s.insertColumn Capacity.maxSlots values = (none, s') ∧
        s'.columnCount = Capacity.maxSlots ∧ s'.columnCapacity = Capacity.maxSlots ∧
        s'.rows = s.rows ∧ s'.get? = s.get? ∧
        ∀ headers text, ({ store := s, headers } : Table α).setHeader Capacity.maxSlots text
          = (.error (.slotUnavailable .column),
              { store := (s.insertColumn Capacity.maxSlots []).2, headers }) := by
  intro s
  have h : s.WellFormed := (wellFormed_withCapacity hr hc).run edits
  refine ⟨fun e short refused other => h.apply_eq_self_of_refuses short refused other,
    fun t store => ?_, fun values notFull => ?_, fun values notFull => ?_⟩
  · have ht : t.store.WellFormed := store ▸ h
    refine ⟨fun column text => Table.allOrNothing_setHeader ht text,
      fun position values short => ?_⟩
    exact ⟨Table.allOrNothing_pushRow ht short, Table.allOrNothing_pushColumn ht short,
      Table.allOrNothing_insertRow ht position short,
      Table.allOrNothing_insertColumn ht position short⟩
  · obtain ⟨s', inserted, holds, columns⟩ := h.insertRow_maxSlots notFull values
    have capacity := holds.wellFormed.rows.capacity_of_full holds.rowCount
    exact ⟨s', inserted, holds.rowCount, capacity, columns, holds.content_eq⟩
  · obtain ⟨s', inserted, holds, rows⟩ := h.insertColumn_maxSlots notFull values
    have capacity := holds.wellFormed.columns.capacity_of_full holds.columnCount
    refine ⟨s', inserted, holds.columnCount, capacity, rows, holds.content_eq, ?_⟩
    exact fun headers text => Table.setHeader_maxSlots (t := ⟨s, headers⟩) h notFull text

/-- A write too far out changes nothing, but an insertion as far out leaves empty columns up to
it. -/
theorem refused_eq_self_unless_padded_narrow :
    let s : Store Nat := (withCapacity 1 1).run [.addRow [7]]
    (s.apply (.set 0 Capacity.maxSlots 8)).2 = s ∧
      (s.insertColumn Capacity.maxSlots []).1 = none ∧ s.columnCount = 1 ∧
      (s.insertColumn Capacity.maxSlots []).2.columnCount = Capacity.maxSlots := by
  have capacity : 1 ≤ Capacity.maxSlots := by decide
  intro s
  obtain ⟨kept, -, -, padded⟩ :=
    refused_eq_self_unless_padded (α := Nat) capacity capacity [.addRow [7]]
  have beyond : s.Refuses (.set 0 Capacity.maxSlots 8) :=
    .inr ⟨0, Capacity.maxSlots, 8, rfl, .inr (Nat.le_refl _)⟩
  have notPadded : ¬ s.PadsInVain (.set 0 Capacity.maxSlots 8) := by
    rintro (⟨-, values, eq⟩ | ⟨-, values, eq⟩)
    · cases eq
    · cases eq
  have added := ((wellFormed_withCapacity capacity capacity).insertRow_spec
    (show max 0 0 < Capacity.maxSlots by decide) (show [7].length ≤ Capacity.maxSlots by decide)).2
  have one : s.columnCount = 1 := added.columnCount
  obtain ⟨s', inserted, count, -⟩ := padded [] (by
    show s.columnCount < _
    rw [one]
    decide)
  refine ⟨kept _ (by decide) beyond notPadded, congrArg Prod.fst inserted, one, ?_⟩
  exact (congrArg (fun r => r.2.columnCount) inserted).trans count

end Store

end Tabular
