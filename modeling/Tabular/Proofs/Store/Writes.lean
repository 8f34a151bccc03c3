import Mathlib.Data.List.Pairwise
import Tabular.Proofs.Store.CapacityLaw
import Tabular.Proofs.Store.Refinement

/-!
# Writes in any order

After a list of writes a store has as many lines as the writes need, capacities that have grown as
far as these lines need, and the content with every value written (`Store.Written`). The lines and
the content are folds over the writes, and a fold does not depend on the order when its steps
commute: steps that take a maximum always do, and those that write into a content do for different
cells. How far a capacity has grown is seen from the lines alone. So no read tells which order the
writes had, and since no write changes the cell of another, each answers what its cell held at the
start.
-/

namespace Tabular

/-! ## Capacities -/

/-- There is one capacity to which an axis grows for so many positions. -/
theorem Axis.Grown.capacity_eq {a b c : Axis} (first : Grown a b) (second : Grown a c)
    (hb : b.WellFormed) (hc : c.WellFormed) (size : b.size = c.size) :
    b.capacity = c.capacity := by
  by_cases fits : b.size ≤ a.capacity
  · rw [first.kept fits, second.kept (size ▸ fits)]
  · have short : a.capacity < b.size := Nat.lt_of_not_le fits
    have half : b.capacity / 2 < b.size := first.doubled short
    have half' : c.capacity / 2 < c.size := second.doubled (size ▸ short)
    have enough : b.size ≤ b.capacity := hb.size_le_capacity
    have enough' : c.size ≤ c.capacity := hc.size_le_capacity
    have power := hb.valid.isPowerOfTwo
    have power' := hc.valid.isPowerOfTwo
    -- The half of a larger power of two would hold all positions.
    rcases Nat.lt_trichotomy b.capacity c.capacity with lt | eq | gt
    · have := Capacity.two_mul_le_of_lt power power' lt
      omega
    · exact eq
    · have := Capacity.two_mul_le_of_lt power' power gt
      omega

namespace Store

variable {α : Type u} {s t : Store α}

/-! ## Stores that read alike -/

/-- No read tells the stores apart. -/
structure Alike (s t : Store α) : Prop where
  rowCount : s.rowCount = t.rowCount
  columnCount : s.columnCount = t.columnCount
  rowCapacity : s.rowCapacity = t.rowCapacity
  columnCapacity : s.columnCapacity = t.columnCapacity
  get? : ∀ row column, s.get? row column = t.get? row column
  row? : ∀ row, s.row? row = t.row? row
  column? : ∀ column, s.column? column = t.column? column

/-- Stores that hold the same read alike if they have the same capacities. -/
theorem alike_of_holds {rowCount columnCount : Nat} {content : Content α}
    (hs : s.Holds rowCount columnCount content) (ht : t.Holds rowCount columnCount content)
    (rows : s.rowCapacity = t.rowCapacity) (columns : s.columnCapacity = t.columnCapacity) :
    s.Alike t where
  rowCount := hs.rowCount.trans ht.rowCount.symm
  columnCount := hs.columnCount.trans ht.columnCount.symm
  rowCapacity := rows
  columnCapacity := columns
  get? row column := (hs.get? row column).trans (ht.get? row column).symm
  row? row := by
    rw [row?_eq, row?_eq, hs.rowCount, hs.columnCount, hs.content_eq, ht.rowCount, ht.columnCount,
      ht.content_eq]
  column? column := by
    rw [hs.wellFormed.column?_eq, ht.wellFormed.column?_eq, hs.rowCount, hs.columnCount,
      hs.content_eq, ht.rowCount, ht.columnCount, ht.content_eq]

/-! ## Writes as data -/

/-- A value and the cell into which it is written. -/
structure Write (α : Type u) where
  row : Nat
  column : Nat
  value : α
deriving Repr, DecidableEq

namespace Write

/-- The write as an edit. -/
def edit (w : Write α) : Edit α := .set w.row w.column w.value

/-- The cell is one that a store can have. -/
def Possible (w : Write α) : Prop := w.row < Capacity.maxSlots ∧ w.column < Capacity.maxSlots

/-- The writes go to different cells. -/
def Apart (w w' : Write α) : Prop := w.row ≠ w'.row ∨ w.column ≠ w'.column

instance (w : Write α) : Decidable w.Possible := inferInstanceAs (Decidable (_ ∧ _))

instance (w w' : Write α) : Decidable (w.Apart w') := inferInstanceAs (Decidable (_ ∨ _))

/-- It does not matter which of two writes is named first. -/
theorem Apart.symm {w w' : Write α} (apart : w.Apart w') : w'.Apart w :=
  apart.imp Ne.symm Ne.symm

instance : Std.Symm (@Apart α) := ⟨fun _ _ => Apart.symm⟩

/-- The content after the write. -/
def on (content : Content α) (w : Write α) : Content α :=
  Content.write w.row w.column (some w.value) content

/-- A write changes no other cell. -/
theorem on_of_apart (content : Content α) {w w' : Write α} (apart : w.Apart w') :
    w.on content w'.row w'.column = content w'.row w'.column :=
  if_neg fun same => apart.elim (fun ne => ne same.1.symm) fun ne => ne same.2.symm

/-- Writes to different cells commute. -/
theorem on_comm (content : Content α) {w w' : Write α} (apart : w.Apart w') :
    w'.on (w.on content) = w.on (w'.on content) := by
  funext i j
  unfold on Content.write
  by_cases first : i = w.row ∧ j = w.column
  · have second : ¬ (i = w'.row ∧ j = w'.column) := fun same =>
      apart.elim (fun ne => ne (first.1.symm.trans same.1)) fun ne => ne (first.2.symm.trans same.2)
    rw [if_neg second, if_pos first, if_pos first]
  · rw [if_neg first, if_neg first]

end Write

/-! ## What the writes of a list make of a store -/

/-- `t` is `s` with as many lines as the writes need, and what is written into the cells. -/
structure Written (s : Store α) (writes : List (Write α)) (t : Store α) : Prop where
  holds : t.Holds (writes.foldl (fun count w => max count (w.row + 1)) s.rowCount)
    (writes.foldl (fun count w => max count (w.column + 1)) s.columnCount)
    (writes.foldl Write.on s.get?)
  grown : Grown s t

/-- A run of writes performs them all. -/
theorem WellFormed.written (h : s.WellFormed) {writes : List (Write α)}
    (possible : ∀ w ∈ writes, w.Possible) :
    s.Written writes (s.run (writes.map Write.edit)) := by
  induction writes generalizing s with
  | nil => exact ⟨h.holds, .refl s⟩
  | cons w writes ih =>
    obtain ⟨hr, hc⟩ := possible w List.mem_cons_self
    have first := (h.set_spec hr hc w.value).2
    have rest := ih first.wellFormed fun w' mem => possible w' (List.mem_cons_of_mem w mem)
    have holds := rest.holds
    rw [first.rowCount, first.columnCount, first.content_eq] at holds
    exact ⟨holds, (grown_set s w.row w.column w.value).trans rest.grown⟩

/-- The order of writes to different cells cannot be read. -/
theorem Written.alike {writes writes' : List (Write α)} (first : s.Written writes t)
    {t' : Store α} (second : s.Written writes' t') (apart : writes.Pairwise Write.Apart)
    (perm : writes.Perm writes') : t.Alike t' := by
  have rows : writes.foldl (fun count w => max count (w.row + 1)) s.rowCount
      = writes'.foldl (fun count w => max count (w.row + 1)) s.rowCount :=
    perm.foldl_eq' (fun w _ w' _ count => Nat.max_right_comm _ _ _) _
  have columns : writes.foldl (fun count w => max count (w.column + 1)) s.columnCount
      = writes'.foldl (fun count w => max count (w.column + 1)) s.columnCount :=
    perm.foldl_eq' (fun w _ w' _ count => Nat.max_right_comm _ _ _) _
  have content : writes.foldl Write.on s.get? = writes'.foldl Write.on s.get? := by
    refine perm.foldl_eq' (fun w mem w' mem' content => ?_) _
    by_cases same : w = w'
    · rw [same]
    · exact Write.on_comm content (apart.forall mem mem' same)
  have ht := first.holds
  rw [rows, columns, content] at ht
  have ht' := second.holds
  refine alike_of_holds ht ht' ?_ ?_
  · exact first.grown.rows.capacity_eq second.grown.rows ht.wellFormed.rows ht'.wellFormed.rows
      (ht.rowCount.trans ht'.rowCount.symm)
  · exact first.grown.columns.capacity_eq second.grown.columns ht.wellFormed.columns
      ht'.wellFormed.columns (ht.columnCount.trans ht'.columnCount.symm)

/-! ## What the writes answer -/

/-- What the edits of a list answer, one after the other. -/
def answers (s : Store α) : List (Edit α) → List (Edit.Answer α)
  | [] => []
  | e :: edits => (s.apply e).1 :: (s.apply e).2.answers edits

/-- A write to a cell of its own answers what the cell held before all writes. -/
theorem WellFormed.answers_writes (h : s.WellFormed) {writes : List (Write α)}
    (possible : ∀ w ∈ writes, w.Possible) (apart : writes.Pairwise Write.Apart) :
    s.answers (writes.map Write.edit) = writes.map fun w => .content (s.get? w.row w.column) := by
  induction writes generalizing s with
  | nil => rfl
  | cons w writes ih =>
    obtain ⟨hr, hc⟩ := possible w List.mem_cons_self
    obtain ⟨answer, first⟩ := h.set_spec hr hc w.value
    rw [List.pairwise_cons] at apart
    have rest := ih first.wellFormed (fun w' mem => possible w' (List.mem_cons_of_mem w mem))
      apart.2
    have kept : ∀ w' ∈ writes, (s.set w.row w.column w.value).2.get? w'.row w'.column
        = s.get? w'.row w'.column := fun w' mem =>
      (first.get? w'.row w'.column).trans (w.on_of_apart s.get? (apart.1 w' mem))
    have later : writes.map (fun w' => Edit.Answer.content
          ((s.set w.row w.column w.value).2.get? w'.row w'.column))
        = writes.map fun w' => .content (s.get? w'.row w'.column) :=
      List.map_congr_left fun w' mem => congrArg Edit.Answer.content (kept w' mem)
    rw [List.map_cons, List.map_cons, answers]
    exact congrArg₂ List.cons (congrArg Edit.Answer.content answer) (rest.trans later)

/-! ## Every order -/

/-- Writes to different cells can be performed in any order. In a store that a run leads to, started
at capacities up to `maxSlots`, the same writes in two orders, each to a cell of its own within
`maxSlots` rows and columns, lead to stores that read alike: counts, capacities, cells, rows and
columns. In both orders each write answers what its cell held before all of them. -/
theorem run_writes_perm {rows columns : Nat} (hr : rows ≤ Capacity.maxSlots)
    (hc : columns ≤ Capacity.maxSlots) (edits : List (Edit α)) {writes writes' : List (Write α)}
    (possible : ∀ w ∈ writes, w.Possible) (apart : writes.Pairwise Write.Apart)
    (perm : writes.Perm writes') :
    let s : Store α := (withCapacity rows columns).run edits
    (s.run (writes.map Write.edit)).Alike (s.run (writes'.map Write.edit)) ∧
      s.answers (writes.map Write.edit)
        = writes.map (fun w => .content (s.get? w.row w.column)) ∧
      s.answers (writes'.map Write.edit)
        = writes'.map fun w => .content (s.get? w.row w.column) := by
  intro s
  have h : s.WellFormed := (wellFormed_withCapacity hr hc).run edits
  have possible' : ∀ w ∈ writes', w.Possible := fun w mem => possible w (perm.mem_iff.2 mem)
  have apart' : writes'.Pairwise Write.Apart := (perm.pairwise_iff .symm).1 apart
  refine ⟨(h.written possible).alike (h.written possible') apart perm, ?_, ?_⟩
  · exact h.answers_writes possible apart
  · exact h.answers_writes possible' apart'

/-- Two writes that grow a packed store and one to a cell that is there, in two orders. -/
theorem run_writes_perm_churn :
    let s : Store Nat := (withCapacity 1 2).run churn
    let far : Write Nat := ⟨9, 0, 1⟩
    let wide : Write Nat := ⟨0, 5, 2⟩
    let old : Write Nat := ⟨0, 1, 3⟩
    (s.run [far.edit, wide.edit, old.edit]).Alike (s.run [old.edit, far.edit, wide.edit]) ∧
      s.answers [far.edit, wide.edit, old.edit] = [.content none, .content none, .content (some 6)] ∧
      s.answers [old.edit, far.edit, wide.edit]
        = [.content (some 6), .content none, .content none] := by
  intro s far wide old
  have hr : 1 ≤ Capacity.maxSlots := by decide
  have hc : 2 ≤ Capacity.maxSlots := by decide
  have possible : ∀ w ∈ [far, wide, old], w.Possible := by decide
  have apart : [far, wide, old].Pairwise Write.Apart := by decide
  have perm : [far, wide, old].Perm [old, far, wide] := by decide
  have cells : s.get? 9 0 = none ∧ s.get? 0 5 = none ∧ s.get? 0 1 = some 6 := by
    unfold s churn
    cbv
  obtain ⟨alike, first, second⟩ := run_writes_perm hr hc churn possible apart perm
  refine ⟨alike, first.trans ?_, second.trans ?_⟩
  · show [Edit.Answer.content (s.get? 9 0), .content (s.get? 0 5), .content (s.get? 0 1)] = _
    rw [cells.1, cells.2.1, cells.2.2]
  · show [Edit.Answer.content (s.get? 0 1), .content (s.get? 9 0), .content (s.get? 0 5)] = _
    rw [cells.1, cells.2.1, cells.2.2]

end Store

end Tabular
