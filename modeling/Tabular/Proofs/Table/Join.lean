import Tabular.Proofs.Table.Selection
import Tabular.Table.Join

/-!
# Joins and selection

A join takes the left rows one after the other, each with the right rows that hold its key. Those
are the rows that the test for the key selects from the right table, so the order of the pairs, and
which pairs there are, come from the selection. A column outside its table has no keys, so there the
join is empty with or without a check.
-/

namespace Tabular.Table

/-- A cell that is not empty is a cell of the table. -/
theorem inside_of_cell_eq_some {α : Type u} {t : Table α} {row column : Nat} {value : α}
    (held : t.cell row column = some value) : row < t.rowCount ∧ column < t.columnCount := by
  constructor
  · by_contra outside
    have empty := t.store.get?_eq_none_of_rowCount_le (Nat.le_of_not_lt outside) column
    exact Option.some_ne_none value (held.symm.trans empty)
  · by_contra outside
    have empty := t.store.get?_eq_none_of_columnCount_le row (Nat.le_of_not_lt outside)
    exact Option.some_ne_none value (held.symm.trans empty)

variable {α : Type u} [DecidableEq α] [Ord α]

/-- A cell equals a key exactly if it holds it. -/
theorem accepts_equal_iff {key : α} {content : Option α} :
    (CellTest.equal key).accepts content = true ↔ content = some key := by
  cases content with
  | none => exact ⟨nofun, nofun⟩
  | some cell => exact decide_eq_true_iff.trans Option.some_inj.symm

/-- The test for a key selects the rows that hold it. -/
theorem mem_select_equal_iff {t : Table α} {row column : Nat} {key : α} :
    row ∈ t.select (.test column (.equal key)) ↔
      row < t.rowCount ∧ t.cell row column = some key := by
  rw [mem_select_iff, Condition.satisfied_test_iff, accepts_equal_iff]

/-- The right rows that a left row joins, ascending. -/
def partners (left right : Table α) (leftColumn rightColumn l : Nat) : List Nat :=
  match left.cell l leftColumn with
  | none => []
  | some key => right.select (.test rightColumn (.equal key))

section Pairs

variable {left right : Table α} {lc rc l r : Nat}

/-- The partners of a row with a key are what a scan for the key selects. -/
theorem partners_of_key {key : α} (held : left.cell l lc = some key) :
    left.partners right lc rc l = right.select (.test rc (.equal key)) := by
  rw [partners, held]

/-- The partners of a row are the rows with the same key. -/
theorem mem_partners_iff : r ∈ left.partners right lc rc l ↔
    r < right.rowCount ∧ ∃ key, left.cell l lc = some key ∧ right.cell r rc = some key := by
  unfold partners
  cases left.cell l lc with
  | none => simp
  | some key => simp [mem_select_equal_iff]

/-- The partners of a row are listed in ascending order. -/
theorem pairwise_partners (left right : Table α) (lc rc l : Nat) :
    (left.partners right lc rc l).Pairwise (· < ·) := by
  unfold partners
  cases left.cell l lc with
  | none => exact .nil
  | some key => exact List.pairwise_lt_range.filter _

/-- The join is the left rows with their partners, whatever the columns are. -/
theorem join_eq (left right : Table α) (lc rc : Nat) : left.join right lc rc
    = (List.range left.rowCount).flatMap fun l => (left.partners right lc rc l).map (l, ·) := by
  by_cases inside : lc < left.columnCount ∧ rc < right.columnCount
  · rw [join, if_pos inside]
    refine List.flatMap_congr fun l _ => ?_
    unfold partners
    cases left.cell l lc with
    | none => rfl
    | some key =>
      refine congrArg (List.map (l, ·)) (List.filter_congr fun r _ => ?_)
      rw [Bool.eq_iff_iff, decide_eq_true_iff, Condition.holds, accepts_equal_iff]
  -- A row with a partner has its key inside both tables.
  · have alone (l : Nat) : left.partners right lc rc l = [] := by
      refine List.eq_nil_iff_forall_not_mem.2 fun r partner => inside ?_
      obtain ⟨-, key, held, held'⟩ := mem_partners_iff.1 partner
      exact ⟨(inside_of_cell_eq_some held).2, (inside_of_cell_eq_some held').2⟩
    rw [join, if_neg inside, eq_comm, List.flatMap_eq_nil_iff]
    exact fun l _ => by rw [alone, List.map_nil]

/-- A pair is joined exactly if both rows are there and hold the same key. -/
theorem mem_join_iff : (l, r) ∈ left.join right lc rc ↔ l < left.rowCount ∧ r < right.rowCount ∧
    ∃ key, left.cell l lc = some key ∧ right.cell r rc = some key := by
  rw [join_eq, List.mem_flatMap, ← mem_partners_iff]
  constructor
  · rintro ⟨i, inside, mem⟩
    obtain ⟨j, partner, same⟩ := List.mem_map.1 mem
    cases same
    exact ⟨List.mem_range.1 inside, partner⟩
  · rintro ⟨inside, partner⟩
    exact ⟨l, List.mem_range.2 inside, List.mem_map.2 ⟨r, partner, rfl⟩⟩

/-- Pairs are joined in the order of the left rows, and then of the right ones. -/
theorem pairwise_join (left right : Table α) (lc rc : Nat) :
    (left.join right lc rc).Pairwise (Prod.Lex (· < ·) (· < ·)) := by
  rw [join_eq, List.pairwise_flatMap]
  constructor
  -- The pairs of one left row are in order of the right row.
  · intro l _
    rw [List.pairwise_map]
    exact (pairwise_partners left right lc rc l).imp fun less => .right l less
  -- Those of an earlier left row come first.
  · refine List.pairwise_lt_range.imp fun less x xmem y ymem => ?_
    obtain ⟨r, -, rfl⟩ := List.mem_map.1 xmem
    obtain ⟨r', -, rfl⟩ := List.mem_map.1 ymem
    exact .left r r' less

/-- The right rows that stand beside a left row in the join are its partners. -/
theorem map_snd_filter_join (left right : Table α) (lc rc l : Nat) :
    ((left.join right lc rc).filter (·.1 = l)).map Prod.snd = left.partners right lc rc l := by
  -- Both lists ascend strictly, so it is enough that they have the same members.
  have ascending : (((left.join right lc rc).filter (·.1 = l)).map Prod.snd).Pairwise (· < ·) := by
    rw [List.pairwise_map, List.pairwise_filter]
    refine (pairwise_join left right lc rc).imp fun {x y} before hx hy => ?_
    obtain ⟨_, _, less⟩ | ⟨_, less⟩ := before
    · rw [decide_eq_true_iff] at hx hy
      exact absurd (hx.trans hy.symm) (Nat.ne_of_lt less)
    · exact less
  refine ascending.eq_of_mem_iff (pairwise_partners left right lc rc l) fun r => ?_
  rw [mem_partners_iff, List.mem_map]
  constructor
  · rintro ⟨⟨i, j⟩, mem, rfl⟩
    rw [List.mem_filter, decide_eq_true_iff] at mem
    obtain ⟨mem, rfl⟩ := mem
    exact (mem_join_iff.1 mem).2
  · intro partner
    have ⟨_, key, held, _⟩ := partner
    have pair : (l, r) ∈ left.join right lc rc :=
      mem_join_iff.2 ⟨(inside_of_cell_eq_some held).1, partner⟩
    exact ⟨(l, r), List.mem_filter.2 ⟨pair, decide_eq_true rfl⟩, rfl⟩

end Pairs

/-- A join is an exact, ordered inner join. Its pairs are strictly in order of the left row and then
of the right one, and they are the rows that hold the same key; empty cells are no keys. There are
none when a column is outside its table. A left row with a key is paired with the right rows that
the test for the key selects, and the join of the exchanged tables has the exchanged pairs. -/
theorem join_exact (left right : Table α) (lc rc : Nat) :
    (left.join right lc rc).Pairwise (Prod.Lex (· < ·) (· < ·)) ∧
    (∀ l r, (l, r) ∈ left.join right lc rc ↔ l < left.rowCount ∧ r < right.rowCount ∧
      ∃ key, left.cell l lc = some key ∧ right.cell r rc = some key) ∧
    (left.columnCount ≤ lc ∨ right.columnCount ≤ rc → left.join right lc rc = []) ∧
    (∀ l key, left.cell l lc = some key →
      ((left.join right lc rc).filter (·.1 = l)).map Prod.snd
        = right.select (.test rc (.equal key))) ∧
    ∀ l r, (r, l) ∈ right.join left rc lc ↔ (l, r) ∈ left.join right lc rc := by
  refine ⟨pairwise_join left right lc rc, fun l r => mem_join_iff, fun outside => ?_,
    fun l key held => ?_, fun l r => ?_⟩
  · rw [join, if_neg]
    rintro ⟨insideLeft, insideRight⟩
    exact outside.elim (Nat.not_le_of_lt insideLeft) (Nat.not_le_of_lt insideRight)
  · rw [map_snd_filter_join, partners_of_key held]
  · rw [mem_join_iff, mem_join_iff, and_left_comm]
    exact and_congr_right fun _ => and_congr_right fun _ => exists_congr fun _ => and_comm

/-- Keys that occur twice on both sides, a row without a key, and a column that is not there. -/
theorem join_exact_duplicates :
    let left : Table Nat := empty.run [.set 0 0 7, .set 2 0 7, .set 3 0 3]
    let right : Table Nat := empty.run [.set 1 1 7, .set 2 1 3, .set 3 1 7]
    left.join right 0 1 = [(0, 1), (0, 3), (2, 1), (2, 3), (3, 2)] ∧
      right.select (.test 1 (.equal 7)) = [1, 3] ∧
      (3, 2) ∈ right.join left 1 0 ∧ left.join right 0 2 = [] := by
  intro left right
  have joined : left.join right 0 1 = [(0, 1), (0, 3), (2, 1), (2, 3), (3, 2)] := by
    unfold left right
    cbv
  obtain ⟨-, -, -, paired, exchanged⟩ := left.join_exact right 0 1
  obtain ⟨-, -, outside, -⟩ := left.join_exact right 0 2
  rw [joined] at paired exchanged
  refine ⟨joined, ?_, (exchanged 2 3).2 (by decide), outside (.inr ?_)⟩
  · exact (paired 2 7 (by unfold left; cbv)).symm
  · unfold right
    cbv

end Tabular.Table
