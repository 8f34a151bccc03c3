import Mathlib.Data.List.Sort
import Tabular.Proofs.Index.Checked
import Tabular.Proofs.Index.Places

/-!
# Looking values up

What the point queries of an index answer, in terms of a scan of its values by position. All of them
read the run of a value, in which equal values stand in the order of writing. The run has the same
members as the scan, which is sorted (`WellFormed.positionsOf_eq_scan`), and its least and its
greatest member are the ends of the sorted run, so that no answer depends on the order of equal
values (`WellFormed.finds`).
-/

namespace Tabular.SortedIndex

/-! ## The ends of a sorted list -/

section Ends

variable {xs ys : List Nat}

/-- The least member does not depend on the order. -/
theorem min?_eq_of_perm (perm : xs.Perm ys) : xs.min? = ys.min? := by
  refine Option.ext fun n => ?_
  simp only [List.min?_eq_some_iff, perm.mem_iff]

/-- The greatest member does not depend on the order. -/
theorem max?_eq_of_perm (perm : xs.Perm ys) : xs.max? = ys.max? := by
  refine Option.ext fun n => ?_
  simp only [List.max?_eq_some_iff, perm.mem_iff]

/-- The least member is the first one of the sorted list. -/
theorem min?_eq_head?_mergeSort (xs : List Nat) : xs.min? = (xs.mergeSort (· ≤ ·)).head? := by
  have sorted := List.pairwise_mergeSort' (· ≤ ·) xs
  calc xs.min? = (xs.mergeSort (· ≤ ·)).min? := min?_eq_of_perm (List.mergeSort_perm xs _).symm
    _ = (xs.mergeSort (· ≤ ·)).head? := List.min?_eq_head? (sorted.imp Nat.min_eq_left)

/-- The greatest member is the last one of the sorted list. -/
theorem max?_eq_getLast?_mergeSort (xs : List Nat) :
    xs.max? = (xs.mergeSort (· ≤ ·)).getLast? := by
  have sorted := List.pairwise_mergeSort' (· ≤ ·) xs
  have descending : (xs.mergeSort (· ≤ ·)).reverse.Pairwise fun m n => max m n = m :=
    List.pairwise_reverse.2 (sorted.imp Nat.max_eq_left)
  have perm : xs.Perm (xs.mergeSort (· ≤ ·)).reverse :=
    (List.mergeSort_perm xs _).symm.trans (List.reverse_perm _).symm
  calc xs.max? = (xs.mergeSort (· ≤ ·)).reverse.max? := max?_eq_of_perm perm
    _ = (xs.mergeSort (· ≤ ·)).reverse.head? := List.max?_eq_head? descending
    _ = (xs.mergeSort (· ≤ ·)).getLast? := List.head?_reverse

end Ends

/-! ## The scan -/

variable {α : Type u} [Ord α] {x : SortedIndex α} {value : α}

/-- The positions at which a list holds a value, ascending, found by looking at every one. -/
def scan (xs : List α) (value : α) : List Nat :=
  xs.findIdxs fun other => (compare other value).isEq

/-- The scan finds the positions of values that compare equal. -/
theorem mem_scan {xs : List α} {position : Nat} :
    position ∈ scan xs value ↔
      ∃ other, xs[position]? = some other ∧ (compare other value).isEq := by
  unfold scan
  rw [List.mem_findIdxs_iff_exists_getElem_pos]
  constructor
  · rintro ⟨inside, equal⟩
    exact ⟨_, List.getElem?_eq_getElem inside, equal⟩
  · rintro ⟨other, found, equal⟩
    obtain ⟨inside, rfl⟩ := List.getElem?_eq_some_iff.1 found
    exact ⟨inside, equal⟩

/-- The scan finds positions in ascending order. -/
theorem pairwise_scan (xs : List α) (value : α) : (scan xs value).Pairwise (· < ·) :=
  List.pairwise_findIdxs

variable [Std.TransOrd α]

/-- The positions of a value are listed once. -/
theorem WellFormed.nodup_run (h : x.WellFormed) (value : α) : (x.run value).Nodup := by
  rw [h.run_eq]
  exact (h.perm.nodup_iff.2 List.nodup_range).filter _

/-- The sorted run of a value is the scan. -/
theorem WellFormed.positionsOf_eq_scan (h : x.WellFormed) (value : α) :
    x.positionsOf value = scan x.toList value := by
  have distinct : (scan x.toList value).Nodup := (pairwise_scan _ _).imp Nat.ne_of_lt
  have perm : (x.run value).Perm (scan x.toList value) :=
    (List.perm_ext_iff_of_nodup (h.nodup_run value) distinct).2 fun _ => h.mem_run.trans mem_scan.symm
  -- Two ascending lists of the same members are equal.
  have sorted : (x.positionsOf value).Pairwise (· ≤ ·) := List.pairwise_mergeSort' (· ≤ ·) _
  have sorted' : (scan x.toList value).Pairwise (· ≤ ·) := (pairwise_scan _ _).imp Nat.le_of_lt
  exact ((List.mergeSort_perm _ _).trans perm).eq_of_pairwise (fun _ _ _ _ => Nat.le_antisymm)
    sorted sorted'

/-! ## The answers -/

/-- What the point queries answer for a value that stands at these positions, which ascend. -/
structure Finds (x : SortedIndex α) (value : α) (positions : List Nat) : Prop where
  positionsOf : x.positionsOf value = positions
  firstPosition? : x.firstPosition? value = positions.head?
  lastPosition? : x.lastPosition? value = positions.getLast?
  contains : x.contains value = true ↔ positions ≠ []

/-- An index finds what a scan finds, in whatever order its equal values stand. -/
theorem WellFormed.finds (h : x.WellFormed) (value : α) : x.Finds value (scan x.toList value) where
  positionsOf := h.positionsOf_eq_scan value
  firstPosition? := by
    rw [← h.positionsOf_eq_scan]
    exact min?_eq_head?_mergeSort _
  lastPosition? := by
    rw [← h.positionsOf_eq_scan]
    exact max?_eq_getLast?_mergeSort _
  contains := by
    have none : x.positionsOf value = [] ↔ x.run value = [] := by
      rw [← List.length_eq_zero_iff, ← List.length_eq_zero_iff, SortedIndex.positionsOf,
        List.length_mergeSort]
    rw [← h.positionsOf_eq_scan, ne_eq, none, SortedIndex.contains, Bool.not_eq_true',
      List.isEmpty_eq_false_iff]

/-- In any state that edits reach from the index of no values, the point queries of a value find
exactly its positions, in strictly ascending order, the first and the last of them, and whether
there are any. An index with the same values in another order of writing finds the same. No check of
the search for the run that all of them read fails. -/
theorem applyAll_finds_scan {α : Type} [Ord α] [Std.TransOrd α] (edits : List (Edit α))
    (value : α) :
    let x : SortedIndex α := empty.applyAll edits
    let positions := scan x.toList value
    (positions.Pairwise (· < ·) ∧ ∀ position, position ∈ positions ↔
      ∃ other, x.get? position = some other ∧ compare other value = .eq) ∧
    (Std.LawfulEqOrd α → ∀ position, position ∈ positions ↔ x.get? position = some value) ∧
    x.Finds value positions ∧
    (∀ y : SortedIndex α, y.WellFormed → y.toList = x.toList → y.Finds value positions) ∧
    x.runChecked value = .ok (x.run value) := by
  intro x positions
  have h : x.WellFormed := ((follows_empty 0).applyAll edits).wellFormed
  have mem : ∀ position, position ∈ positions ↔
      ∃ other, x.get? position = some other ∧ compare other value = .eq := by
    intro position
    rw [mem_scan, toList, Array.getElem?_toList]
    simp only [Ordering.isEq_iff_eq_eq]
    rfl
  refine ⟨⟨pairwise_scan _ _, mem⟩, fun lawful position => ?_, h.finds value,
    fun y wellFormed same => ?_, h.runChecked value⟩
  · rw [mem]
    simp only [Std.LawfulEqOrd.compare_eq_iff_eq, exists_eq_right]
  · have found := wellFormed.finds value
    rwa [same] at found

/-- The last of three equal values was written over first and the first one last, and a value that
does not occur is looked up. -/
theorem applyAll_finds_scan_written_over :
    let edits : List (Edit Nat) := [.addAll [3, 1, 3, 3], .set 3 3, .set 0 3, .insert 0 5]
    let x : SortedIndex Nat := empty.applyAll edits
    x.run 3 = [1, 4, 3] ∧ x.positionsOf 3 = [1, 3, 4] ∧ x.firstPosition? 3 = some 1 ∧
      x.lastPosition? 3 = some 4 ∧ x.contains 3 = true ∧ x.lastPosition? 4 = none ∧
      ∀ position, position ∈ x.positionsOf 3 ↔ x.get? position = some 3 := by
  intro edits x
  obtain ⟨-, mem, finds, -⟩ := applyAll_finds_scan edits 3
  obtain ⟨-, -, absent, -⟩ := applyAll_finds_scan edits 4
  have positions : scan x.toList 3 = [1, 3, 4] := by
    unfold x edits
    cbv
  have none : scan x.toList 4 = [] := by
    unfold x edits
    cbv
  have run : x.run 3 = [1, 4, 3] := by
    unfold x edits
    cbv
  refine ⟨run, finds.positionsOf.trans positions, ?_, ?_, ?_, ?_, fun position => ?_⟩
  · rw [finds.firstPosition?, positions]
    rfl
  · rw [finds.lastPosition?, positions]
    rfl
  · rw [finds.contains, positions]
    exact List.cons_ne_nil _ _
  · rw [absent.lastPosition?, none]
    rfl
  · rw [finds.positionsOf]
    exact mem inferInstance position

end Tabular.SortedIndex
