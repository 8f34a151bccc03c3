import Tabular.Proofs.Index.Checked
import Tabular.Proofs.Index.Queries

/-!
# Ranges of values

What the range queries of an index answer, in terms of its sorted entries. A query cuts a slice out
of the order, and the slice is the part of the sorted entries whose values are in the range
(`Ascending.above_eq_sorted` and its siblings). The slices below a value, at the value and above it
are next to each other and together the whole order (`Ascending.below_append_between_append_above`).

The queries are also written with each of their checks made, as the edits are: a search meets only
positions that have values, and a slice has its ends within the order, the lower one first.
-/

namespace Tabular.SortedIndex

/-! ## Parts of the sorted entries -/

section Sorted

variable {α : Type u} {x : SortedIndex α}

/-- The positions of the sorted entries whose values pass a test. -/
def sortedWhere (x : SortedIndex α) (test : α → Bool) : List Nat :=
  (x.sorted.filter fun entry => test entry.2).map Prod.fst

/-- The sorted positions whose values pass a test are those of the order. -/
theorem sortedWhere_eq (x : SortedIndex α) (test : α → Bool) :
    x.sortedWhere test
      = x.order.toList.filter fun position => x.values[position]?.any test := by
  unfold sortedWhere sorted
  rw [List.filter_filterMap, List.map_filterMap, ← List.filterMap_eq_filter]
  refine List.filterMap_congr fun position _ => ?_
  show _ = if x.values[position]?.any test then some position else none
  cases x.values[position]? with
  | none => rfl
  | some value =>
    rw [Option.map_some, Option.any_some, Option.filter_some]
    cases test value <;> rfl

/-- A test that every value fails selects nothing. -/
theorem sortedWhere_eq_nil {test : α → Bool} (fails : ∀ value, test value = false) :
    x.sortedWhere test = [] := by
  rw [sortedWhere_eq, List.filter_eq_nil_iff]
  intro position _ passes
  obtain ⟨value, -, passes⟩ := (Option.any_eq_true _ _).1 passes
  rw [fails] at passes
  cases passes

/-- A position is selected exactly when its value passes. -/
theorem WellFormed.mem_sortedWhere [Ord α] (h : x.WellFormed) {test : α → Bool} {position : Nat} :
    position ∈ x.sortedWhere test ↔ ∃ value, x.get? position = some value ∧ test value := by
  rw [sortedWhere_eq, List.mem_filter, h.perm.mem_iff, List.mem_range, Option.any_eq_true]
  constructor
  · rintro ⟨-, value, found, passes⟩
    exact ⟨value, found, passes⟩
  · rintro ⟨value, found, passes⟩
    exact ⟨(Array.getElem?_eq_some_iff.1 found).1, value, found, passes⟩

end Sorted

/-! ## The queries -/

section Queries

variable {α : Type u} [Ord α] [Std.TransOrd α] {x : SortedIndex α}

/-- The positions of larger values are the sorted ones whose value is larger. -/
theorem Ascending.above_eq_sorted (h : x.Ascending) (value : α) :
    x.above value = x.sortedWhere fun other => (compare other value).isGT := by
  rw [h.above_eq, sortedWhere_eq]
  rfl

/-- The positions of smaller values are the sorted ones whose value is smaller. -/
theorem Ascending.below_eq_sorted (h : x.Ascending) (value : α) :
    x.below value = x.sortedWhere fun other => (compare other value).isLT := by
  rw [h.below_eq, sortedWhere_eq]
  rfl

/-- Whether a value is from `low` to `high`. -/
def isWithin (low high other : α) : Bool := (compare other low).isGE && (compare other high).isLE

/-- The positions between two values are the sorted ones whose value is, and there is no answer
where there are none. -/
theorem Ascending.between?_eq_sorted (h : x.Ascending) (low high : α) :
    x.between? low high = if x.sortedWhere (isWithin low high) = [] then none
      else some (x.sortedWhere (isWithin low high)) := by
  have same : x.within low high = x.sortedWhere (isWithin low high) := by
    rw [sortedWhere_eq]
    refine List.filter_congr fun position _ => ?_
    unfold comparesAt
    cases x.values[position]? <;> rfl
  rw [h.between?_eq, same]

/-- No value is within reversed bounds. -/
theorem isWithin_of_reversed {low high : α} (reversed : compare low high = .gt) (other : α) :
    isWithin low high other = false := by
  rw [Bool.eq_false_iff]
  intro inside
  obtain ⟨fromLow, toHigh⟩ := (Bool.and_eq_true _ _).mp inside
  have fromLow' : (compare low other).isLE := by
    rwa [Std.OrientedOrd.eq_swap, Ordering.isLE_swap]
  have ordered : (compare low high).isLE := Std.TransOrd.isLE_trans fromLow' toHigh
  rw [reversed] at ordered
  cases ordered

/-- Between reversed bounds there is no answer. -/
theorem Ascending.between?_of_reversed (h : x.Ascending) {low high : α}
    (reversed : compare low high = .gt) : x.between? low high = none := by
  rw [h.between?_eq_sorted, if_pos (sortedWhere_eq_nil (isWithin_of_reversed reversed))]

omit [Std.TransOrd α] in
/-- Between a value and itself there is the run of the value, also when it is empty. -/
theorem getD_between?_self (x : SortedIndex α) (value : α) :
    (x.between? value value).getD [] = x.run value := by
  rw [between?_eq_slice]
  split
  · next crossed =>
    unfold run slice
    rw [Array.extract_empty_of_stop_le_start crossed]
    rfl
  · rfl

/-- The slices below a value, at it and above it follow each other. -/
theorem Ascending.below_append_between_append_above (h : x.Ascending) (value : α) :
    x.below value ++ (x.between? value value).getD [] ++ x.above value = x.order.toList := by
  have first : x.lowerBound value ≤ x.upperBound value := h.lowerBound_le_upperBound value
  have second : x.upperBound value ≤ x.order.size := x.upperBound_le value
  have slices : x.order.extract 0 (x.lowerBound value)
        ++ x.order.extract (x.lowerBound value) (x.upperBound value)
        ++ x.order.extract (x.upperBound value) x.order.size = x.order := by
    rw [Array.extract_append_extract, Nat.zero_min, Nat.max_eq_right first,
      Array.extract_append_extract, Nat.zero_min, Nat.max_eq_right second, Array.extract_size]
  have whole := congrArg Array.toList slices
  rw [Array.toList_append, Array.toList_append] at whole
  rw [getD_between?_self, below_eq_slice]
  exact whole

end Queries

/-! ## Checked queries -/

section Checked

variable {α : Type} [Ord α] {x : SortedIndex α}

/-- The positions of the values above `value`. -/
def aboveChecked (x : SortedIndex α) (value : α) : Except Fault (List Nat) := do
  let start ← x.upperBoundChecked value
  x.sliceChecked start x.order.size

/-- The positions of the values below `value`. -/
def belowChecked (x : SortedIndex α) (value : α) : Except Fault (List Nat) := do
  match ← x.lowerBoundChecked value with
  | 0 => return []
  | place + 1 => x.sliceChecked 0 (place + 1)

/-- The positions of the values from `low` to `high`, if there are any. -/
def betweenChecked (x : SortedIndex α) (low high : α) : Except Fault (Option (List Nat)) := do
  let start ← x.lowerBoundChecked low
  let stop ← x.upperBoundChecked high
  if stop ≤ start then return none else return some (← x.sliceChecked start stop)

/-- The slice behind the upper bound is in bounds. -/
theorem Ascending.aboveChecked (h : x.Ascending) (value : α) :
    x.aboveChecked value = .ok (x.above value) := by
  unfold SortedIndex.aboveChecked
  rw [upperBoundChecked_of_inside h.inside]
  exact if_pos ⟨x.upperBound_le value, Nat.le_refl _⟩

/-- The slice in front of the lower bound is in bounds. -/
theorem Ascending.belowChecked (h : x.Ascending) (value : α) :
    x.belowChecked value = .ok (x.below value) := by
  have le := x.lowerBound_le value
  rw [below_eq_slice]
  unfold SortedIndex.belowChecked
  rw [lowerBoundChecked_of_inside h.inside]
  cases bound : x.lowerBound value with
  | zero =>
    unfold slice
    rw [Array.extract_empty_of_stop_le_start (Nat.le_refl 0)]
    rfl
  | succ place => exact if_pos ⟨Nat.zero_le _, bound ▸ le⟩

/-- The slice between both bounds is in bounds where it is taken. -/
theorem Ascending.betweenChecked (h : x.Ascending) (low high : α) :
    x.betweenChecked low high = .ok (x.between? low high) := by
  have le := x.upperBound_le high
  unfold SortedIndex.betweenChecked
  rw [lowerBoundChecked_of_inside h.inside, upperBoundChecked_of_inside h.inside,
    between?_eq_slice]
  show (if x.upperBound high ≤ x.lowerBound low then .ok none
    else do return some (← x.sliceChecked (x.lowerBound low) (x.upperBound high))) = _
  split
  · rfl
  · next apart =>
    have ends : x.sliceChecked (x.lowerBound low) (x.upperBound high) = .ok _ :=
      if_pos ⟨Nat.le_of_not_le apart, le⟩
    rw [ends]
    rfl

end Checked

/-! ## Every state of an index -/

section Reached

variable {α : Type} [Ord α] [Std.TransOrd α]

/-- In any state that edits reach from the index of no values, the queries above and below a value
and between two values answer the sorted entries whose values are in the range, in their order, and
no check of a query fails. Nothing is between reversed bounds. The entries below a value, at it and
above it are together all sorted entries, each position once. Nothing is below a null, a null is
below every value, and exactly the nulls are between a null and itself. -/
theorem applyAll_ranges_exact (edits : List (Edit α)) (nulls : List (Edit (Option α)))
    (value low high : α) :
    let x : SortedIndex α := empty.applyAll edits
    let y : SortedIndex (Option α) := empty.applyAll nulls
    (x.above value = x.sortedWhere (fun other => (compare other value).isGT) ∧
      x.below value = x.sortedWhere (fun other => (compare other value).isLT) ∧
      x.between? low high = if x.sortedWhere (isWithin low high) = [] then none
        else some (x.sortedWhere (isWithin low high))) ∧
    (compare low high = .gt → x.between? low high = none) ∧
    (x.below value ++ (x.between? value value).getD [] ++ x.above value = x.sorted.map Prod.fst ∧
      (x.sorted.map Prod.fst).Perm (List.range x.size)) ∧
    (x.aboveChecked value = .ok (x.above value) ∧ x.belowChecked value = .ok (x.below value) ∧
      x.betweenChecked low high = .ok (x.between? low high)) ∧
    y.below none = [] ∧ y.above none = y.sortedWhere Option.isSome ∧
    (y.between? none none).getD [] = y.sortedWhere Option.isNone ∧
    ∀ position, y.get? position = some none → position ∈ y.below (some value) := by
  intro x y
  have h : x.WellFormed := ((follows_empty 0).applyAll edits).wellFormed
  have h' : y.WellFormed := ((follows_empty 0).applyAll nulls).wellFormed
  have positions := h.map_fst_sorted
  refine ⟨⟨h.above_eq_sorted value, h.below_eq_sorted value, h.between?_eq_sorted low high⟩,
    h.between?_of_reversed, ⟨?_, positions ▸ h.perm⟩,
    ⟨h.aboveChecked value, h.belowChecked value, h.betweenChecked low high⟩, ?_, ?_, ?_, ?_⟩
  · rw [positions]
    exact h.below_append_between_append_above value
  · rw [h'.below_eq_sorted]
    exact sortedWhere_eq_nil fun other => by cases other <;> rfl
  · rw [h'.above_eq_sorted]
    congr 1
    funext other
    cases other <;> rfl
  · -- Between a null and itself there is nothing but nulls, so an empty answer means that there are
    -- none.
    have equal : isWithin (none : Option α) none = Option.isNone := by
      funext other
      cases other <;> rfl
    rw [h'.between?_eq_sorted, equal]
    split
    · next none => rw [none, Option.getD_none]
    · rfl
  · intro position found
    rw [h'.below_eq_sorted, h'.mem_sortedWhere]
    exact ⟨none, found, rfl⟩

/-- Bounds that hit runs of equal values, reversed bounds, and an index with two nulls. -/
theorem applyAll_ranges_exact_duplicates :
    let edits : List (Edit Nat) := [.addAll [3, 1, 3, 5], .insert 0 1, .set 4 3, .removeAt 9]
    let nulls : List (Edit (Option Nat)) := [.addAll [some 4, none, some 2], .add none]
    let x : SortedIndex Nat := empty.applyAll edits
    let y : SortedIndex (Option Nat) := empty.applyAll nulls
    x.sorted = [(0, 1), (2, 1), (4, 3), (3, 3), (1, 3)] ∧
    x.below 3 ++ (x.between? 3 3).getD [] ++ x.above 3 = [0, 2, 4, 3, 1] ∧
    x.between? 5 1 = none ∧ (y.between? none none).getD [] = [3, 1] := by
  intro edits nulls x y
  have reversed : compare 5 1 = Ordering.gt := by decide
  obtain ⟨-, empty, ⟨whole, -⟩, -, -, -, atNull, -⟩ := applyAll_ranges_exact edits nulls 3 5 1
  have sorted : x.sorted = [(0, 1), (2, 1), (4, 3), (3, 3), (1, 3)] := by
    unfold x edits
    decide +kernel
  refine ⟨sorted, whole.trans ?_, empty reversed, atNull.trans ?_⟩
  · rw [sorted]
    rfl
  · unfold nulls
    decide +kernel

end Reached

end Tabular.SortedIndex
