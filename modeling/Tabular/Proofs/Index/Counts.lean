import Tabular.Proofs.Index.Ranges

/-!
# Counting with the searches

A search of an index stops at a place of the order, and a place is a number of values: in front of
the lower bound stand the values below the one searched for, in front of the upper bound those at
most equal to it. The order lists every position once, so these are all such values of the index
(`WellFormed.lowerBound_eq_countWhere`, `WellFormed.upperBound_eq_countWhere`), in whatever order
equal values stand and whether or not the value searched for occurs. A value has at least as many
values below it as a lower value has, so the places where the searches stop ascend with the value.
-/

namespace Tabular

/-- The point is the number of elements that satisfy `p`. -/
theorem partitionPoint_eq_countP {β : Type u} {p : β → Bool} {xs : Array β}
    (parts : IsPartitioned p xs) : partitionPoint p xs = xs.toList.countP p := by
  have places : ∀ i (lt : i < xs.size), p xs[i] ↔ 0 ≤ i ∧ i < partitionPoint p xs := by
    intro i lt
    rw [holds_iff_lt_partitionPoint parts lt]
    simp
  have le := partitionPoint_le p xs
  calc partitionPoint p xs = (xs.extract 0 (partitionPoint p xs)).size := by
        rw [Array.size_extract, Nat.min_eq_left le, Nat.sub_zero]
    _ = (xs.toList.filter p).length := by
        rw [SortedIndex.filter_eq_extract places, Array.length_toList]
    _ = xs.toList.countP p := List.countP_eq_length_filter.symm

namespace SortedIndex

/-! ## Numbers of values -/

section Counts

variable {α : Type u} [Ord α] {x : SortedIndex α} {value greater : α}

/-- The number of values that compare with `value` in one of the ways that `accept` says. -/
def countWhere (x : SortedIndex α) (value : α) (accept : Ordering → Bool) : Nat :=
  x.toList.countP fun other => accept (compare other value)

/-- Counting along the order counts every value once. -/
theorem WellFormed.countP_comparesAt (h : x.WellFormed) (value : α) (accept : Ordering → Bool) :
    x.order.toList.countP (x.comparesAt value accept) = x.countWhere value accept := by
  have values : (List.range x.size).map (fun position => x.values[position]?)
      = x.toList.map some := by
    refine List.ext_getElem (by simp [length_toList]) fun position lt lt' => ?_
    simp [toList]
  calc x.order.toList.countP (x.comparesAt value accept)
      = (List.range x.size).countP (x.comparesAt value accept) := h.perm.countP_eq _
    _ = ((List.range x.size).map fun position => x.values[position]?).countP
          (Option.any fun other => accept (compare other value)) := List.countP_map.symm
    _ = (x.toList.map some).countP (Option.any fun other => accept (compare other value)) := by
        rw [values]
    _ = x.countWhere value accept := List.countP_map

/-! ## Where the searches stop -/

/-- The last place below a value is the one in front of its lower bound. -/
theorem lastBelow?_eq (x : SortedIndex α) (value : α) :
    x.lastBelow? value
      = if x.lowerBound value = 0 then none else some (x.lowerBound value - 1) := by
  unfold lastBelow?
  cases x.lowerBound value with
  | zero => rfl
  | succ place => rfl

variable [Std.TransOrd α]

/-- The lower bound is the number of values below. -/
theorem WellFormed.lowerBound_eq_countWhere (h : x.WellFormed) (value : α) :
    x.lowerBound value = x.countWhere value Ordering.isLT :=
  (partitionPoint_eq_countP (h.isPartitioned_isLT value)).trans (h.countP_comparesAt value _)

/-- The upper bound is the number of values at most equal. -/
theorem WellFormed.upperBound_eq_countWhere (h : x.WellFormed) (value : α) :
    x.upperBound value = x.countWhere value Ordering.isLE :=
  (partitionPoint_eq_countP (h.isPartitioned_isLE value)).trans (h.countP_comparesAt value _)

/-- The upper bound counts no more values than there are. -/
theorem WellFormed.upperBound_le_size (h : x.WellFormed) (value : α) :
    x.upperBound value ≤ x.size := by
  rw [h.upperBound_eq_countWhere, ← x.length_toList]
  exact List.countP_le_length

/-! ## Greater values -/

/-- What is below a value is below a greater one. -/
theorem WellFormed.lowerBound_mono (h : x.WellFormed) (le : (compare value greater).isLE) :
    x.lowerBound value ≤ x.lowerBound greater := by
  rw [h.lowerBound_eq_countWhere, h.lowerBound_eq_countWhere]
  refine List.countP_mono_left fun other _ below => ?_
  rw [Ordering.isLT_iff_eq_lt] at below ⊢
  exact Std.TransCmp.lt_of_lt_of_isLE below le

/-- What is at most equal to a value is at most equal to a greater one. -/
theorem WellFormed.upperBound_mono (h : x.WellFormed) (le : (compare value greater).isLE) :
    x.upperBound value ≤ x.upperBound greater := by
  rw [h.upperBound_eq_countWhere, h.upperBound_eq_countWhere]
  exact List.countP_mono_left fun other _ atMost => Std.TransOrd.isLE_trans atMost le

/-- The last place below a value is not behind the last one below a greater value, and there is one
for the greater value if there is one for the lower. -/
theorem WellFormed.lastBelow?_mono (h : x.WellFormed) (le : (compare value greater).isLE) :
    x.lastBelow? value ≤ x.lastBelow? greater := by
  have bounds := h.lowerBound_mono le
  rw [lastBelow?_eq, lastBelow?_eq]
  split
  · exact Option.none_le
  · next some_below =>
    rw [if_neg (by omega), Option.some_le_some]
    omega

end Counts

/-! ## Every state of an index -/

/-- In any state that edits reach from the index of no values, the upper bound of a value is the
number of values at most equal to it and the lower bound the number of values below it, whether or
not the value occurs. The last place below it is one less than this number, if there is a value
below it. The bounds are in order and at most the number of values, no search meets a position
without a value, and no slice that a query or an edit takes between bounds has its ends reversed or
outside the order. The bounds and the last place below ascend with the value. -/
theorem applyAll_searches_count {α : Type} [Ord α] [Std.TransOrd α] (edits : List (Edit α))
    (value : α) :
    let x : SortedIndex α := empty.applyAll edits
    let below := x.countWhere value Ordering.isLT
    let upTo := x.countWhere value Ordering.isLE
    (x.upperBound value = upTo ∧ x.lowerBound value = below ∧
      x.lastBelow? value = if below = 0 then none else some (below - 1)) ∧
    (x.lowerBound value ≤ x.upperBound value ∧ x.upperBound value ≤ x.size) ∧
    (x.lowerBoundChecked value = .ok below ∧ x.upperBoundChecked value = .ok upTo ∧
      x.sliceChecked below upTo = .ok (x.run value)) ∧
    ((∀ position, x.placeChecked position = .ok (x.place? position)) ∧
      x.aboveChecked value = .ok (x.above value) ∧ x.belowChecked value = .ok (x.below value) ∧
      ∀ high, x.betweenChecked value high = .ok (x.between? value high)) ∧
    ∀ greater, (compare value greater).isLE →
      x.lowerBound value ≤ x.lowerBound greater ∧ x.upperBound value ≤ x.upperBound greater ∧
      x.lastBelow? value ≤ x.lastBelow? greater := by
  intro x below upTo
  have h : x.WellFormed := ((follows_empty 0).applyAll edits).wellFormed
  have lower : x.lowerBound value = below := h.lowerBound_eq_countWhere value
  have upper : x.upperBound value = upTo := h.upperBound_eq_countWhere value
  have ordered : x.lowerBound value ≤ x.upperBound value := h.lowerBound_le_upperBound value
  refine ⟨⟨upper, lower, ?_⟩, ⟨ordered, h.upperBound_le_size value⟩, ⟨?_, ?_, ?_⟩,
    ⟨h.placeChecked, h.aboveChecked value, h.belowChecked value, h.betweenChecked value⟩,
    fun greater le => ⟨h.lowerBound_mono le, h.upperBound_mono le, h.lastBelow?_mono le⟩⟩
  · rw [x.lastBelow?_eq, lower]
  · rw [lowerBoundChecked_of_inside h.inside, lower]
  · rw [upperBoundChecked_of_inside h.inside, upper]
  · rw [← lower, ← upper]
    exact if_pos ⟨ordered, x.upperBound_le value⟩

/-- A value that occurs three times, one that does not occur, a null, and a value above all. -/
theorem applyAll_searches_count_nulls :
    let edits : List (Edit (Option Nat)) :=
      [.addAll [some 2, none, some 7, some 2, none], .set 2 (some 5), .insert 0 (some 2),
        .removeAt 9]
    let x : SortedIndex (Option Nat) := empty.applyAll edits
    x.toList = [some 2, some 2, none, some 5, some 2, none] ∧
    (x.upperBound (some 2) = 5 ∧ x.lastBelow? (some 2) = some 1) ∧
    (x.upperBound (some 3) = 5 ∧ x.lastBelow? (some 3) = some 4) ∧
    (x.upperBound none = 2 ∧ x.lastBelow? none = none) ∧
    (x.upperBound (some 9) = 6 ∧ x.sliceChecked 6 6 = .ok (x.run (some 9))) ∧
    (compare (some 2) (some 3)).isLE ∧ x.upperBound (some 2) ≤ x.upperBound (some 3) ∧
      x.lastBelow? (some 2) ≤ x.lastBelow? (some 3) := by
  intro edits x
  have values : x.toList = [some 2, some 2, none, some 5, some 2, none] := by
    unfold x edits
    cbv
  have count : ∀ value accept, x.countWhere value accept
      = [some 2, some 2, none, some 5, some 2, none].countP
          fun other => accept (compare other value) := by
    intro value accept
    rw [countWhere, values]
  have le : (compare (some 2) (some 3)).isLE := by decide
  obtain ⟨⟨upper2, -, last2⟩, -, -, -, mono⟩ := applyAll_searches_count edits (some 2)
  obtain ⟨⟨upper3, -, last3⟩, -⟩ := applyAll_searches_count edits (some 3)
  obtain ⟨⟨upperNull, -, lastNull⟩, -⟩ := applyAll_searches_count edits none
  obtain ⟨⟨upper9, -⟩, -, ⟨-, -, slice9⟩, -⟩ := applyAll_searches_count edits (some 9)
  obtain ⟨-, upper, last⟩ := mono (some 3) le
  rw [count] at upper2 upper3 upperNull upper9
  rw [count] at last2 last3 lastNull
  rw [count, count] at slice9
  exact ⟨values, ⟨upper2, last2⟩, ⟨upper3, last3⟩, ⟨upperNull, lastNull⟩, ⟨upper9, slice9⟩, le,
    upper, last⟩

end SortedIndex

end Tabular
