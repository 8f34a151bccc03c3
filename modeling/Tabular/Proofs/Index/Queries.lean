import Tabular.Proofs.Index.Order

/-!
# What the queries of an index answer

Each query takes a slice of the order between two bounds, and the slice is the part of the order
whose values pass a comparison (`Ascending.slice_eq`): no place inside the bounds fails it and no
place outside passes it.
-/

namespace Tabular.SortedIndex

variable {α : Type u} [Ord α] {x : SortedIndex α} {value low high : α}

/-- The elements that satisfy `p` are a slice, when they stand exactly at its places. -/
theorem filter_eq_extract {β : Type v} {p : β → Bool} {xs : Array β} {start stop : Nat}
    (places : ∀ i (lt : i < xs.size), p xs[i] ↔ start ≤ i ∧ i < stop) :
    xs.toList.filter p = (xs.extract start stop).toList := by
  -- The part in front of the slice and the part behind it are filtered out.
  have split : xs.toList = xs.toList.take start ++ ((xs.toList.drop start).take (stop - start)
      ++ (xs.toList.drop start).drop (stop - start)) := by
    rw [List.take_append_drop, List.take_append_drop]
  have before : (xs.toList.take start).filter p = [] := by
    rw [List.filter_eq_nil_iff]
    intro y mem
    obtain ⟨i, lt, rfl⟩ := List.mem_take_iff_getElem.1 mem
    rw [Array.getElem_toList, places]
    omega
  have inside : ((xs.toList.drop start).take (stop - start)).filter p
      = (xs.toList.drop start).take (stop - start) := by
    rw [List.filter_eq_self]
    intro y mem
    obtain ⟨i, lt, rfl⟩ := List.mem_take_iff_getElem.1 mem
    rw [List.getElem_drop, Array.getElem_toList, places]
    omega
  have behind : ((xs.toList.drop start).drop (stop - start)).filter p = [] := by
    rw [List.filter_eq_nil_iff]
    intro y mem
    rw [List.drop_drop] at mem
    obtain ⟨i, lt, rfl⟩ := List.mem_drop_iff_getElem.1 mem
    rw [Array.getElem_toList, places]
    omega
  rw [split, List.filter_append, List.filter_append, before, inside, behind, List.nil_append,
    List.append_nil, Array.toList_extract, List.extract_eq_take_drop]

/-- A slice is the part of the order that passes a test, when the test tells its places. -/
theorem Ascending.slice_eq (h : x.Ascending) {p : Nat → Bool} {start stop : Nat}
    (places : ∀ place (lt : place < x.order.size) a, x.values[x.order[place]]? = some a →
      (p x.order[place] ↔ start ≤ place ∧ place < stop)) :
    x.slice start stop = x.order.toList.filter p := by
  refine (filter_eq_extract fun place lt => ?_).symm
  obtain ⟨a, found⟩ := h.exists_value lt
  exact places place lt a found

/-- The positions of a value, as they stand in the order. -/
theorem Ascending.run_eq [Std.TransOrd α] (h : x.Ascending) (value : α) :
    x.run value = x.order.toList.filter (x.comparesAt value Ordering.isEq) := by
  refine h.slice_eq fun place lt a found => ?_
  have lower := h.lt_lowerBound_iff value lt found
  have upper := h.lt_upperBound_iff value lt found
  rw [comparesAt_of_found found, upper, ← Nat.not_lt, lower]
  cases compare a value <;> decide

/-- The positions of the values above, as they stand in the order. -/
theorem Ascending.above_eq [Std.TransOrd α] (h : x.Ascending) (value : α) :
    x.above value = x.order.toList.filter (x.comparesAt value Ordering.isGT) := by
  refine h.slice_eq fun place lt a found => ?_
  have upper := h.lt_upperBound_iff value lt found
  rw [comparesAt_of_found found, ← Nat.not_lt, upper]
  have : place < x.order.size := lt
  cases compare a value <;> simp [this]

/-- The positions of smaller values are those in front of the lower bound. -/
theorem below_eq_slice (x : SortedIndex α) (value : α) :
    x.below value = x.slice 0 (x.lowerBound value) := by
  unfold below lastBelow?
  cases x.lowerBound value with
  | zero => simp [slice]
  | succ place => rfl

/-- The positions of the values below, as they stand in the order. -/
theorem Ascending.below_eq [Std.TransOrd α] (h : x.Ascending) (value : α) :
    x.below value = x.order.toList.filter (x.comparesAt value Ordering.isLT) := by
  rw [below_eq_slice]
  refine h.slice_eq fun place lt a found => ?_
  have lower := h.lt_lowerBound_iff value lt found
  rw [comparesAt_of_found found, lower]
  simp

/-- The positions of the values between two bounds, as they stand in the order. -/
def within (x : SortedIndex α) (low high : α) : List Nat :=
  x.order.toList.filter fun position =>
    x.comparesAt low Ordering.isGE position && x.comparesAt high Ordering.isLE position

/-- The positions between two values are those from the lower bound of one to the upper bound of the
other. -/
theorem between?_eq_slice (x : SortedIndex α) (low high : α) :
    x.between? low high = if x.upperBound high ≤ x.lowerBound low then none
      else some (x.slice (x.lowerBound low) (x.upperBound high)) := by
  unfold between? lastBelow?
  cases x.lowerBound low <;> rfl

/-- The values between two bounds are found, if there are any. -/
theorem Ascending.between?_eq [Std.TransOrd α] (h : x.Ascending) (low high : α) :
    x.between? low high = if x.within low high = [] then none else some (x.within low high) := by
  have slice : x.slice (x.lowerBound low) (x.upperBound high) = x.within low high := by
    refine h.slice_eq fun place lt a found => ?_
    have lower := h.lt_lowerBound_iff low lt found
    have upper := h.lt_upperBound_iff high lt found
    rw [comparesAt_of_found found, comparesAt_of_found found, upper, ← Nat.not_lt, lower]
    cases compare a low <;> simp
  rw [between?_eq_slice, slice]
  have length : (x.within low high).length = x.upperBound high - x.lowerBound low := by
    have le := x.upperBound_le high
    rw [← slice]
    unfold SortedIndex.slice
    rw [Array.length_toList, Array.size_extract, Nat.min_eq_left le]
  -- Bounds that cross, as those of reversed values do, leave nothing between them.
  by_cases crossed : x.upperBound high ≤ x.lowerBound low
  · rw [if_pos crossed, if_pos (List.eq_nil_of_length_eq_zero (by omega))]
  · rw [if_neg crossed, if_neg]
    intro nil
    rw [nil, List.length_nil] at length
    omega

end Tabular.SortedIndex
