import Mathlib.Data.List.Perm.Basic
import Tabular.SortedIndex

/-!
# The order of an index

The invariant of a sorted index: its order lists every position once (`WellFormed`), by ascending
value (`Ascending`). In an ascending order the two binary searches stop where the values below and
the values at most equal to the one searched for end, and entering a position there keeps the order
ascending.
-/

namespace Tabular.SortedIndex

variable {α : Type u} [Ord α] {x : SortedIndex α} {value : α}

/-- The order lists positions of values, and the values ascend. -/
structure Ascending (x : SortedIndex α) : Prop where
  inside : ∀ position ∈ x.order.toList, position < x.size
  pairwise : x.order.toList.Pairwise fun i j =>
    ∀ a b, x.values[i]? = some a → x.values[j]? = some b → (compare a b).isLE

/-- The invariant of an index: every position stands in the order once, by ascending value. -/
structure WellFormed (x : SortedIndex α) : Prop extends Ascending x where
  perm : x.order.toList.Perm (List.range x.size)

omit [Ord α] in
/-- The list has one value for each position. -/
theorem length_toList (x : SortedIndex α) : x.toList.length = x.size := Array.length_toList

omit [Ord α] in
/-- The list has each value at its position. -/
theorem getElem?_toList (x : SortedIndex α) (position : Nat) :
    x.toList[position]? = x.values[position]? := Array.getElem?_toList

/-! ## Comparing the values of the order -/

/-- A position is compared by its value. -/
theorem comparesAt_of_found {position : Nat} {a : α} (found : x.values[position]? = some a)
    (accept : Ordering → Bool) : x.comparesAt value accept position = accept (compare a value) := by
  unfold comparesAt
  rw [found]
  rfl

/-- Every place of the order has a value. -/
theorem Ascending.exists_value (h : x.Ascending) {place : Nat} (lt : place < x.order.size) :
    ∃ a, x.values[x.order[place]]? = some a := by
  have mem : x.order[place] ∈ x.order.toList := by
    rw [Array.mem_toList_iff]
    exact Array.getElem_mem lt
  exact ⟨_, Array.getElem?_eq_getElem (h.inside _ mem)⟩

/-- Values that are listed later are not less. -/
theorem Ascending.isLE [Std.TransOrd α] (h : x.Ascending) {i j : Nat} (le : i ≤ j)
    (lt : j < x.order.size) {a b : α} (at_i : x.values[x.order[i]]? = some a)
    (at_j : x.values[x.order[j]]? = some b) : (compare a b).isLE := by
  rcases Nat.eq_or_lt_of_le le with rfl | before
  · rw [at_i] at at_j
    cases at_j
    exact Std.ReflOrd.isLE_rfl
  · exact List.pairwise_iff_getElem.1 h.pairwise i j (by simpa using Nat.lt_trans before lt)
      (by simpa using lt) before a b (by simpa using at_i) (by simpa using at_j)

/-- What values below an accepted one pass splits the order in two. -/
theorem Ascending.isPartitioned [Std.TransOrd α] (h : x.Ascending) {accept : Ordering → Bool}
    (down : ∀ {a b : α}, (compare a b).isLE → accept (compare b value) → accept (compare a value)) :
    IsPartitioned (x.comparesAt value accept) x.order := by
  intro i j le lt accepted
  obtain ⟨a, at_i⟩ := h.exists_value (Nat.lt_of_le_of_lt le lt)
  obtain ⟨b, at_j⟩ := h.exists_value lt
  rw [comparesAt_of_found at_j] at accepted
  rw [comparesAt_of_found at_i]
  exact down (h.isLE le lt at_i at_j) accepted

/-- The values below a value come first. -/
theorem Ascending.isPartitioned_isLT [Std.TransOrd α] (h : x.Ascending) (value : α) :
    IsPartitioned (x.comparesAt value Ordering.isLT) x.order := by
  refine h.isPartitioned fun le below => ?_
  rw [Ordering.isLT_iff_eq_lt] at below ⊢
  exact Std.TransCmp.lt_of_isLE_of_lt le below

/-- The values at most equal to a value come first. -/
theorem Ascending.isPartitioned_isLE [Std.TransOrd α] (h : x.Ascending) (value : α) :
    IsPartitioned (x.comparesAt value Ordering.isLE) x.order :=
  h.isPartitioned Std.TransOrd.isLE_trans

/-- A place is below the lower bound exactly when its value is below the one searched for. -/
theorem Ascending.lt_lowerBound_iff [Std.TransOrd α] (h : x.Ascending) (value : α) {place : Nat}
    (lt : place < x.order.size) {a : α} (found : x.values[x.order[place]]? = some a) :
    place < x.lowerBound value ↔ (compare a value).isLT := by
  unfold lowerBound
  rw [← holds_iff_lt_partitionPoint (h.isPartitioned_isLT value) lt, comparesAt_of_found found]

/-- A place is below the upper bound exactly when its value is at most the one searched for. -/
theorem Ascending.lt_upperBound_iff [Std.TransOrd α] (h : x.Ascending) (value : α) {place : Nat}
    (lt : place < x.order.size) {a : α} (found : x.values[x.order[place]]? = some a) :
    place < x.upperBound value ↔ (compare a value).isLE := by
  unfold upperBound
  rw [← holds_iff_lt_partitionPoint (h.isPartitioned_isLE value) lt, comparesAt_of_found found]

/-- The lower bound is a place of the order or its end. -/
theorem lowerBound_le (x : SortedIndex α) (value : α) : x.lowerBound value ≤ x.order.size :=
  partitionPoint_le _ _

/-- The upper bound is a place of the order or its end. -/
theorem upperBound_le (x : SortedIndex α) (value : α) : x.upperBound value ≤ x.order.size :=
  partitionPoint_le _ _

/-- The values below a value are among those that are at most equal to it. -/
theorem Ascending.lowerBound_le_upperBound [Std.TransOrd α] (h : x.Ascending) (value : α) :
    x.lowerBound value ≤ x.upperBound value := by
  by_contra crossed
  have before : x.upperBound value < x.lowerBound value := Nat.lt_of_not_le crossed
  have lt : x.upperBound value < x.order.size :=
    Nat.lt_of_lt_of_le before (x.lowerBound_le value)
  obtain ⟨a, found⟩ := h.exists_value lt
  have below : (compare a value).isLT := (h.lt_lowerBound_iff value lt found).1 before
  have atMost : (compare a value).isLE :=
    Ordering.isLE_of_eq_lt (Ordering.isLT_iff_eq_lt.1 below)
  exact Nat.lt_irrefl _ ((h.lt_upperBound_iff value lt found).2 atMost)

/-! ## Entering a position -/

/-- An element inserted between those it follows and those it precedes. -/
theorem pairwise_insertIdx {β : Type v} {r : β → β → Prop} {xs : List β} (h : xs.Pairwise r)
    {place : Nat} {new : β} (before : ∀ i (lt : i < xs.length), i < place → r xs[i] new)
    (behind : ∀ i (lt : i < xs.length), place ≤ i → r new xs[i]) :
    (xs.insertIdx place new).Pairwise r := by
  induction xs generalizing place with
  | nil =>
    cases place with
    | zero => exact List.pairwise_singleton r new
    | succ place => exact List.Pairwise.nil
  | cons first rest ih =>
    obtain ⟨firstBefore, rest_pairwise⟩ := List.pairwise_cons.1 h
    cases place with
    | zero =>
      refine List.pairwise_cons.2 ⟨fun y mem => ?_, h⟩
      obtain ⟨i, lt, rfl⟩ := List.mem_iff_getElem.1 mem
      exact behind i lt (Nat.zero_le i)
    -- The first element stays in front: it precedes the new one and all others.
    | succ place =>
      refine List.pairwise_cons.2 ⟨fun y mem => ?_, ih rest_pairwise (fun i lt below => ?_)
        fun i lt above => ?_⟩
      · rcases List.eq_or_mem_of_mem_insertIdx mem with rfl | old
        · exact before 0 (Nat.zero_lt_succ _) (Nat.zero_lt_succ _)
        · exact firstBefore y old
      · exact before (i + 1) (Nat.succ_lt_succ lt) (Nat.succ_lt_succ below)
      · exact behind (i + 1) (Nat.succ_lt_succ lt) (Nat.succ_le_succ above)

/-- An insertion in bounds is that into the list. -/
theorem toList_insertIdxIfInBounds {β : Type v} {xs : Array β} {place : Nat} (le : place ≤ xs.size)
    (new : β) : (xs.insertIdxIfInBounds place new).toList = xs.toList.insertIdx place new := by
  rw [Array.insertIdxIfInBounds, dif_pos le, Array.toList_insertIdx]

/-- A position is entered in front of those of equal values. -/
theorem toList_order_enter (x : SortedIndex α) (position : Nat) (value : α) :
    (x.enter position value).order.toList
      = x.order.toList.insertIdx (x.lowerBound value) position :=
  toList_insertIdxIfInBounds (x.lowerBound_le value) position

/-- Entering a position adds it to those that are listed. -/
theorem perm_order_enter (x : SortedIndex α) (position : Nat) (value : α) :
    (x.enter position value).order.toList.Perm (position :: x.order.toList) := by
  rw [toList_order_enter]
  exact List.perm_insertIdx _ _ (by simpa using x.lowerBound_le value)

/-- Entering a position keeps a relation along the order, if the lower values are related to it and
it is related to the others. -/
theorem Ascending.pairwise_enter [Std.TransOrd α] (h : x.Ascending) {r : Nat → Nat → Prop}
    (kept : x.order.toList.Pairwise r) {position : Nat}
    (lower : ∀ p a, p ∈ x.order.toList → x.values[p]? = some a → compare a value = .lt →
      r p position)
    (others : ∀ p a, p ∈ x.order.toList → x.values[p]? = some a → (compare value a).isLE →
      r position p) :
    (x.enter position value).order.toList.Pairwise r := by
  rw [toList_order_enter]
  refine pairwise_insertIdx kept (fun i lt below => ?_) fun i lt above => ?_
  · obtain ⟨a, found⟩ := h.exists_value (Array.length_toList ▸ lt)
    have isLT := (h.lt_lowerBound_iff value _ found).1 below
    exact lower _ a (List.getElem_mem lt) (by simpa using found) (Ordering.isLT_iff_eq_lt.1 isLT)
  · obtain ⟨a, found⟩ := h.exists_value (Array.length_toList ▸ lt)
    have notLT : ¬ (compare a value).isLT := by
      rw [← h.lt_lowerBound_iff value _ found]
      omega
    have isLE : (compare value a).isLE := by
      rw [Ordering.isLT_iff_eq_lt] at notLT
      rw [Std.OrientedOrd.eq_swap, Ordering.isLE_swap]
      cases eq : compare a value with
      | lt => exact absurd eq notLT
      | eq => rfl
      | gt => rfl
    exact others _ a (List.getElem_mem lt) (by simpa using found) isLE

/-- A new position is entered where its value belongs. -/
theorem Ascending.enter [Std.TransOrd α] (h : x.Ascending) {position : Nat}
    (found : x.values[position]? = some value) :
    (x.enter position value).Ascending ∧
      (x.enter position value).order.toList.Perm (position :: x.order.toList) := by
  have perm := x.perm_order_enter position value
  refine ⟨⟨fun p mem => ?_, ?_⟩, perm⟩
  · rcases List.mem_cons.1 (perm.mem_iff.1 mem) with rfl | old
    · exact (Array.getElem?_eq_some_iff.1 found).1
    · exact h.inside p old
  · refine h.pairwise_enter h.pairwise (fun p a _ at_p lt a' b at_p' at_new => ?_)
      fun p b _ at_p isLE a b' at_new at_p' => ?_
    · obtain rfl : a = a' := Option.some.inj (at_p.symm.trans at_p')
      obtain rfl : value = b := Option.some.inj (found.symm.trans at_new)
      exact Ordering.isLE_of_eq_lt lt
    · obtain rfl : b = b' := Option.some.inj (at_p.symm.trans at_p')
      obtain rfl : value = a := Option.some.inj (found.symm.trans at_new)
      exact isLE

/-! ## Indexes of lists -/

/-- Appending a value keeps the invariant. -/
theorem WellFormed.add [Std.TransOrd α] (h : x.WellFormed) (value : α) :
    (x.add value).WellFormed ∧ (x.add value).values = x.values.push value := by
  -- The order is about the values from before, and these have not changed.
  have kept : ∀ p, p < x.size → (x.values.push value)[p]? = x.values[p]? := by
    intro p lt
    rw [Array.getElem?_push, if_neg (by unfold size at lt; omega)]
  have pushed : ({ x with values := x.values.push value } : SortedIndex α).Ascending := by
    refine ⟨fun p mem => ?_, ?_⟩
    · have := h.inside p mem
      unfold size at this ⊢
      rw [Array.size_push]
      omega
    · refine h.pairwise.imp_of_mem fun mem mem' ascends a b at_i at_j => ?_
      rw [kept _ (h.inside _ mem)] at at_i
      rw [kept _ (h.inside _ mem')] at at_j
      exact ascends a b at_i at_j
  have last : (x.values.push value)[x.size]? = some value := Array.getElem?_push_size
  obtain ⟨ascending, perm⟩ := pushed.enter last
  refine ⟨⟨ascending, ?_⟩, rfl⟩
  have size : (x.add value).size = x.size + 1 := Array.size_push _
  rw [size, List.range_succ]
  exact perm.trans ((h.perm.cons x.size).trans (List.perm_append_singleton _ _).symm)

/-- The index of no values is well formed. -/
theorem wellFormed_empty : (empty : SortedIndex α).WellFormed where
  inside _ mem := by cases mem
  pairwise := List.Pairwise.nil
  perm := List.Perm.nil

/-- Appended values are at the end of the list, and the index stays well formed. -/
theorem WellFormed.addAll [Std.TransOrd α] (h : x.WellFormed) (values : List α) :
    (x.addAll values).WellFormed ∧ (x.addAll values).toList = x.toList ++ values := by
  induction values generalizing x with
  | nil => exact ⟨h, (List.append_nil _).symm⟩
  | cons value values ih =>
    obtain ⟨added, appended⟩ := h.add value
    obtain ⟨wellFormed, toList⟩ := ih added
    refine ⟨wellFormed, toList.trans ?_⟩
    unfold SortedIndex.toList
    rw [appended, Array.toList_push, List.append_assoc]
    rfl

/-- The index of a list holds the values of the list. -/
theorem wellFormed_ofList [Std.TransOrd α] (values : List α) :
    (ofList values).WellFormed ∧ (ofList values).toList = values :=
  wellFormed_empty.addAll values

end Tabular.SortedIndex
