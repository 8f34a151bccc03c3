import Mathlib.Data.List.Permutation
import Tabular.Proofs.Index.Edit
import Tabular.Proofs.Index.Places

/-!
# The order of writing

An index `Follows` a ledger when they hold the same values and the order of the index lists the
positions by ascending value, equal values by descending time of writing. An edit takes entries out
of the order, renumbers the rest (`Ranked.carry`), and enters the position that it writes in front
of the equal values, which were all written before (`Follows.write`).
-/

namespace Tabular.SortedIndex

variable {α : Type u} [Ord α]

/-- The order of entries: by ascending value, equal values by descending stamp. -/
def Stamped.Precedes (a b : Stamped α) : Prop :=
  compare a.value b.value = .lt ∨ compare a.value b.value = .eq ∧ b.stamp < a.stamp

variable {x y : SortedIndex α} {entries : List (Stamped α)} {position : Nat}

/-! ## Orders of entries -/

/-- An index holds the values of the entries, and its order lists positions of them as the entries
precede each other. -/
structure Ranked (x : SortedIndex α) (entries : List (Stamped α)) : Prop where
  values : x.toList = entries.map Stamped.value
  inside : ∀ p ∈ x.order.toList, p < entries.length
  pairwise : x.order.toList.Pairwise fun i j =>
    ∀ a b, entries[i]? = some a → entries[j]? = some b → a.Precedes b

/-- The index is as long as the list of entries. -/
theorem Ranked.size (h : x.Ranked entries) : x.size = entries.length := by
  have length := congrArg List.length h.values
  rwa [List.length_map, length_toList] at length

/-- The value at a position is that of the entry. -/
theorem Ranked.value? (h : x.Ranked entries) (p : Nat) :
    x.values[p]? = entries[p]?.map Stamped.value := by
  rw [← List.getElem?_map, ← h.values, getElem?_toList]

/-- Entries in their order have ascending values. -/
theorem Ranked.ascending (h : x.Ranked entries) : x.Ascending where
  inside p mem := h.size ▸ h.inside p mem
  pairwise := by
    refine h.pairwise.imp fun precedes a b at_i at_j => ?_
    rw [h.value?, Option.map_eq_some_iff] at at_i at_j
    obtain ⟨first, found, rfl⟩ := at_i
    obtain ⟨second, found', rfl⟩ := at_j
    rcases precedes first second found found' with lt | ⟨eq, -⟩
    · exact Ordering.isLE_of_eq_lt lt
    · exact Ordering.isLE_of_eq_eq eq

/-- The order stands when some positions are taken out of it and the others are renumbered, if each
entry is found under its new number. -/
theorem Ranked.carry (h : x.Ranked entries) {carried : List (Stamped α)} {kept : List Nat}
    (number : Nat → Nat) (sub : kept.Sublist x.order.toList)
    (order : y.order.toList = kept.map number) (values : y.toList = carried.map Stamped.value)
    (follows : ∀ p ∈ kept, carried[number p]? = entries[p]?) : y.Ranked carried where
  values := values
  inside q mem := by
    rw [order, List.mem_map] at mem
    obtain ⟨p, mem, rfl⟩ := mem
    have found := follows p mem
    rw [List.getElem?_eq_getElem (h.inside p (sub.mem mem))] at found
    exact (List.getElem?_eq_some_iff.1 found).1
  pairwise := by
    rw [order, List.pairwise_map]
    refine (h.pairwise.sublist sub).imp_of_mem fun mem mem' precedes a b at_i at_j => ?_
    rw [follows _ mem] at at_i
    rw [follows _ mem'] at at_j
    exact precedes a b at_i at_j

/-- The latest entry of all is entered in front of the entries of its value. -/
theorem Ranked.enter [Std.TransOrd α] (h : x.Ranked entries) {new : Stamped α}
    (found : entries[position]? = some new)
    (latest : ∀ p ∈ x.order.toList, ∀ a, entries[p]? = some a → a.stamp < new.stamp) :
    (x.enter position new.value).Ranked entries where
  values := h.values
  inside p mem := by
    rcases List.mem_cons.1 ((x.perm_order_enter position new.value).mem_iff.1 mem) with rfl | old
    · exact (List.getElem?_eq_some_iff.1 found).1
    · exact h.inside p old
  pairwise := by
    refine h.ascending.pairwise_enter h.pairwise (fun p value mem at_p lt a b found_a found_b => ?_)
      fun p value mem at_p isLE a b found_a found_b => ?_
    · obtain rfl : new = b := Option.some.inj (found.symm.trans found_b)
      rw [h.value?, found_a, Option.map_some, Option.some_inj] at at_p
      exact .inl (at_p ▸ lt)
    -- Of two equal values, the one that is entered is the later.
    · obtain rfl : new = a := Option.some.inj (found.symm.trans found_a)
      rw [h.value?, found_b, Option.map_some, Option.some_inj] at at_p
      rw [← at_p] at isLE
      rcases Ordering.isLE_iff_eq_lt_or_eq_eq.1 isLE with lt | eq
      · exact .inl lt
      · exact .inr ⟨eq, latest p mem b found_b⟩

/-! ## Following a ledger -/

variable {l : Ledger α} {value : α}

/-- The invariant of the edits: the order of the index lists all positions, as their entries in the
ledger precede each other, and all entries were written in the past. -/
structure Follows (x : SortedIndex α) (l : Ledger α) : Prop extends Ranked x l.entries where
  perm : x.order.toList.Perm (List.range l.entries.length)
  past : ∀ entry ∈ l.entries, entry.stamp < l.clock

/-- An index that follows a ledger is well formed. -/
theorem Follows.wellFormed (h : x.Follows l) : x.WellFormed where
  toAscending := h.ascending
  perm := h.size ▸ h.perm

/-- The index of no values follows an empty ledger. -/
theorem follows_empty (clock : Nat) : (empty : SortedIndex α).Follows { entries := [], clock } where
  values := rfl
  inside _ mem := by cases mem
  pairwise := List.Pairwise.nil
  perm := List.Perm.nil
  past _ mem := by cases mem

/-- Time passes without a writing. -/
theorem Follows.tick (h : x.Follows l) : x.Follows (l.tick l.entries) where
  toRanked := h.toRanked
  perm := h.perm
  past entry mem := Nat.lt_succ_of_lt (h.past entry mem)

/-- Writing the value at a position, after the others have been carried to where they stand
then. -/
theorem Follows.write [Std.TransOrd α] (h : x.Follows l) {carried : List (Stamped α)}
    {kept : List Nat} (number : Nat → Nat) (sub : kept.Sublist x.order.toList)
    (order : y.order.toList = kept.map number) (values : y.toList = carried.map Stamped.value)
    (follows : ∀ p ∈ kept, carried[number p]? = l.entries[p]?)
    (all : (position :: kept.map number).Perm (List.range carried.length))
    (found : carried[position]? = some ⟨value, l.clock⟩)
    (written : ∀ entry ∈ carried, entry ∈ l.entries ∨ entry = ⟨value, l.clock⟩) :
    (y.enter position value).Follows (l.tick carried) where
  toRanked := by
    refine (h.carry number sub order values follows).enter found fun q mem a found_a => ?_
    rw [order, List.mem_map] at mem
    obtain ⟨p, mem, rfl⟩ := mem
    rw [follows p mem] at found_a
    exact h.past a (List.mem_of_getElem? found_a)
  perm := (y.perm_order_enter position value).trans (order ▸ all)
  past entry mem := by
    show entry.stamp < l.clock + 1
    rcases written entry mem with old | rfl
    · exact Nat.lt_succ_of_lt (h.past entry old)
    · exact Nat.lt_succ_self _

/-! ## One edit -/

/-- An appended value follows the ledger, where it is the latest. -/
theorem Follows.add [Std.TransOrd α] (h : x.Follows l) (value : α) :
    (x.add value).Follows (l.add value) := by
  refine h.write id (List.Sublist.refl _) (List.map_id _).symm ?_ (fun p mem => ?_) ?_ ?_
    fun entry mem => ?_
  · show (x.values.push value).toList = _
    rw [Array.toList_push, List.map_append, ← h.values]
    rfl
  · exact List.getElem?_append_left (h.inside p mem)
  · rw [List.map_id, h.size, List.length_append, List.length_singleton, List.range_succ]
    exact (h.perm.cons _).trans (List.perm_append_singleton _ _).symm
  · rw [h.size, List.getElem?_concat_length]
  · rwa [List.mem_append, List.mem_singleton] at mem

/-- Appended values follow the ledger, one after the other. -/
theorem Follows.addAll [Std.TransOrd α] (h : x.Follows l) (values : List α) :
    (x.addAll values).Follows (values.foldl Ledger.add l) := by
  induction values generalizing x l with
  | nil => exact h
  | cons value values ih => exact ih (h.add value)

/-- An insertion within the index makes room for the new position. -/
theorem Follows.insert [Std.TransOrd α] (h : x.Follows l) (le : position ≤ x.size) (value : α) :
    ∃ inserted, x.insert? position value = some inserted ∧
      inserted.Follows (l.insert position value) := by
  refine ⟨_, if_pos le, ?_⟩
  have le' : position ≤ l.entries.length := h.size ▸ le
  refine h.write (makeRoom position) (List.Sublist.refl _) Array.toList_map ?_ (fun p mem => ?_)
    ?_ ?_ fun entry mem => ?_
  · show (x.values.insertIdxIfInBounds position value).toList = _
    rw [toList_insertIdxIfInBounds le, List.map_insertIdx, ← h.values, toList]
  · exact getElem?_insertIdx_makeRoom _
  · rw [List.length_insertIdx_of_le_length le']
    exact perm_makeRoom h.perm le'
  · rw [List.getElem?_insertIdx_self, if_pos le']
  · exact (List.eq_or_mem_of_mem_insertIdx mem).symm

/-- A position of the index has a place, and without that place the order lists the others. -/
theorem Follows.exists_place [Std.TransOrd α] (h : x.Follows l) (lt : position < x.size) :
    ∃ place, x.place? position = some place ∧
      (position :: x.order.toList.eraseIdx place).Perm (List.range l.entries.length) ∧
      ∀ p ∈ x.order.toList.eraseIdx place, p ≠ position := by
  obtain ⟨place, searched, at_place⟩ := h.wellFormed.exists_place lt
  have all := h.wellFormed.perm_eraseIdx at_place
  have absent := (List.nodup_cons.1 (all.nodup_iff.2 List.nodup_range)).1
  exact ⟨place, searched, h.size ▸ all, fun p mem eq => absent (eq ▸ mem)⟩

/-- A replaced value follows the ledger, where it is the latest, also when nothing is replaced. -/
theorem Follows.set [Std.TransOrd α] (h : x.Follows l) (position : Nat) (value : α) :
    (x.set position value).2.Follows (l.set position value) := by
  unfold SortedIndex.set Ledger.set
  by_cases lt : position < x.size
  · obtain ⟨place, searched, all, others⟩ := h.exists_place lt
    rw [Array.getElem?_eq_getElem lt, searched]
    refine h.write id (List.eraseIdx_sublist x.order.toList place) ?_ ?_ (fun p mem => ?_) ?_ ?_
      fun entry mem => ?_
    · rw [List.map_id]
      exact Array.toList_eraseIdxIfInBounds
    · show (x.values.setIfInBounds position value).toList = _
      rw [Array.toList_setIfInBounds, List.map_set, ← h.values, toList]
    · exact List.getElem?_set_ne (others p mem).symm
    · rwa [List.map_id, List.length_set]
    · exact List.getElem?_set_self (h.size ▸ lt)
    · exact List.mem_or_eq_of_mem_set mem
  · have out := Nat.le_of_not_lt lt
    rw [Array.getElem?_eq_none out, List.set_eq_of_length_le (h.size ▸ out)]
    exact h.tick

/-- A removal within the index closes the gap of the removed position. -/
theorem Follows.removeAt [Std.TransOrd α] (h : x.Follows l) (position : Nat) :
    (x.removeAt position).2.Follows (l.removeAt position) := by
  unfold SortedIndex.removeAt Ledger.removeAt
  by_cases lt : position < x.size
  · obtain ⟨place, searched, all, others⟩ := h.exists_place lt
    have order : ((x.order.eraseIdxIfInBounds place).map (closeGap position)).toList
        = (x.order.toList.eraseIdx place).map (closeGap position) := by
      rw [Array.toList_map, Array.toList_eraseIdxIfInBounds]
    rw [Array.getElem?_eq_getElem lt, searched]
    refine ⟨h.carry (closeGap position) (List.eraseIdx_sublist x.order.toList place) order ?_
      fun p mem => ?_, ?_, fun entry mem => ?_⟩
    · show (x.values.eraseIdxIfInBounds position).toList = _
      rw [Array.toList_eraseIdxIfInBounds, ← List.eraseIdx_map, ← h.values, toList]
    · exact getElem?_eraseIdx_closeGap (others p mem)
    · show ((x.order.eraseIdxIfInBounds place).map (closeGap position)).toList.Perm _
      rw [order, List.length_eraseIdx_of_lt (h.size ▸ lt)]
      exact perm_closeGap all
    · exact h.past entry (List.mem_of_mem_eraseIdx mem)
  · have out := Nat.le_of_not_lt lt
    rw [Array.getElem?_eq_none out, List.eraseIdx_of_length_le (h.size ▸ out)]
    exact h

/-- A removed value follows the ledger, also when there is none. -/
theorem Follows.remove [Std.TransOrd α] (h : x.Follows l) (value : α) :
    (x.remove value).2.Follows (l.remove value) := by
  have first : x.firstPosition? value
      = l.entries.findIdx? fun entry => (compare entry.value value).isEq := by
    rw [h.wellFormed.firstPosition?_eq_findIdx?, h.values, List.findIdx?_map]
    rfl
  unfold SortedIndex.remove Ledger.remove
  rw [← first]
  cases x.firstPosition? value with
  | none => exact h
  | some position => exact h.removeAt position

/-- Every edit is done to the index and to the ledger alike. -/
theorem Follows.apply [Std.TransOrd α] (h : x.Follows l) (e : Edit α) :
    (x.apply e).2.Follows (l.apply e) := by
  cases e with
  | add value => exact h.add value
  | addAll values => exact h.addAll values
  | insert position value =>
    simp only [SortedIndex.apply, Ledger.apply]
    by_cases le : position ≤ x.size
    · obtain ⟨inserted, eq, follows⟩ := h.insert le value
      rw [eq]
      exact follows
    · have past_end : l.entries.length < position := h.size ▸ Nat.lt_of_not_le le
      have refused : x.insert? position value = none := if_neg le
      rw [refused, Ledger.insert, List.insertIdx_of_length_lt past_end]
      exact h.tick
  | set position value => exact h.set position value
  | remove value => exact h.remove value
  | removeAt position => exact h.removeAt position
  | clear => exact follows_empty l.clock

/-! ## Runs of edits -/

/-- An index follows its ledger through any edits. -/
theorem Follows.applyAll [Std.TransOrd α] (h : x.Follows l) (edits : List (Edit α)) :
    (x.applyAll edits).Follows (l.applyAll edits) := by
  induction edits generalizing x l with
  | nil => exact h
  | cons e edits ih => exact ih (h.apply e)

/-! ## The sorted entries -/

/-- The positions of the sorted entries are the order. -/
theorem Ascending.map_fst_sorted (h : x.Ascending) : x.sorted.map Prod.fst = x.order.toList := by
  unfold sorted
  rw [List.map_filterMap]
  refine (List.filterMap_congr fun p mem => ?_).trans List.filterMap_some
  rw [Array.getElem?_eq_getElem (h.inside p mem)]
  rfl

omit [Ord α] in
/-- Each sorted entry has the value of its position. -/
theorem get?_of_mem_sorted {entry : Nat × α} (mem : entry ∈ x.sorted) :
    x.get? entry.1 = some entry.2 := by
  obtain ⟨p, -, mapped⟩ := List.mem_filterMap.1 mem
  obtain ⟨value, found, rfl⟩ := Option.map_eq_some_iff.1 mapped
  exact found

/-- The sorted entries ascend by value, and by falling stamps among equal values. -/
theorem Follows.pairwise_sorted (h : x.Follows l) : x.sorted.Pairwise fun a b =>
    compare a.2 b.2 = .lt ∨ compare a.2 b.2 = .eq ∧ l.stampAt b.1 < l.stampAt a.1 := by
  unfold sorted
  rw [List.pairwise_filterMap]
  refine h.pairwise.imp fun {i j} precedes a found_a b found_b => ?_
  rw [h.value?, Option.map_map, Option.map_eq_some_iff] at found_a found_b
  obtain ⟨first, found, rfl⟩ := found_a
  obtain ⟨second, found', rfl⟩ := found_b
  show _ ∨ _ ∧ l.stampAt j < l.stampAt i
  rw [Ledger.stampAt_of_found found, Ledger.stampAt_of_found found']
  exact precedes first second found found'

/-- In any state that edits reach from the index of no values, the sorted entries are every position
once with its value, by ascending value, and the later written of two equal values comes first. In
an index of a list, the later written is the one at the higher position. -/
theorem applyAll_sorted_by_value_then_latest [Std.TransOrd α] (edits : List (Edit α))
    (values : List α) :
    let x : SortedIndex α := empty.applyAll edits
    let ledger := Ledger.applyAll {} edits
    x.toList = ledger.entries.map Stamped.value ∧
    (x.sorted.map Prod.fst).Perm (List.range x.size) ∧
    (∀ entry ∈ x.sorted, x.get? entry.1 = some entry.2) ∧
    (x.sorted.Pairwise fun a b => compare a.2 b.2 = .lt ∨
      compare a.2 b.2 = .eq ∧ ledger.stampAt b.1 < ledger.stampAt a.1) ∧
    (ofList values).sorted.Pairwise fun a b => compare a.2 b.2 = .lt ∨
      compare a.2 b.2 = .eq ∧ b.1 < a.1 := by
  intro x ledger
  have follows : x.Follows ledger := (follows_empty 0).applyAll edits
  refine ⟨follows.values, ?_, fun entry => get?_of_mem_sorted, follows.pairwise_sorted, ?_⟩
  · rw [follows.ascending.map_fst_sorted]
    exact follows.wellFormed.perm
  · have collected : (ofList values).Follows (values.foldl Ledger.add {}) :=
      (follows_empty 0).addAll values
    -- The stamp of a position is the position.
    have stamp : ∀ entry ∈ (ofList values).sorted,
        (values.foldl Ledger.add {}).stampAt entry.1 = entry.1 := by
      intro entry mem
      have inside := (Array.getElem?_eq_some_iff.1 (get?_of_mem_sorted mem)).1
      exact Ledger.stampAt_of_numbered (Ledger.map_stamp_foldl_add values rfl)
        (collected.size ▸ inside)
    refine collected.pairwise_sorted.imp_of_mem fun {a b} mem mem' precedes => ?_
    rwa [stamp a mem, stamp b mem'] at precedes

/-- Among three equal values, the one that is written over comes to stand first. -/
theorem applyAll_sorted_by_value_then_latest_written_over :
    let edits : List (Edit Nat) :=
      [.addAll [3, 1, 3], .insert 0 3, .set 1 3, .remove 1, .removeAt 9]
    let x : SortedIndex Nat := empty.applyAll edits
    let ledger := Ledger.applyAll {} edits
    x.sorted = [(1, 3), (0, 3), (2, 3)] ∧ ledger.entries = [⟨3, 3⟩, ⟨3, 4⟩, ⟨3, 2⟩] ∧
    (x.sorted.Pairwise fun a b => compare a.2 b.2 = .lt ∨
      compare a.2 b.2 = .eq ∧ ledger.stampAt b.1 < ledger.stampAt a.1) ∧
    (ofList [2, 1, 2]).sorted.Pairwise fun a b => compare a.2 b.2 = .lt ∨
      compare a.2 b.2 = .eq ∧ b.1 < a.1 := by
  intro edits x ledger
  obtain ⟨-, -, -, latest, collected⟩ := applyAll_sorted_by_value_then_latest edits [2, 1, 2]
  refine ⟨?_, ?_, latest, collected⟩
  · unfold x edits
    cbv
  · unfold ledger edits
    cbv

end Tabular.SortedIndex
