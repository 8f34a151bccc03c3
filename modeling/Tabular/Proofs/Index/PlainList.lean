import Tabular.Proofs.Index.Checked

/-!
# An index as a plain list

By position, an index is a plain list. An edit of the index answers what the same edit of the list
answers, and it leaves the values that the edited list has (`Follows.onList`). An edit that finds
nothing leaves the whole index as it is (`WellFormed.apply_of_misses`).
-/

namespace Tabular.SortedIndex

/-! ## Edits of a plain list -/

section Lists

variable {α : Type u} [DecidableEq α]

/-- Performs an edit on a plain list. -/
def Edit.onList (xs : List α) : Edit α → Edit.Answer α × List α
  | .add value => (.done, xs ++ [value])
  | .addAll values => (.done, xs ++ values)
  | .insert position value =>
    if position ≤ xs.length then (.done, xs.insertIdx position value) else (.refused, xs)
  | .set position value => (.content xs[position]?, xs.set position value)
  | .remove value => (.found (value ∈ xs), xs.erase value)
  | .removeAt position => (.content xs[position]?, xs.eraseIdx position)
  | .clear => (.done, [])

/-- The edits that find nothing to do: their position is outside the list, or their value does not
occur. -/
def Edit.Misses (xs : List α) : Edit α → Prop
  | .insert position _ => xs.length < position
  | .set position _ | .removeAt position => xs.length ≤ position
  | .remove value => value ∉ xs
  | .add _ | .addAll _ | .clear => False

/-- A plain list after a list of edits. -/
def Edit.allOnList (xs : List α) (edits : List (Edit α)) : List α :=
  edits.foldl (fun xs e => (e.onList xs).2) xs

end Lists

variable {α : Type u} [Ord α] {x : SortedIndex α} {l : Ledger α} {position : Nat} {value : α}

omit [Ord α] in
/-- The value at a position is that of the list. -/
theorem get?_eq (x : SortedIndex α) (position : Nat) : x.get? position = x.toList[position]? :=
  (x.getElem?_toList position).symm

/-! ## Edits outside the index -/

/-- Outside the index nothing is replaced. -/
theorem set_of_outside (outside : x.size ≤ position) (value : α) :
    x.set position value = (none, x) := by
  unfold SortedIndex.set
  rw [Array.getElem?_eq_none outside]

/-- Outside the index nothing is removed. -/
theorem removeAt_of_outside (outside : x.size ≤ position) : x.removeAt position = (none, x) := by
  unfold removeAt
  rw [Array.getElem?_eq_none outside]

/-! ## What an edit answers -/

/-- A replacement answers the value that was there. -/
theorem WellFormed.fst_set [Std.TransOrd α] (h : x.WellFormed) (position : Nat) (value : α) :
    (x.set position value).1 = x.get? position := by
  rcases Nat.lt_or_ge position x.size with inside | outside
  · obtain ⟨place, searched, -⟩ := h.exists_place inside
    unfold SortedIndex.set get?
    rw [Array.getElem?_eq_getElem inside, searched]
  · rw [set_of_outside outside, get?, Array.getElem?_eq_none outside]

/-- A removal answers the value that was there. -/
theorem WellFormed.fst_removeAt [Std.TransOrd α] (h : x.WellFormed) (position : Nat) :
    (x.removeAt position).1 = x.get? position := by
  rcases Nat.lt_or_ge position x.size with inside | outside
  · obtain ⟨place, searched, -⟩ := h.exists_place inside
    unfold removeAt get?
    rw [Array.getElem?_eq_getElem inside, searched]
  · rw [removeAt_of_outside outside, get?, Array.getElem?_eq_none outside]

/-- The first position of a value is where a plain list has it first. -/
theorem WellFormed.firstPosition?_eq_idxOf? [DecidableEq α] [Std.TransOrd α] [Std.LawfulEqOrd α]
    (h : x.WellFormed) (value : α) : x.firstPosition? value = x.toList.idxOf? value := by
  rw [h.firstPosition?_eq_findIdx?]
  unfold List.idxOf?
  congr 1
  funext other
  refine Bool.eq_iff_iff.2 ?_
  rw [Ordering.isEq_iff_eq_eq, Std.LawfulEqOrd.compare_eq_iff_eq, beq_iff_eq]

/-- The removal of a value finds it exactly when it occurs. -/
theorem WellFormed.fst_remove [DecidableEq α] [Std.TransOrd α] [Std.LawfulEqOrd α]
    (h : x.WellFormed) (value : α) : (x.remove value).1 = decide (value ∈ x.toList) := by
  unfold remove
  rw [h.firstPosition?_eq_idxOf?]
  cases found : x.toList.idxOf? value with
  | none =>
    have absent : value ∉ x.toList := List.idxOf?_eq_none_iff.1 found
    exact (decide_eq_false absent).symm
  | some position =>
    have present : value ∈ x.toList := by
      rw [← List.isSome_idxOf?, found]
      rfl
    -- The position that was found is one of the index, so its removal answers a value.
    have inside : position < x.size := by
      obtain ⟨lt, -⟩ := List.idxOf?_eq_some_iff.1 found
      rwa [length_toList] at lt
    show (x.removeAt position).1.isSome = _
    rw [h.fst_removeAt, get?, Array.getElem?_eq_getElem inside, decide_eq_true present]
    rfl

/-! ## What an edit leaves -/

omit [Ord α] in
/-- Appending values one by one appends them to the list. -/
theorem Ledger.map_value_foldl_add (values : List α) (l : Ledger α) :
    (values.foldl Ledger.add l).entries.map Stamped.value
      = l.entries.map Stamped.value ++ values := by
  induction values generalizing l with
  | nil => exact (List.append_nil _).symm
  | cons value values ih =>
    have first : (l.add value).entries.map Stamped.value
        = l.entries.map Stamped.value ++ [value] := List.map_append
    rw [List.foldl_cons, ih, first, List.append_assoc]
    rfl

variable [DecidableEq α] [Std.LawfulEqOrd α]

/-- Without their stamps, the entries of a ledger are a plain list. -/
theorem Ledger.map_value_apply (l : Ledger α) (e : Edit α) :
    (l.apply e).entries.map Stamped.value = (e.onList (l.entries.map Stamped.value)).2 := by
  cases e with
  | add value => exact List.map_append
  | addAll values => exact map_value_foldl_add values l
  | insert position value =>
    have inserted : (l.insert position value).entries.map Stamped.value
        = (l.entries.map Stamped.value).insertIdx position value :=
      List.map_insertIdx _ _ _ _
    refine inserted.trans ?_
    unfold Edit.onList
    dsimp only
    split
    · rfl
    · next past_end => exact List.insertIdx_of_length_lt (Nat.lt_of_not_le past_end)
  | set position value => exact List.map_set
  | remove value =>
    -- The first entry of the value is where the plain list has the value first.
    have first : l.entries.findIdx? (fun entry => (compare entry.value value).isEq)
        = (l.entries.map Stamped.value).idxOf? value := by
      rw [List.idxOf?, List.findIdx?_map]
      congr 1
      funext entry
      refine Bool.eq_iff_iff.2 ?_
      rw [Ordering.isEq_iff_eq_eq, Std.LawfulEqOrd.compare_eq_iff_eq, Function.comp_apply,
        beq_iff_eq]
    show (l.remove value).entries.map Stamped.value = (l.entries.map Stamped.value).erase value
    rw [Ledger.remove, first, List.erase_eq_eraseIdx]
    cases (l.entries.map Stamped.value).idxOf? value with
    | none => rfl
    | some position => exact (List.eraseIdx_map _ _ _).symm
  | removeAt position => exact (List.eraseIdx_map _ _ _).symm
  | clear => rfl

/-- An edit of an index answers what it answers on the plain list of its values, and leaves the
values that it leaves there. -/
theorem Follows.onList [Std.TransOrd α] (h : x.Follows l) (e : Edit α) :
    (x.apply e).1 = (e.onList x.toList).1 ∧ (x.apply e).2.toList = (e.onList x.toList).2 := by
  constructor
  · have wf := h.wellFormed
    cases e with
    | add | addAll | clear => rfl
    | insert position value =>
      unfold SortedIndex.apply Edit.onList
      dsimp only
      rw [x.length_toList]
      by_cases le : position ≤ x.size
      · obtain ⟨inserted, eq, -⟩ := h.insert le value
        rw [eq, if_pos le]
      · have refused : x.insert? position value = none := if_neg le
        rw [refused, if_neg le]
    | set position value =>
      exact congrArg Edit.Answer.content ((wf.fst_set position value).trans (x.get?_eq position))
    | remove value => exact congrArg Edit.Answer.found (wf.fst_remove value)
    | removeAt position =>
      exact congrArg Edit.Answer.content
        ((wf.fst_removeAt position).trans (x.get?_eq position))
  · rw [(h.apply e).values, Ledger.map_value_apply, h.values]

/-- An edit that finds nothing changes nothing. -/
theorem WellFormed.apply_of_misses [Std.TransOrd α] (h : x.WellFormed) {e : Edit α}
    (misses : e.Misses x.toList) : (x.apply e).2 = x := by
  cases e with
  | add | addAll | clear => cases misses
  | insert position value =>
    have past_end : x.size < position := x.length_toList ▸ misses
    have refused : x.insert? position value = none := if_neg (Nat.not_le_of_lt past_end)
    unfold SortedIndex.apply
    dsimp only
    rw [refused]
  | set position value =>
    have outside : x.size ≤ position := x.length_toList ▸ misses
    exact congrArg Prod.snd (set_of_outside outside value)
  | removeAt position =>
    have outside : x.size ≤ position := x.length_toList ▸ misses
    exact congrArg Prod.snd (removeAt_of_outside outside)
  | remove value =>
    have absent : x.firstPosition? value = none := by
      rw [h.firstPosition?_eq_idxOf?, List.idxOf?_eq_none_iff]
      exact misses
    show (x.remove value).2 = x
    rw [remove, absent]

/-! ## Runs of edits -/

/-- After any edits the index has the list that the edits make. -/
theorem Follows.allOnList [Std.TransOrd α] (h : x.Follows l) (edits : List (Edit α)) :
    (x.applyAll edits).toList = Edit.allOnList x.toList edits := by
  induction edits generalizing x l with
  | nil => rfl
  | cons e edits ih =>
    calc (x.applyAll (e :: edits)).toList
        = Edit.allOnList (x.apply e).2.toList edits := ih (h.apply e)
      _ = Edit.allOnList x.toList (e :: edits) := by
        rw [(h.onList e).2]
        rfl

/-- An index that edits reach from the index of no values reads like the plain list that the
same edits reach from the empty list, and the next edit answers what it answers on that list. An
edit that finds nothing leaves the whole index as it is. No check of an edit fails, except that
of an insertion past the end, which always does. Every position of the index has its place in
the order. -/
theorem applyAll_answers_as_list {α : Type} [Ord α] [DecidableEq α] [Std.TransOrd α]
    [Std.LawfulEqOrd α] (edits : List (Edit α)) :
    let x : SortedIndex α := empty.applyAll edits
    let xs : List α := Edit.allOnList [] edits
    (x.toList = xs ∧ x.size = xs.length ∧ x.isEmpty = xs.isEmpty ∧
      ∀ position, x.get? position = xs[position]?) ∧
    (∀ e : Edit α, (x.apply e).1 = (e.onList xs).1) ∧
    (∀ e : Edit α, e.Misses xs → (x.apply e).2 = x) ∧
    (∀ e : Edit α, ¬ e.PastEnd xs.length → x.applyChecked e = .ok (x.apply e)) ∧
    (∀ e : Edit α, e.PastEnd xs.length → x.applyChecked e = .error .pastEnd) ∧
    ∀ position, position < x.size →
      ∃ place, x.place? position = some place ∧ x.order[place]? = some position := by
  intro x xs
  have follows : x.Follows (Ledger.applyAll {} edits) := (follows_empty 0).applyAll edits
  have toList : x.toList = xs := (follows_empty 0).allOnList edits
  have size : x.size = xs.length := by
    rw [← x.length_toList, toList]
  refine ⟨⟨toList, size, ?_, fun position => ?_⟩, fun e => ?_, fun e misses => ?_,
    fun e notPastEnd => ?_, fun e past_end => ?_, fun position lt => ?_⟩
  · rw [← toList, SortedIndex.toList, Array.isEmpty_toList]
    rfl
  · rw [x.get?_eq, toList]
  · rw [(follows.onList e).1, toList]
  · exact follows.wellFormed.apply_of_misses (toList ▸ misses)
  · exact follows.applyChecked (size ▸ notPastEnd)
  · exact (apply_of_pastEnd (size ▸ past_end)).1
  · obtain ⟨place, searched, at_place⟩ := follows.wellFormed.exists_place lt
    exact ⟨place, searched, by rwa [Array.getElem?_toList] at at_place⟩

/-- Of equal values the first is removed, wherever the others stand in the order. -/
theorem applyAll_answers_as_list_duplicates :
    let edits : List (Edit Nat) := [.addAll [3, 1, 3], .insert 0 3, .set 1 2, .set 9 5]
    let x : SortedIndex Nat := empty.applyAll edits
    x.toList = [3, 2, 1, 3] ∧ (x.apply (.remove 3)).1 = .found true ∧
      (x.apply (.remove 7)).2 = x ∧ x.applyChecked (.insert 5 0) = .error .pastEnd := by
  intro edits x
  obtain ⟨⟨toList, -⟩, answers, misses, -, past_end, -⟩ := applyAll_answers_as_list edits
  have absent : 7 ∉ ([3, 2, 1, 3] : List Nat) := by decide
  refine ⟨toList, answers (.remove 3), misses (.remove 7) absent, ?_⟩
  exact past_end (.insert 5 0) ⟨5, 0, rfl, by decide⟩

end Tabular.SortedIndex
