import Mathlib.Data.List.Nodup
import Tabular.Proofs.Index.Queries

/-!
# The places of positions

An edit of an index finds its position in the order by a search inside the run of its value
(`WellFormed.exists_place`), and renumbers the positions behind it: `makeRoom` for a position that
is inserted, `closeGap` for one that is removed. A renumbering follows the values to their new
positions and loses none (`perm_makeRoom`, `perm_closeGap`).
-/

namespace Tabular.SortedIndex

/-! ## Renumbering -/

/-- The new number of a position when another one is inserted in front of `position`. -/
def makeRoom (position p : Nat) : Nat := if position ≤ p then p + 1 else p

/-- The new number of a position when `position` is removed. -/
def closeGap (position p : Nat) : Nat := if position < p then p - 1 else p

/-- Room is made at the position: no other is moved there. -/
theorem makeRoom_ne (position p : Nat) : makeRoom position p ≠ position := by
  unfold makeRoom
  split <;> omega

/-- Making room keeps positions apart. -/
theorem makeRoom_inj {position p q : Nat} (eq : makeRoom position p = makeRoom position q) :
    p = q := by
  unfold makeRoom at eq
  split at eq <;> split at eq <;> omega

/-- A gap that is closed had been made room for. -/
theorem makeRoom_closeGap {position p : Nat} (ne : p ≠ position) :
    makeRoom position (closeGap position p) = p := by
  unfold makeRoom closeGap
  split <;> split <;> omega

/-- Closing the gap undoes making room. -/
theorem closeGap_makeRoom (position p : Nat) : closeGap position (makeRoom position p) = p := by
  unfold makeRoom closeGap
  split <;> split <;> omega

section Lists

variable {β : Type v} {xs : List β} {position p : Nat}

/-- After an insertion, an element of the list is at its new number. -/
theorem getElem?_insertIdx_makeRoom (new : β) :
    (xs.insertIdx position new)[makeRoom position p]? = xs[p]? := by
  rw [List.getElem?_insertIdx]
  unfold makeRoom
  split
  · next behind => rw [if_neg (by omega), if_neg (by omega), Nat.add_sub_cancel]
  · next before => rw [if_pos (by omega)]

/-- After a removal, an element of the list is at its new number. -/
theorem getElem?_eraseIdx_closeGap (ne : p ≠ position) :
    (xs.eraseIdx position)[closeGap position p]? = xs[p]? := by
  rw [List.getElem?_eraseIdx]
  unfold closeGap
  split
  · next behind => rw [if_neg (by omega), Nat.sub_add_cancel (by omega)]
  · next before => rw [if_pos (by omega)]

end Lists

variable {rest : List Nat} {position size : Nat}

/-- Every number is taken when room is made for one more. -/
theorem perm_makeRoom (all : rest.Perm (List.range size)) (le : position ≤ size) :
    (position :: rest.map (makeRoom position)).Perm (List.range (size + 1)) := by
  have nodup : rest.Nodup := all.nodup_iff.2 List.nodup_range
  have fresh : position ∉ rest.map (makeRoom position) := by
    rw [List.mem_map]
    rintro ⟨p, -, eq⟩
    exact makeRoom_ne position p eq
  have renumbered : (rest.map (makeRoom position)).Nodup := nodup.map fun _ _ => makeRoom_inj
  rw [List.perm_ext_iff_of_nodup (List.nodup_cons.2 ⟨fresh, renumbered⟩) List.nodup_range]
  intro q
  rw [List.mem_cons, List.mem_map, List.mem_range]
  constructor
  · rintro (rfl | ⟨p, mem, rfl⟩)
    · omega
    · have lt : p < size := List.mem_range.1 (all.mem_iff.1 mem)
      unfold makeRoom
      split <;> omega
  · intro lt
    by_cases eq : q = position
    · exact .inl eq
    · refine .inr ⟨closeGap position q, all.mem_iff.2 (List.mem_range.2 ?_), makeRoom_closeGap eq⟩
      unfold closeGap
      split <;> omega

/-- Every number is taken when the gap of a removed one is closed. -/
theorem perm_closeGap (all : (position :: rest).Perm (List.range size)) :
    (rest.map (closeGap position)).Perm (List.range (size - 1)) := by
  obtain ⟨absent, nodup⟩ := List.nodup_cons.1 (all.nodup_iff.2 List.nodup_range)
  have ne : ∀ {p}, p ∈ rest → p ≠ position := fun mem eq => absent (eq ▸ mem)
  have inside : ∀ {p}, p ∈ position :: rest → p < size := fun mem =>
    List.mem_range.1 (all.mem_iff.1 mem)
  have renumbered : (rest.map (closeGap position)).Nodup := by
    refine nodup.map_on fun p mem q mem' eq => ?_
    rw [← makeRoom_closeGap (ne mem), eq, makeRoom_closeGap (ne mem')]
  rw [List.perm_ext_iff_of_nodup renumbered List.nodup_range]
  intro q
  rw [List.mem_map, List.mem_range]
  constructor
  · rintro ⟨p, mem, rfl⟩
    have lt := inside (List.mem_cons_of_mem position mem)
    have lt' := inside List.mem_cons_self
    have := ne mem
    unfold closeGap
    split <;> omega
  · intro lt
    have mem : makeRoom position q ∈ position :: rest := by
      rw [all.mem_iff, List.mem_range]
      unfold makeRoom
      split <;> omega
    rcases List.mem_cons.1 mem with eq | mem
    · exact absurd eq (makeRoom_ne position q)
    · exact ⟨makeRoom position q, mem, closeGap_makeRoom position q⟩

/-! ## The place of a position -/

variable {α : Type u} [Ord α] {x : SortedIndex α}

/-- The run of a value is the positions that hold it. -/
theorem WellFormed.mem_run [Std.TransOrd α] (h : x.WellFormed) {value : α} :
    position ∈ x.run value ↔
      ∃ other, x.toList[position]? = some other ∧ (compare other value).isEq := by
  rw [h.run_eq, List.mem_filter, h.perm.mem_iff, List.mem_range, getElem?_toList]
  constructor
  · rintro ⟨lt, equal⟩
    have found : x.values[position]? = some x.values[position] := Array.getElem?_eq_getElem lt
    exact ⟨_, found, by rwa [comparesAt_of_found found] at equal⟩
  · rintro ⟨other, found, equal⟩
    exact ⟨(Array.getElem?_eq_some_iff.1 found).1, by rwa [comparesAt_of_found found]⟩

/-- A position of the index is found at its place in the order. -/
theorem WellFormed.exists_place [Std.TransOrd α] (h : x.WellFormed) (lt : position < x.size) :
    ∃ place, x.place? position = some place ∧ x.order.toList[place]? = some position := by
  obtain ⟨value, found⟩ : ∃ value, x.values[position]? = some value :=
    ⟨_, Array.getElem?_eq_getElem lt⟩
  -- The position is in the run of its value, so that the search of the run succeeds.
  have found' : x.toList[position]? = some value := (x.getElem?_toList position).trans found
  have equal : (compare value value).isEq := Ordering.isEq_iff_eq_eq.2 Std.ReflOrd.compare_self
  have mem : position ∈ x.run value := h.mem_run.2 ⟨value, found', equal⟩
  obtain ⟨offset, searched⟩ := Option.isSome_iff_exists.1 (List.isSome_idxOf?.2 mem)
  refine ⟨x.lowerBound value + offset, ?_, ?_⟩
  · unfold place?
    rw [found, Option.bind_some, searched, Option.map_some]
  · obtain ⟨inside, at_offset, -⟩ := List.idxOf?_eq_some_iff.1 searched
    have at_place : (x.run value)[offset]? = some position := by
      rw [List.getElem?_eq_getElem inside, at_offset]
    unfold run slice at at_place
    rw [Array.getElem?_toList, Array.getElem?_extract] at at_place
    split at at_place
    · rwa [Array.getElem?_toList]
    · cases at_place

/-- Erasing a position from the order leaves all the others there. -/
theorem WellFormed.perm_eraseIdx (h : x.WellFormed) {place : Nat}
    (at_place : x.order.toList[place]? = some position) :
    (position :: (x.order.toList.eraseIdx place)).Perm (List.range x.size) := by
  obtain ⟨lt, eq⟩ := List.getElem?_eq_some_iff.1 at_place
  exact eq ▸ (List.getElem_cons_eraseIdx_perm lt).trans h.perm

/-! ## The first position of a value -/

/-- The lowest position of the run of a value is the first one that holds the value. -/
theorem WellFormed.firstPosition?_eq_findIdx? [Std.TransOrd α] (h : x.WellFormed) (value : α) :
    x.firstPosition? value = x.toList.findIdx? fun other => (compare other value).isEq := by
  refine Option.ext fun p => ?_
  rw [firstPosition?, List.min?_eq_some_iff, List.findIdx?_eq_some_iff_getElem, h.mem_run]
  constructor
  · rintro ⟨⟨other, found, equal⟩, least⟩
    obtain ⟨lt, rfl⟩ := List.getElem?_eq_some_iff.1 found
    refine ⟨lt, equal, fun q before equal' => ?_⟩
    have := least q (h.mem_run.2 ⟨_, List.getElem?_eq_getElem (Nat.lt_trans before lt), equal'⟩)
    omega
  · rintro ⟨lt, equal, first⟩
    refine ⟨⟨_, List.getElem?_eq_getElem lt, equal⟩, fun q mem => ?_⟩
    obtain ⟨other, found, equal'⟩ := h.mem_run.1 mem
    obtain ⟨lt', rfl⟩ := List.getElem?_eq_some_iff.1 found
    exact Nat.le_of_not_lt fun before => first q before equal'

end Tabular.SortedIndex
