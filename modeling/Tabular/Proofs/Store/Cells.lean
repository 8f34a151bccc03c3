import Mathlib.Data.List.ProdSigma
import Tabular.Store.Cells

/-!
# The shape and the contents of backing cells

What each operation on the backing cells does to the shape of the rectangle and, cell by cell, to
what it holds. Growing changes no content, since the cells it adds are empty and a cell outside the
rectangle reads as empty too.
-/

namespace Tabular.Cells

variable {α : Type u} {c : Cells α} {rows columns : Nat}

/-- The cells form a rectangle of `rows` lines of `columns` cells. -/
structure Shaped (c : Cells α) (rows columns : Nat) : Prop where
  size_lines : c.lines.size = rows
  size_line : ∀ (i : Nat) (lane : Array (Option α)), c.lines[i]? = some lane → lane.size = columns

/-- A cell is looked up in its line, and is empty outside. -/
theorem get_eq (c : Cells α) (i j : Nat) :
    c.get i j = c.lines[i]?.bind fun lane => lane[j]?.join := by
  unfold get
  cases c.lines[i]? <;> rfl

/-- A cell of the rectangle is within it. -/
theorem Shaped.within (h : c.Shaped rows columns) {i j : Nat} (hi : i < rows) (hj : j < columns) :
    c.Within i j := by
  have inside : i < c.lines.size := by
    rw [h.size_lines]
    exact hi
  refine ⟨c.lines[i], Array.getElem?_eq_getElem inside, ?_⟩
  rw [h.size_line i _ (Array.getElem?_eq_getElem inside)]
  exact hj

/-- There is nothing outside the rectangle. -/
theorem Shaped.get_eq_none (h : c.Shaped rows columns) {i j : Nat}
    (outside : rows ≤ i ∨ columns ≤ j) : c.get i j = none := by
  rw [get_eq]
  cases found : c.lines[i]? with
  | none => rfl
  | some lane =>
    have lt : i < rows := by
      rw [← h.size_lines]
      exact (Array.getElem?_eq_some_iff.1 found).1
    -- The row is there, so it is the column that is outside.
    have le : lane.size ≤ j := by
      rw [h.size_line i lane found]
      omega
    rw [Option.bind_some, Array.getElem?_eq_none le]
    rfl

/-- Blank cells have the shape that they are made with. -/
theorem shaped_blank (rows columns : Nat) : (blank rows columns : Cells α).Shaped rows columns where
  size_lines := Array.size_replicate
  size_line i lane found := by
    unfold blank at found
    rw [Array.getElem?_replicate] at found
    split at found
    · cases found
      exact Array.size_replicate
    · cases found

/-! ## Writing -/

/-- A write keeps the shape. -/
theorem Shaped.put (h : c.Shaped rows columns) (i j : Nat) (content : Option α) :
    (c.put i j content).Shaped rows columns where
  size_lines := by
    rw [← h.size_lines]
    exact Array.size_modify
  size_line k lane found := by
    unfold Cells.put at found
    dsimp only at found
    rw [Array.getElem?_modify] at found
    split at found
    · obtain ⟨old, at_k, rfl⟩ := Option.map_eq_some_iff.1 found
      rw [Array.size_setIfInBounds]
      exact h.size_line k old at_k
    · exact h.size_line k lane found

/-- What a cell holds after a write within the rectangle. -/
theorem Within.get_put {i j : Nat} (within : c.Within i j) (content : Option α) (x y : Nat) :
    (c.put i j content).get x y = if i = x ∧ j = y then content else c.get x y := by
  split
  · next same =>
    obtain ⟨rfl, rfl⟩ := same
    exact get_put_self within content
  · next other => exact get_put_of_ne (by omega) content

/-- What is left when some cells of the rectangle are emptied. -/
theorem Shaped.foldl_put (h : c.Shaped rows columns) (emptied : List (Nat × Nat))
    (inside : ∀ k ∈ emptied, k.1 < rows ∧ k.2 < columns) :
    (emptied.foldl (fun cells k => cells.put k.1 k.2 none) c).Shaped rows columns ∧
      ∀ x y, (emptied.foldl (fun cells k => cells.put k.1 k.2 none) c).get x y
        = if (x, y) ∈ emptied then none else c.get x y := by
  induction emptied generalizing c with
  | nil => exact ⟨h, fun x y => rfl⟩
  | cons first rest ih =>
    obtain ⟨hi, hj⟩ := inside first List.mem_cons_self
    obtain ⟨shaped, get⟩ := ih (h.put first.1 first.2 none) fun k mem =>
      inside k (List.mem_cons_of_mem _ mem)
    refine ⟨shaped, fun x y => (get x y).trans ?_⟩
    rw [(h.within hi hj).get_put]
    -- A cell that is emptied again later is empty whatever the first write does.
    by_cases later : (x, y) ∈ rest
    · rw [if_pos later, if_pos (List.mem_cons_of_mem _ later)]
    · rw [if_neg later]
      by_cases same : first.1 = x ∧ first.2 = y
      · obtain ⟨rfl, rfl⟩ := same
        rw [if_pos ⟨rfl, rfl⟩, if_pos List.mem_cons_self]
      · rw [if_neg same, if_neg]
        intro mem
        rcases List.mem_cons.1 mem with eq | mem
        · exact same ⟨(congrArg Prod.fst eq).symm, (congrArg Prod.snd eq).symm⟩
        · exact later mem

/-- Emptying cells of two rectangles that are mirror images of each other. -/
theorem foldl_put_swap {d : Cells α} (h : c.Shaped rows columns) (h' : d.Shaped columns rows)
    (get : ∀ x y, d.get x y = c.get y x) (emptied : List (Nat × Nat))
    (inside : ∀ k ∈ emptied, k.1 < rows ∧ k.2 < columns) (x y : Nat) :
    ((emptied.map Prod.swap).foldl (fun cells k => cells.put k.1 k.2 none) d).get x y
      = (emptied.foldl (fun cells k => cells.put k.1 k.2 none) c).get y x := by
  have inside' : ∀ k ∈ emptied.map Prod.swap, k.1 < columns ∧ k.2 < rows := by
    intro k mem
    obtain ⟨k', mem', rfl⟩ := List.mem_map.1 mem
    exact (inside k' mem').symm
  rw [(h'.foldl_put _ inside').2, (h.foldl_put _ inside).2, get]
  simp only [List.mem_map_swap]

/-! ## Growing -/

/-- With lines added the rectangle is taller. -/
theorem Shaped.growRows (h : c.Shaped rows columns) {count : Nat} (le : rows ≤ count) :
    (c.growRows count columns).Shaped count columns where
  size_lines := by
    unfold Cells.growRows
    rw [Array.size_append, Array.size_replicate, h.size_lines]
    omega
  size_line i lane found := by
    unfold Cells.growRows at found
    dsimp only at found
    rw [Array.getElem?_append] at found
    split at found
    · exact h.size_line i lane found
    · rw [Array.getElem?_replicate] at found
      split at found
      · cases found
        exact Array.size_replicate
      · cases found

/-- Lines that are added are empty, as what is outside is. -/
theorem get_growRows (c : Cells α) (rows columns i j : Nat) :
    (c.growRows rows columns).get i j = c.get i j := by
  rw [get_eq, get_eq]
  unfold growRows
  dsimp only
  rw [Array.getElem?_append]
  split
  · rfl
  · next outside =>
    rw [Array.getElem?_eq_none (Nat.le_of_not_lt outside), Array.getElem?_replicate]
    split
    · rw [Option.bind_some, Array.getElem?_replicate]
      split <;> rfl
    · rfl

/-- With cells added to every line the rectangle is wider. -/
theorem Shaped.growColumns (h : c.Shaped rows columns) {count : Nat} (le : columns ≤ count) :
    (c.growColumns count).Shaped rows count where
  size_lines := by
    rw [← h.size_lines]
    exact Array.size_map
  size_line i lane found := by
    unfold Cells.growColumns at found
    dsimp only at found
    rw [Array.getElem?_map] at found
    obtain ⟨old, at_i, rfl⟩ := Option.map_eq_some_iff.1 found
    rw [Array.size_append, Array.size_replicate, h.size_line i old at_i]
    omega

/-- Cells that are added are empty, as what is outside is. -/
theorem get_growColumns (c : Cells α) (columns i j : Nat) :
    (c.growColumns columns).get i j = c.get i j := by
  rw [get_eq, get_eq]
  unfold growColumns
  dsimp only
  rw [Array.getElem?_map]
  cases c.lines[i]? with
  | none => rfl
  | some lane =>
    rw [Option.map_some, Option.bind_some, Option.bind_some, Array.getElem?_append]
    split
    · rfl
    · next outside =>
      rw [Array.getElem?_eq_none (Nat.le_of_not_lt outside), Array.getElem?_replicate]
      split <;> rfl

/-! ## Exchanging lines -/

/-- Where the contents of a line come from when two lines are exchanged. -/
def exchanged (i j k : Nat) : Nat := if k = i then j else if k = j then i else k

/-- After an exchange, each of the two places has what the other had. -/
theorem getElem?_swapIfInBounds {β : Type v} {xs : Array β} {i j : Nat} (hi : i < xs.size)
    (hj : j < xs.size) (k : Nat) : (xs.swapIfInBounds i j)[k]? = xs[exchanged i j k]? := by
  rw [Array.swapIfInBounds_def, dif_pos hi, dif_pos hj, Array.getElem?_swap]
  unfold exchanged
  by_cases at_i : k = i
  · subst at_i
    rw [if_pos rfl, if_pos rfl, Array.getElem?_eq_getElem hj]
    split
    · next eq => simp only [eq]
    · rfl
  · rw [if_neg at_i, if_neg (Ne.symm at_i)]
    by_cases at_j : k = j
    · rw [if_pos at_j, if_pos at_j.symm, Array.getElem?_eq_getElem hi]
    · rw [if_neg at_j, if_neg (Ne.symm at_j)]

/-- An exchange of lines keeps the shape. -/
theorem Shaped.swapRows (h : c.Shaped rows columns) {i j : Nat} (hi : i < rows) (hj : j < rows) :
    (c.swapRows i j).Shaped rows columns where
  size_lines := by
    rw [← h.size_lines]
    exact Array.size_swapIfInBounds
  size_line k lane found := by
    rw [← h.size_lines] at hi hj
    unfold Cells.swapRows at found
    dsimp only at found
    rw [getElem?_swapIfInBounds hi hj] at found
    exact h.size_line _ lane found

/-- An exchange of lines exchanges all their cells. -/
theorem Shaped.get_swapRows (h : c.Shaped rows columns) {i j : Nat} (hi : i < rows)
    (hj : j < rows) (x y : Nat) : (c.swapRows i j).get x y = c.get (exchanged i j x) y := by
  rw [← h.size_lines] at hi hj
  rw [get_eq, get_eq]
  unfold Cells.swapRows
  dsimp only
  rw [getElem?_swapIfInBounds hi hj]

/-- An exchange of cells in every line keeps the shape. -/
theorem Shaped.swapColumns (h : c.Shaped rows columns) (i j : Nat) :
    (c.swapColumns i j).Shaped rows columns where
  size_lines := by
    rw [← h.size_lines]
    exact Array.size_map
  size_line k lane found := by
    unfold Cells.swapColumns at found
    dsimp only at found
    rw [Array.getElem?_map] at found
    obtain ⟨old, at_k, rfl⟩ := Option.map_eq_some_iff.1 found
    rw [Array.size_swapIfInBounds]
    exact h.size_line k old at_k

/-- An exchange in every line exchanges two columns of cells. -/
theorem Shaped.get_swapColumns (h : c.Shaped rows columns) {i j : Nat} (hi : i < columns)
    (hj : j < columns) (x y : Nat) : (c.swapColumns i j).get x y = c.get x (exchanged i j y) := by
  rw [get_eq, get_eq]
  unfold Cells.swapColumns
  dsimp only
  rw [Array.getElem?_map]
  cases found : c.lines[x]? with
  | none => rfl
  | some lane =>
    rw [← h.size_line x lane found] at hi hj
    rw [Option.map_some, Option.bind_some, Option.bind_some, getElem?_swapIfInBounds hi hj]

/-! ## Dropping lines -/

/-- The first items of an array are its items up to their number. -/
theorem getElem?_take {β : Type v} (xs : Array β) (count k : Nat) :
    (xs.take count)[k]? = if k < count then xs[k]? else none := by
  rw [← Array.getElem?_toList, Array.take_eq_extract, Array.toList_extract,
    List.extract_eq_take_drop, List.drop_zero, Nat.sub_zero, List.getElem?_take,
    Array.getElem?_toList]

/-- No more items are taken than there are. -/
theorem size_take {β : Type v} (xs : Array β) (count : Nat) :
    (xs.take count).size = min count xs.size := by
  rw [Array.take_eq_extract, Array.size_extract, Nat.sub_zero]

/-- The first lines are a rectangle that is less tall. -/
theorem Shaped.takeRows (h : c.Shaped rows columns) {count : Nat} (le : count ≤ rows) :
    (c.takeRows count).Shaped count columns where
  size_lines := by
    unfold Cells.takeRows
    rw [size_take, h.size_lines]
    omega
  size_line i lane found := by
    unfold Cells.takeRows at found
    dsimp only at found
    rw [getElem?_take] at found
    split at found
    · exact h.size_line i lane found
    · cases found

/-- Outside the lines that are taken every cell is empty. -/
theorem get_takeRows (c : Cells α) (count x y : Nat) :
    (c.takeRows count).get x y = if x < count then c.get x y else none := by
  rw [get_eq, get_eq]
  unfold Cells.takeRows
  dsimp only
  rw [getElem?_take]
  split <;> rfl

/-- The first cells of every line are a rectangle that is less wide. -/
theorem Shaped.takeColumns (h : c.Shaped rows columns) {count : Nat} (le : count ≤ columns) :
    (c.takeColumns count).Shaped rows count where
  size_lines := by
    rw [← h.size_lines]
    exact Array.size_map
  size_line i lane found := by
    unfold Cells.takeColumns at found
    dsimp only at found
    rw [Array.getElem?_map] at found
    obtain ⟨old, at_i, rfl⟩ := Option.map_eq_some_iff.1 found
    rw [size_take, h.size_line i old at_i]
    omega

/-- Outside the cells that are taken every cell is empty. -/
theorem get_takeColumns (c : Cells α) (count x y : Nat) :
    (c.takeColumns count).get x y = if y < count then c.get x y else none := by
  rw [get_eq, get_eq]
  unfold Cells.takeColumns
  dsimp only
  rw [Array.getElem?_map]
  cases c.lines[x]? with
  | none =>
    split <;> rfl
  | some lane =>
    rw [Option.map_some, Option.bind_some, Option.bind_some, getElem?_take]
    split <;> rfl

/-! ## Exchanging rows and columns -/

/-- The rectangle with rows and columns exchanged. -/
def mirror (c : Cells α) (rows columns : Nat) : Cells α :=
  ⟨Array.ofFn fun j : Fin columns => Array.ofFn fun i : Fin rows => c.get i j⟩

/-- The mirror image is as tall as the rectangle is wide, and as wide as it is tall. -/
theorem shaped_mirror (c : Cells α) (rows columns : Nat) :
    (c.mirror rows columns).Shaped columns rows where
  size_lines := Array.size_ofFn
  size_line j lane found := by
    unfold mirror at found
    rw [Array.getElem?_ofFn] at found
    split at found
    · cases found
      exact Array.size_ofFn
    · cases found

/-- The mirror image has rows and columns exchanged. -/
theorem Shaped.get_mirror (h : c.Shaped rows columns) (x y : Nat) :
    (c.mirror rows columns).get x y = c.get y x := by
  by_cases inside : x < columns ∧ y < rows
  · rw [get_eq]
    unfold mirror
    rw [Array.getElem?_ofFn, dif_pos inside.1, Option.bind_some, Array.getElem?_ofFn,
      dif_pos inside.2]
    rfl
  · rw [(shaped_mirror c rows columns).get_eq_none (by omega), h.get_eq_none (by omega)]

end Tabular.Cells
