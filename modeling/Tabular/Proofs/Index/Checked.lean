import Tabular.Proofs.Index.Stamps

/-!
# Checked edits of an index

An edit of an index looks values up by the positions in the order, cuts slices out of the order, and
inserts and removes at places of it, without asking whether the positions and places are there. It
asserts that a position of the index stands in the run of its value and that no position is lost.
Here the edits are written again with each of these checks made, and a check that fails is a
`Fault`. On an index that edits reach the only one that can fail is the check for an insertion past
the end (`Follows.applyChecked`).
-/

namespace Tabular

/-! ## Searching with a test that can fail -/

section Search

variable {β : Type u} {ε : Type v} {p : β → Except ε Bool} {q : β → Bool} {xs : Array β}

/-- Halves a part of `xs` as `partitionBetween` does, and ends with the error of a test that does
not answer. -/
def partitionBetweenChecked (p : β → Except ε Bool) (xs : Array β) (low : Nat)
    (high : Fin (xs.size + 1)) : Except ε Nat :=
  if h : low < high then
    let middle := low + (high - low) / 2
    have inside : middle < xs.size := by omega
    match p xs[middle] with
    | .ok true => partitionBetweenChecked p xs (middle + 1) high
    | .ok false => partitionBetweenChecked p xs low ⟨middle, Nat.lt_succ_of_lt inside⟩
    | .error e => .error e
  else .ok low
termination_by high - low

/-- The position of the first element that fails the test. -/
def partitionPointChecked (p : β → Except ε Bool) (xs : Array β) : Except ε Nat :=
  partitionBetweenChecked p xs 0 (Fin.last xs.size)

/-- The search indexes in bounds, and it finds what the plain search finds, if the test faults
nowhere. -/
theorem partitionBetweenChecked_eq (answers : ∀ y ∈ xs, p y = .ok (q y)) (low high : Nat)
    (bound : high ≤ xs.size) :
    partitionBetweenChecked p xs low ⟨high, Nat.lt_succ_of_le bound⟩
      = .ok (partitionBetween q xs low high bound) := by
  fun_induction partitionBetween q xs low high bound with
  | case1 low high bound h middle inside holds ih =>
    have answer := answers xs[middle] (Array.getElem_mem inside)
    rw [holds] at answer
    rw [partitionBetweenChecked, dif_pos h]
    dsimp only
    rw [answer]
    exact ih
  | case2 low high bound h middle inside fails ih =>
    have answer := answers xs[middle] (Array.getElem_mem inside)
    rw [Bool.not_eq_true] at fails
    rw [fails] at answer
    rw [partitionBetweenChecked, dif_pos h]
    dsimp only
    rw [answer]
    exact ih
  | case3 low high bound h => rw [partitionBetweenChecked, dif_neg h]

/-- A test that answers for every element is searched with like a plain one. -/
theorem partitionPointChecked_eq (answers : ∀ y ∈ xs, p y = .ok (q y)) :
    partitionPointChecked p xs = .ok (partitionPoint q xs) :=
  partitionBetweenChecked_eq answers 0 xs.size (Nat.le_refl _)

end Search

namespace SortedIndex

/-- A check of an index that fails. -/
inductive Fault
  /-- There is no value at a position. -/
  | position
  /-- A place, or an end of a slice, is outside the order. -/
  | place
  /-- A position of the index is not in the run of its value. -/
  | missing
  /-- There are not as many positions in the order as there are values. -/
  | bookkeeping
  /-- A value is inserted past the end. -/
  | pastEnd
deriving Repr, DecidableEq

variable {α : Type} [Ord α] {x y : SortedIndex α} {position : Nat} {value : α}

/-! ## The searches -/

/-- How the value at a position compares, if there is one. -/
def comparesChecked (x : SortedIndex α) (value : α) (accept : Ordering → Bool) (position : Nat) :
    Except Fault Bool :=
  match x.values[position]? with
  | some other => .ok (accept (compare other value))
  | none => .error .position

/-- The number of leading positions in the order whose values are below `value`. -/
def lowerBoundChecked (x : SortedIndex α) (value : α) : Except Fault Nat :=
  partitionPointChecked (x.comparesChecked value Ordering.isLT) x.order

/-- The number of leading positions in the order whose values are at most `value`. -/
def upperBoundChecked (x : SortedIndex α) (value : α) : Except Fault Nat :=
  partitionPointChecked (x.comparesChecked value Ordering.isLE) x.order

/-- A slice, whose ends have to be places of the order in ascending order. -/
def sliceChecked (x : SortedIndex α) (start stop : Nat) : Except Fault (List Nat) :=
  if start ≤ stop ∧ stop ≤ x.order.size then .ok (x.slice start stop) else .error .place

/-- The positions that hold a value. -/
def runChecked (x : SortedIndex α) (value : α) : Except Fault (List Nat) := do
  let start ← x.lowerBoundChecked value
  let stop ← x.upperBoundChecked value
  x.sliceChecked start stop

/-- The place of a position, which has one if it has a value. -/
def placeChecked (x : SortedIndex α) (position : Nat) : Except Fault (Option Nat) :=
  match x.values[position]? with
  | none => .ok none
  | some value => do
    let start ← x.lowerBoundChecked value
    let run ← x.runChecked value
    match run.idxOf? position with
    | some offset => return some (start + offset)
    | none => throw .missing

/-! ## The edits -/

/-- Inserts a position at a place, which has to be one of the order or its end. -/
def enterAtChecked (x : SortedIndex α) (place position : Nat) : Except Fault (SortedIndex α) :=
  if place ≤ x.order.size then .ok { x with order := x.order.insertIdxIfInBounds place position }
  else .error .place

/-- Enters a position, in front of the positions of equal values. -/
def enterChecked (x : SortedIndex α) (position : Nat) (value : α) :
    Except Fault (SortedIndex α) := do
  let place ← x.lowerBoundChecked value
  x.enterAtChecked place position

/-- The value at a position, beside the index with the position taken out of the order. There is
none outside the index. -/
def takeChecked (x : SortedIndex α) (position : Nat) :
    Except Fault (Option (α × SortedIndex α)) := do
  match ← x.placeChecked position with
  | none => return none
  | some place =>
    match x.values[position]? with
    | none => throw .position
    | some old =>
      if place < x.order.size then
        return some (old, { x with order := x.order.eraseIdxIfInBounds place })
      else throw .place

/-- Asserts that every value has a position in the order. -/
def balancedChecked (x : SortedIndex α) : Except Fault (SortedIndex α) :=
  if x.values.size = x.order.size then .ok x else .error .bookkeeping

/-- Appends a value. Its place is searched for before it is appended. -/
def addChecked (x : SortedIndex α) (value : α) : Except Fault (SortedIndex α) := do
  let place ← x.lowerBoundChecked value
  let x ← { x with values := x.values.push value }.enterAtChecked place x.size
  x.balancedChecked

/-- Inserts a value in front of a position, which has to be at most the end. -/
def insertChecked (x : SortedIndex α) (position : Nat) (value : α) :
    Except Fault (SortedIndex α) :=
  if position ≤ x.size then do
    let order := x.order.map (makeRoom position)
    let x ← { values := x.values.insertIdxIfInBounds position value, order : SortedIndex α
      }.enterChecked position value
    x.balancedChecked
  else throw .pastEnd

/-- Replaces the value at a position and returns the old one. -/
def setChecked (x : SortedIndex α) (position : Nat) (value : α) :
    Except Fault (Option α × SortedIndex α) := do
  match ← x.takeChecked position with
  | none => return (none, x)
  | some (old, x) =>
    let values := x.values.setIfInBounds position value
    return (some old, ← { x with values }.enterChecked position value)

/-- Removes the value at a position and returns it. -/
def removeAtChecked (x : SortedIndex α) (position : Nat) :
    Except Fault (Option α × SortedIndex α) := do
  match ← x.takeChecked position with
  | none => return (none, x)
  | some (old, x) =>
    let values := x.values.eraseIdxIfInBounds position
    let order := x.order.map (closeGap position)
    return (some old, ← { values, order : SortedIndex α }.balancedChecked)

/-- Removes the first occurrence of a value, and says whether there was one. -/
def removeChecked (x : SortedIndex α) (value : α) : Except Fault (Bool × SortedIndex α) := do
  let run ← x.runChecked value
  match run.min? with
  | none => return (false, x)
  | some position =>
    let (removed, x) ← x.removeAtChecked position
    return (removed.isSome, x)

/-- Performs an edit. -/
def applyChecked (x : SortedIndex α) : Edit α → Except Fault (Edit.Answer α × SortedIndex α)
  | .add value => return (.done, ← x.addChecked value)
  | .addAll values => return (.done, ← values.foldlM addChecked x)
  | .insert position value => return (.done, ← x.insertChecked position value)
  | .set position value => return (← x.setChecked position value).map .content id
  | .remove value => return (← x.removeChecked value).map .found id
  | .removeAt position => return (← x.removeAtChecked position).map .content id
  | .clear => return (.done, empty)

/-! ## No search faults -/

/-- A position of the index is compared without a fault. -/
theorem comparesChecked_of_lt (lt : position < x.size) (value : α) (accept : Ordering → Bool) :
    x.comparesChecked value accept position = .ok (x.comparesAt value accept position) := by
  have found : x.values[position]? = some x.values[position] := Array.getElem?_eq_getElem lt
  rw [comparesChecked, found, comparesAt_of_found found]

/-- Where every position in the order has a value, a search for a bound answers. -/
theorem lowerBoundChecked_of_inside (inside : ∀ p ∈ x.order.toList, p < x.size) (value : α) :
    x.lowerBoundChecked value = .ok (x.lowerBound value) :=
  partitionPointChecked_eq fun p mem =>
    comparesChecked_of_lt (inside p (Array.mem_toList_iff.2 mem)) value _

/-- The upper bound is searched without a fault while the order lists positions of the index. -/
theorem upperBoundChecked_of_inside (inside : ∀ p ∈ x.order.toList, p < x.size) (value : α) :
    x.upperBoundChecked value = .ok (x.upperBound value) :=
  partitionPointChecked_eq fun p mem =>
    comparesChecked_of_lt (inside p (Array.mem_toList_iff.2 mem)) value _

/-- The positions of a value are a slice in bounds. -/
theorem WellFormed.runChecked [Std.TransOrd α] (h : x.WellFormed) (value : α) :
    x.runChecked value = .ok (x.run value) := by
  have ends : x.lowerBound value ≤ x.upperBound value ∧ x.upperBound value ≤ x.order.size :=
    ⟨h.lowerBound_le_upperBound value, x.upperBound_le value⟩
  unfold SortedIndex.runChecked
  rw [lowerBoundChecked_of_inside h.inside, upperBoundChecked_of_inside h.inside]
  exact if_pos ends

/-- A position of the index is in the run of its value. -/
theorem WellFormed.placeChecked [Std.TransOrd α] (h : x.WellFormed) (position : Nat) :
    x.placeChecked position = .ok (x.place? position) := by
  unfold SortedIndex.placeChecked place?
  cases found : x.values[position]? with
  | none => rfl
  | some value =>
    obtain ⟨place, searched, -⟩ := h.exists_place (Array.getElem?_eq_some_iff.1 found).1
    rw [place?, found, Option.bind_some] at searched
    obtain ⟨offset, at_offset, -⟩ := Option.map_eq_some_iff.1 searched
    dsimp only
    rw [lowerBoundChecked_of_inside h.inside, h.runChecked, Option.bind_some]
    show (match (x.run value).idxOf? position with
      | some offset => (.ok (some (x.lowerBound value + offset)) : Except Fault (Option Nat))
      | none => .error .missing) = _
    rw [at_offset]
    rfl

/-! ## No edit faults -/

/-- The lower bound is a place to insert at. -/
theorem enterAtChecked_lowerBound (x : SortedIndex α) (position : Nat) (value : α) :
    x.enterAtChecked (x.lowerBound value) position = .ok (x.enter position value) :=
  if_pos (x.lowerBound_le value)

/-- A position is entered without a fault while the order lists positions of the index. -/
theorem enterChecked_of_inside (inside : ∀ p ∈ x.order.toList, p < x.size) (position : Nat)
    (value : α) : x.enterChecked position value = .ok (x.enter position value) := by
  unfold enterChecked
  rw [lowerBoundChecked_of_inside inside]
  exact x.enterAtChecked_lowerBound position value

/-- The order has as many positions as there are values. -/
theorem WellFormed.balancedChecked (h : x.WellFormed) : x.balancedChecked = .ok x := by
  have length := h.perm.length_eq
  rw [List.length_range, Array.length_toList] at length
  exact if_pos length.symm

/-- Appending a value meets no fault. -/
theorem WellFormed.addChecked [Std.TransOrd α] (h : x.WellFormed) (value : α) :
    x.addChecked value = .ok (x.add value) := by
  -- The bound among the old values is the bound among them and the new one.
  have bound : x.lowerBoundChecked value
      = .ok (({ x with values := x.values.push value } : SortedIndex α).lowerBound value) := by
    refine partitionPointChecked_eq fun p mem => ?_
    have lt : p < x.values.size := h.inside p (Array.mem_toList_iff.2 mem)
    have found : x.values[p]? = some x.values[p] := Array.getElem?_eq_getElem lt
    have found' : (x.values.push value)[p]? = some x.values[p] := by
      rw [Array.getElem?_push, if_neg (Nat.ne_of_lt lt), found]
    rw [comparesChecked, found, comparesAt_of_found found']
  unfold SortedIndex.addChecked
  rw [bound]
  show (do
    let x ← ({ x with values := x.values.push value } : SortedIndex α).enterAtChecked _ x.size
    x.balancedChecked) = _
  rw [enterAtChecked_lowerBound]
  exact (h.add value).1.balancedChecked

/-- Appending values meets no fault, one after the other. -/
theorem WellFormed.addAllChecked [Std.TransOrd α] (h : x.WellFormed) (values : List α) :
    values.foldlM SortedIndex.addChecked x = .ok (x.addAll values) := by
  induction values generalizing x with
  | nil => rfl
  | cons value values ih =>
    rw [List.foldlM_cons, h.addChecked]
    exact ih (h.add value).1

variable {l : Ledger α}

/-- Inserting a value up to the end meets no fault. -/
theorem Follows.insertChecked [Std.TransOrd α] (h : x.Follows l) (le : position ≤ x.size)
    (inserted : x.insert? position value = some y) : x.insertChecked position value = .ok y := by
  obtain ⟨y', inserted', follows⟩ := h.insert le value
  obtain rfl : y = y' := Option.some.inj (inserted.symm.trans inserted')
  rw [insert?, if_pos le, Option.some_inj] at inserted
  -- When room has been made, the old positions are inside the longer list of values.
  have inside : ∀ p ∈ (x.order.map (makeRoom position)).toList,
      p < (x.values.insertIdxIfInBounds position value).size := by
    intro p mem
    rw [Array.toList_map, List.mem_map] at mem
    obtain ⟨q, mem, rfl⟩ := mem
    have lt : q < x.values.size := h.wellFormed.inside q mem
    have size : (x.values.insertIdxIfInBounds position value).size = x.values.size + 1 := by
      rw [Array.insertIdxIfInBounds, dif_pos (show position ≤ x.values.size from le),
        Array.size_insertIdx]
    rw [size, makeRoom]
    split <;> omega
  have entered : ({ values := x.values.insertIdxIfInBounds position value
                    order := x.order.map (makeRoom position) } : SortedIndex α).enterChecked
      position value = .ok y := inserted ▸ enterChecked_of_inside inside position value
  unfold SortedIndex.insertChecked
  rw [if_pos le]
  dsimp only
  rw [entered]
  exact follows.wellFormed.balancedChecked

/-- A position of the index is taken out of the order at its place. -/
theorem WellFormed.takeChecked_of_lt [Std.TransOrd α] (h : x.WellFormed)
    (lt : position < x.size) :
    ∃ old place, x.values[position]? = some old ∧ x.place? position = some place ∧
      x.takeChecked position
        = .ok (some (old, { x with order := x.order.eraseIdxIfInBounds place })) := by
  obtain ⟨place, searched, at_place⟩ := h.exists_place lt
  have found : x.values[position]? = some x.values[position] := Array.getElem?_eq_getElem lt
  have inOrder : place < x.order.size := by
    obtain ⟨inside, -⟩ := List.getElem?_eq_some_iff.1 at_place
    rwa [Array.length_toList] at inside
  refine ⟨x.values[position], place, found, searched, ?_⟩
  unfold takeChecked
  rw [h.placeChecked, searched]
  show (match x.values[position]? with
    | none => (.error .position : Except Fault (Option (α × SortedIndex α)))
    | some old =>
      if place < x.order.size then
        .ok (some (old, { x with order := x.order.eraseIdxIfInBounds place }))
      else .error .place) = _
  rw [found]
  exact if_pos inOrder

/-- Outside the index there is nothing to take out. -/
theorem takeChecked_of_outside (outside : x.size ≤ position) : x.takeChecked position = .ok none := by
  unfold takeChecked placeChecked
  rw [Array.getElem?_eq_none outside]
  rfl

/-- Replacing a value meets no fault, also outside the index. -/
theorem WellFormed.setChecked [Std.TransOrd α] (h : x.WellFormed) (position : Nat) (value : α) :
    x.setChecked position value = .ok (x.set position value) := by
  unfold SortedIndex.setChecked SortedIndex.set
  rcases Nat.lt_or_ge position x.size with lt | outside
  · obtain ⟨old, place, found, searched, taken⟩ := h.takeChecked_of_lt lt
    have inside : ∀ p ∈ (x.order.eraseIdxIfInBounds place).toList,
        p < (x.values.setIfInBounds position value).size := by
      intro p mem
      rw [Array.toList_eraseIdxIfInBounds] at mem
      rw [Array.size_setIfInBounds]
      exact h.inside p (List.mem_of_mem_eraseIdx mem)
    have entered := enterChecked_of_inside (x := { values := x.values.setIfInBounds position value
                                                   order := x.order.eraseIdxIfInBounds place })
      inside position value
    rw [taken, found, searched]
    show (do return (some old, ← SortedIndex.enterChecked _ position value)) = _
    rw [entered]
    rfl
  · rw [takeChecked_of_outside outside, Array.getElem?_eq_none outside]
    rfl

/-- Removing a position meets no fault, also outside the index. -/
theorem Follows.removeAtChecked [Std.TransOrd α] (h : x.Follows l) (position : Nat) :
    x.removeAtChecked position = .ok (x.removeAt position) := by
  have left := (h.removeAt position).wellFormed
  unfold SortedIndex.removeAtChecked
  unfold SortedIndex.removeAt at left ⊢
  rcases Nat.lt_or_ge position x.size with lt | outside
  · obtain ⟨old, place, found, searched, taken⟩ := h.wellFormed.takeChecked_of_lt lt
    rw [found, searched] at left ⊢
    have balanced : ({ values := x.values.eraseIdxIfInBounds position
                       order := (x.order.eraseIdxIfInBounds place).map (closeGap position)
                       } : SortedIndex α).balancedChecked = .ok _ := left.balancedChecked
    rw [taken]
    show (do return (some old, ← SortedIndex.balancedChecked _)) = _
    rw [balanced]
    rfl
  · rw [takeChecked_of_outside outside, Array.getElem?_eq_none outside]
    rfl

/-- Removing a value meets no fault, whether or not there is one. -/
theorem Follows.removeChecked [Std.TransOrd α] (h : x.Follows l) (value : α) :
    x.removeChecked value = .ok (x.remove value) := by
  unfold SortedIndex.removeChecked SortedIndex.remove firstPosition?
  rw [h.wellFormed.runChecked]
  show (match (x.run value).min? with
    | none => (.ok (false, x) : Except Fault (Bool × SortedIndex α))
    | some position => do
      let (removed, x) ← x.removeAtChecked position
      return (removed.isSome, x)) = _
  cases (x.run value).min? with
  | none => rfl
  | some position =>
    dsimp only
    rw [h.removeAtChecked]
    rfl

/-- The insertions past the end. -/
def Edit.PastEnd (size : Nat) (e : Edit α) : Prop :=
  ∃ position value, e = .insert position value ∧ size < position

/-- No edit faults but an insertion past the end. -/
theorem Follows.applyChecked [Std.TransOrd α] (h : x.Follows l) {e : Edit α}
    (notPastEnd : ¬ e.PastEnd x.size) : x.applyChecked e = .ok (x.apply e) := by
  cases e with
  | add value =>
    rw [SortedIndex.applyChecked, h.wellFormed.addChecked]
    rfl
  | addAll values =>
    rw [SortedIndex.applyChecked, h.wellFormed.addAllChecked]
    rfl
  | insert position value =>
    have le : position ≤ x.size :=
      Nat.le_of_not_lt fun past_end => notPastEnd ⟨position, value, rfl, past_end⟩
    obtain ⟨inserted, eq, -⟩ := h.insert le value
    rw [SortedIndex.applyChecked, h.insertChecked le eq]
    unfold SortedIndex.apply
    dsimp only
    rw [eq]
    rfl
  | set position value =>
    rw [SortedIndex.applyChecked, h.wellFormed.setChecked]
    rfl
  | remove value =>
    rw [SortedIndex.applyChecked, h.removeChecked]
    rfl
  | removeAt position =>
    rw [SortedIndex.applyChecked, h.removeAtChecked]
    rfl
  | clear => rfl

/-- An insertion past the end fails its check, and it is refused and leaves the index as it is. -/
theorem apply_of_pastEnd {e : Edit α} (past_end : e.PastEnd x.size) :
    x.applyChecked e = .error .pastEnd ∧ x.apply e = (.refused, x) := by
  obtain ⟨position, value, rfl, past_end⟩ := past_end
  constructor
  · have failed : x.insertChecked position value = .error .pastEnd :=
      if_neg (Nat.not_le_of_lt past_end)
    rw [applyChecked, failed]
    rfl
  · have refused : x.insert? position value = none := if_neg (Nat.not_le_of_lt past_end)
    unfold apply
    dsimp only
    rw [refused]

end SortedIndex

end Tabular
