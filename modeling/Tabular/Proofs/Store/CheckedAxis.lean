import Tabular.Proofs.Store.Packing

/-!
# Checked operations of an axis

An axis indexes its slots without looking, and it asserts what its author relies on: a position maps
to an active slot, no slot is lost, and a slot that is moved has a position. Here the operations are
written again with each of these checks made, and a check that fails is a `Fault`. On a well-formed
axis no check fails, and the checked operation does what the plain one does.

Packing keeps a table of the position behind each slot. Looking the positions up in it, move by
move, gives the relocated slots of `Axis.pack` (`foldlM_moveChecked`).
-/

namespace Tabular

/-- A check that fails. -/
inductive Fault
  /-- A position maps to a slot that is not active. -/
  | inactive
  /-- An axis does not have the position. -/
  | position
  /-- A cell, or a line of cells, is outside the rectangle. -/
  | cell
  /-- The active and the released slots are not as many as were handed out. -/
  | bookkeeping
  /-- A slot is outside the table of positions, or no position maps to it. -/
  | owner
deriving Repr, DecidableEq

namespace Axis

/-! ## The operations -/

/-- The slot behind a position, asserted to be active. -/
def slotChecked (a : Axis) (position : Nat) : Except Fault (Option Nat) :=
  match a.slots[position]? with
  | none => .ok none
  | some slot =>
    if a.active.contains (Capacity.number slot) then .ok (some slot) else .error .inactive

/-- The slot behind a position that the axis has to have. -/
def indexChecked (a : Axis) (position : Nat) : Except Fault Nat :=
  match a.slots[position]? with
  | none => .error .position
  | some slot => .ok slot

/-- An insertion, which has to be at most at the end. -/
def insertChecked (a : Axis) (position : Nat) : Except Fault (Option (Nat × Axis)) :=
  match a.insert position with
  | none => .ok none
  | some result => if position ≤ a.size then .ok (some result) else .error .position

/-- A release, after which no slot is lost. -/
def releaseChecked (a : Axis) (slot : Nat) : Except Fault Axis :=
  let a := a.release slot
  if a.active.size + a.released.size = a.highWater then .ok a else .error .bookkeeping

/-- The removal of a position and of the slot behind it. -/
def removeChecked (a : Axis) (position slot : Nat) : Except Fault Axis := do
  let a ← a.releaseChecked slot
  if position < a.size then
    return { a with slots := a.slots.eraseIdxIfInBounds position }
  else throw .position

/-- Enters the positions from `position` on into the table, each at its slot. -/
def enterOwners : List Nat → Nat → Array (Option Nat) → Except Fault (Array (Option Nat))
  | [], _, owners => .ok owners
  | slot :: slots, position, owners =>
    if slot < owners.size then
      enterOwners slots (position + 1) (owners.setIfInBounds slot (some position))
    else .error .owner

/-- Moves a slot: the position that the table has for it now maps to the target. -/
def moveChecked (state : Array Nat × Array (Option Nat)) (move : Move) :
    Except Fault (Array Nat × Array (Option Nat)) :=
  match state.2[move.source]? with
  | some (some position) =>
    if position < state.1.size ∧ move.target < state.2.size then
      .ok (state.1.setIfInBounds position move.target,
        state.2.setIfInBounds move.target (some position))
    else .error .owner
  | _ => .error .owner

/-- Packing, with the slots looked up in a table of the positions. -/
def packChecked (a : Axis) : Except Fault Axis := do
  let owners ← enterOwners a.slots.toList 0 (.replicate a.capacity none)
  let state ← a.packingMoves.foldlM moveChecked (a.slots, owners)
  return { a.pack with slots := state.1 }

/-! ## No check fails -/

variable {a : Axis} {position slot : Nat}

/-- The slot of a position passes the assertion that it is active. -/
theorem WellFormed.slotChecked (h : a.WellFormed) (position : Nat) :
    a.slotChecked position = .ok a.slots[position]? := by
  unfold Axis.slotChecked
  cases found : a.slots[position]? with
  | none => rfl
  | some slot =>
    have same := h.assigned.number_of_found h.valid.le_slotNumbers found
    dsimp only
    rw [same]
    exact if_pos (Std.TreeSet.contains_iff_mem.2 (h.active_of_found found))

/-- An index that is in bounds passes. -/
theorem indexChecked_of_found (found : a.slots[position]? = some slot) :
    a.indexChecked position = .ok slot := by
  unfold indexChecked
  rw [found]

/-- An insertion up to the end is in bounds. -/
theorem insertChecked_of_le (inside : position ≤ a.size) :
    a.insertChecked position = .ok (a.insert position) := by
  unfold insertChecked
  cases a.insert position with
  | none => rfl
  | some result => exact if_pos inside

/-- The active and the released slots are together all that were handed out. -/
theorem Partitioned.size_add_size (h : a.Partitioned) :
    a.active.size + a.released.size = a.highWater := by
  have disjoint : a.active.toList.Disjoint a.released.toList := by
    intro k active released
    exact h.disjoint k (Std.TreeSet.mem_toList.1 active) (Std.TreeSet.mem_toList.1 released)
  have nodup := List.nodup_append'.2
    ⟨SlotSet.nodup_toList a.active, SlotSet.nodup_toList a.released, disjoint⟩
  -- Together they list every slot below the mark once.
  have perm : (a.active.toList ++ a.released.toList).Perm (List.range a.highWater) := by
    refine (List.perm_ext_iff_of_nodup nodup List.nodup_range).2 fun k => ?_
    rw [List.mem_append, Std.TreeSet.mem_toList, Std.TreeSet.mem_toList, List.mem_range]
    exact (h.lt_highWater_iff k).symm
  have length := perm.length_eq
  rwa [List.length_append, Std.TreeSet.length_toList, Std.TreeSet.length_toList,
    List.length_range] at length

/-- Giving the slot of a position back loses no slot, and the position is in bounds. -/
theorem WellFormed.removeChecked (h : a.WellFormed) (found : a.slots[position]? = some slot) :
    a.removeChecked position slot = .ok (a.remove position) := by
  have inside : position < (a.release slot).size := by
    unfold size
    rw [slots_release]
    exact (Array.getElem?_eq_some_iff.1 found).1
  unfold Axis.removeChecked releaseChecked remove
  rw [if_pos (h.toPartitioned.release slot).size_add_size, found]
  exact if_pos inside

/-! ## The table of positions -/

/-- Every slot of a list without repetitions gets its position into the table. -/
theorem enterOwners_spec {slots : List Nat} (nodup : slots.Nodup) {owners : Array (Option Nat)}
    (inside : ∀ slot ∈ slots, slot < owners.size) (position : Nat) :
    ∃ owners', enterOwners slots position owners = .ok owners' ∧ owners'.size = owners.size ∧
      (∀ i slot, slots[i]? = some slot → owners'[slot]? = some (some (position + i))) ∧
      ∀ slot, slot ∉ slots → owners'[slot]? = owners[slot]? := by
  induction slots generalizing owners position with
  | nil => exact ⟨owners, rfl, rfl, fun i slot found => by simp at found, fun _ _ => rfl⟩
  | cons first rest ih =>
    obtain ⟨fresh, nodup⟩ := List.nodup_cons.1 nodup
    have lt := inside first List.mem_cons_self
    have inside' : ∀ slot ∈ rest, slot < (owners.setIfInBounds first (some position)).size := by
      intro slot mem
      rw [Array.size_setIfInBounds]
      exact inside slot (List.mem_cons_of_mem _ mem)
    obtain ⟨owners', entered, size, owned, other⟩ := ih nodup inside' (position + 1)
    refine ⟨owners', ?_, size.trans Array.size_setIfInBounds, fun i slot found => ?_,
      fun slot notMem => ?_⟩
    · unfold enterOwners
      rw [if_pos lt]
      exact entered
    · cases i with
      -- The slots that follow are different ones, so the entry of the first stays.
      | zero =>
        cases found
        rw [other first fresh, Array.getElem?_setIfInBounds_self_of_lt lt]
        rfl
      | succ i =>
        rw [owned i slot found]
        congr 2
        omega
    · have ne : first ≠ slot := (List.ne_of_not_mem_cons notMem).symm
      rw [other slot (List.not_mem_of_not_mem_cons notMem), Array.getElem?_setIfInBounds_ne ne]

/-- Looking up the position of each moved slot relocates the slots. -/
theorem foldlM_moveChecked {moves : List Move} (separate : Separate moves) {slots : Array Nat}
    {owners : Array (Option Nat)}
    (owned : ∀ m ∈ moves, ∃ p, owners[m.source]? = some (some p) ∧
      ∀ k, slots[k]? = some m.source ↔ k = p)
    (inside : ∀ m ∈ moves, m.target < owners.size) :
    ∃ owners', moves.foldlM moveChecked (slots, owners)
      = .ok (slots.map (relocate moves), owners') := by
  induction moves generalizing slots owners with
  | nil =>
    refine ⟨owners, ?_⟩
    have same : slots.map (relocate []) = slots := Array.map_id slots
    rw [same]
    rfl
  | cons first rest ih =>
    obtain ⟨p, owner, only⟩ := owned first List.mem_cons_self
    have found : slots[p]? = some first.source := (only p).2 rfl
    have lt : p < slots.size := (Array.getElem?_eq_some_iff.1 found).1
    have room := inside first List.mem_cons_self
    have sources := (List.nodup_cons.1 separate.sources).1
    have step : moveChecked (slots, owners) first
        = .ok (slots.setIfInBounds p first.target, owners.setIfInBounds first.target (some p)) := by
      unfold moveChecked
      rw [owner]
      exact if_pos ⟨lt, room⟩
    have noSource : ∀ m ∈ rest, m.source ≠ first.target := fun m mem =>
      separate.source_ne_target m (List.mem_cons_of_mem _ mem) first List.mem_cons_self
    -- The other moves find their positions where they were.
    have owned' : ∀ m ∈ rest, ∃ q, (owners.setIfInBounds first.target (some p))[m.source]?
          = some (some q) ∧
        ∀ k, (slots.setIfInBounds p first.target)[k]? = some m.source ↔ k = q := by
      intro m mem
      obtain ⟨q, owner', only'⟩ := owned m (List.mem_cons_of_mem _ mem)
      refine ⟨q, ?_, fun k => ?_⟩
      · rw [Array.getElem?_setIfInBounds_ne (Ne.symm (noSource m mem))]
        exact owner'
      · by_cases at_p : k = p
        · subst at_p
          rw [Array.getElem?_setIfInBounds_self_of_lt lt, ← only' k, found]
          refine ⟨fun eq => absurd (Option.some.inj eq).symm (noSource m mem), fun eq => ?_⟩
          exact absurd ((Option.some.inj eq) ▸ List.mem_map_of_mem mem) sources
        · rw [Array.getElem?_setIfInBounds_ne (Ne.symm at_p)]
          exact only' k
    have inside' : ∀ m ∈ rest, m.target < (owners.setIfInBounds first.target (some p)).size := by
      intro m mem
      rw [Array.size_setIfInBounds]
      exact inside m (List.mem_cons_of_mem _ mem)
    obtain ⟨owners', moved⟩ := ih separate.tail owned' inside'
    refine ⟨owners', ?_⟩
    rw [List.foldlM_cons, step]
    refine moved.trans ?_
    congr 2
    -- Setting the one position of the first source is relocating it everywhere.
    apply Array.ext_getElem?
    intro k
    rw [Array.getElem?_map, Array.getElem?_map]
    by_cases at_p : k = p
    · subst at_p
      rw [Array.getElem?_setIfInBounds_self_of_lt lt, found, Option.map_some, Option.map_some,
        separate.relocate_source List.mem_cons_self, relocate_of_not_source noSource]
    · rw [Array.getElem?_setIfInBounds_ne (Ne.symm at_p)]
      cases at_k : slots[k]? with
      | none => rfl
      | some slot =>
        have ne : first.source ≠ slot := by
          rintro rfl
          exact at_p ((only k).1 at_k)
        rw [Option.map_some, Option.map_some]
        unfold relocate
        rw [List.find?_cons_of_neg (by simpa using ne)]

/-- Packing finds a position for every slot it moves, and looking the positions up gives the packed
slots. -/
theorem Assigned.exists_moved (h : a.Assigned) :
    ∃ owners owners', enterOwners a.slots.toList 0 (.replicate a.capacity none) = .ok owners ∧
      a.packingMoves.foldlM moveChecked (a.slots, owners) = .ok (a.pack.slots, owners') := by
  have small : ∀ slot ∈ a.slots.toList,
      slot < (Array.replicate a.capacity (none : Option Nat)).size := by
    intro slot mem
    have lt := h.lt_highWater mem
    have le := h.highWater_le
    rw [Array.size_replicate]
    omega
  obtain ⟨owners, entered, size, owned, -⟩ := enterOwners_spec h.nodup small 0
  rw [Array.size_replicate] at size
  -- A source is active, so a position maps to it, and only one does.
  have found : ∀ m ∈ a.packingMoves, ∃ p, owners[m.source]? = some (some p) ∧
      ∀ k, a.slots[k]? = some m.source ↔ k = p := by
    intro m mem
    have active := (h.mem_active_iff m.source).1 (h.le_source mem).2
    obtain ⟨p, at_p⟩ := List.mem_iff_getElem?.1 active
    refine ⟨p, by rw [owned p _ at_p, Nat.zero_add], fun k => ⟨fun at_k => ?_, ?_⟩⟩
    · rw [Array.getElem?_toList] at at_p
      exact h.position_inj at_k at_p
    · rintro rfl
      rwa [Array.getElem?_toList] at at_p
  obtain ⟨owners', moved⟩ := foldlM_moveChecked h.separate found fun m mem => by
    rw [size]
    exact (h.moves_lt m mem).2
  exact ⟨owners, owners', entered, moved⟩

/-- Packing finds the position behind every slot that it moves. -/
theorem WellFormed.packChecked (h : a.WellFormed) : a.packChecked = .ok a.pack := by
  obtain ⟨owners, owners', entered, moved⟩ := h.assigned.exists_moved
  unfold Axis.packChecked
  rw [entered]
  show (do
    let state ← a.packingMoves.foldlM moveChecked (a.slots, owners)
    return { a.pack with slots := state.1 }) = _
  rw [moved]
  rfl

end Axis

end Tabular
