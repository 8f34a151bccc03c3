import Mathlib.Order.Bounds.Defs
import Tabular.Proofs.Store.Limits

/-!
# Which slots are handed out

The lowest free slot of an axis is not searched for: it is the lowest released slot, or the
high-water mark when no slot is released. `LowestFirst` says that this is the least number that is
not active, and what allocation and release make of it. It follows from the partition of the slots,
which every allocation, release and growth keeps (`Partitioned.edit`), so it holds of an axis that
is edited slot by slot and of the axes of a store, between the edits of a run and within them.

All of this is about slots that have numbers of their own. With more than `slotNumbers` slots, one
that is not active can have the number of one that is (`aliased_release`).

As long as the active slots are those of the positions, room for one more position is a free slot.
Appending and inserting therefore fail only where no room can be made (`extend_eq_none_iff`,
`insert_eq_none_iff`).
-/

namespace Tabular.Axis

/-- What can be done to the slots of an axis. -/
inductive SlotEdit
  | allocate
  | release (slot : Nat)
  /-- Raises the capacity to a larger one. -/
  | grow (capacity : Nat)
deriving Repr, DecidableEq

/-- An axis after something is done to its slots. An allocation that fails leaves it as it is. -/
def edit (a : Axis) : SlotEdit → Axis
  | .allocate =>
    match a.allocate with
    | none => a
    | some (_, b) => b
  | .release slot => a.release slot
  | .grow capacity => { a with capacity := max a.capacity capacity }

/-- The axes of a store during a run from capacities of at most `maxSlots`. -/
inductive Visited : Axis → Prop
  /-- Between two edits. -/
  | run {α : Type} {rows columns : Nat} (hr : rows ≤ Capacity.maxSlots)
      (hc : columns ≤ Capacity.maxSlots) (edits : List (Edit α)) (line : Line) :
      Visited (((Store.withCapacity rows columns : Store α).run edits).axis line)
  /-- Within an edit, after room is made. -/
  | reserve {a b : Axis} {needed : Nat} : Visited a → a.reserve needed = some b → Visited b
  /-- Within an edit, after some positions are appended. -/
  | append {a b : Axis} {count : Nat} : Visited a → a.append count = some b → Visited b
  /-- Within an edit, after a position is inserted. -/
  | insert {a b : Axis} {position slot : Nat} : Visited a → position ≤ a.size →
      a.insert position = some (slot, b) → Visited b

/-- The axes that are edited slot by slot from an empty one without getting more slots than there
are numbers, and those of a store. -/
inductive Reached : Axis → Prop
  | slots (capacity : Nat) (edits : List SlotEdit)
      (few : (edits.foldl edit { capacity }).capacity ≤ Capacity.slotNumbers) :
      Reached (edits.foldl edit { capacity })
  | store {a : Axis} : Visited a → Reached a

/-- Slots are handed out lowest first. -/
structure LowestFirst (a : Axis) : Prop where
  isLeast : IsLeast {slot | slot ∉ a.active} a.lowestFree
  /-- Within the capacity, allocation returns this slot and makes it active, and nothing else. -/
  taken : a.lowestFree < a.capacity → ∃ b, a.allocate = some (a.lowestFree, b) ∧
    Takes a a.lowestFree b
  /-- Otherwise it fails. -/
  full : a.capacity ≤ a.lowestFree → a.allocate = none
  /-- A release of a slot that is not active changes nothing. -/
  ignored : ∀ slot, slot < Capacity.slotNumbers → slot ∉ a.active → a.release slot = a
  /-- Allocation does not fail while there are fewer active slots than slots. -/
  room : a.active.size < a.capacity → ∃ slot b, a.allocate = some (slot, b)

variable {a b : Axis}

/-! ## From the partition -/

/-- The least inactive slot is the one that is handed out, where every slot has a number of its
own. -/
theorem Partitioned.lowestFirst (h : a.Partitioned) (few : a.capacity ≤ Capacity.slotNumbers) :
    a.LowestFirst where
  isLeast := by
    refine ⟨h.lowestFree_not_active, fun slot free => Nat.le_of_not_lt fun lt => free ?_⟩
    exact h.active_of_lt_lowestFree lt
  taken room := by
    obtain ⟨slot, b, allocated⟩ := exists_allocate room
    obtain ⟨rfl, takes⟩ :=
      h.takes_of_allocate (fun lt => Nat.lt_of_lt_of_le lt few) allocated
    exact ⟨b, allocated, takes⟩
  full full := if_pos full
  ignored slot lt inactive := by
    unfold Axis.release
    rw [Capacity.number_of_lt lt]
    exact if_neg (Std.TreeSet.contains_iff_mem.not.2 inactive)
  -- All slots below the lowest free one are active, so there are at least as many of them.
  room fewer := exists_allocate (Nat.lt_of_le_of_lt h.lowestFree_le_active fewer)

/-- No change of the slots lowers the capacity. -/
theorem capacity_le_edit (a : Axis) (e : SlotEdit) : a.capacity ≤ (a.edit e).capacity := by
  cases e with
  | allocate =>
    unfold edit
    cases allocated : a.allocate with
    | none => exact Nat.le_refl _
    | some result => exact Nat.le_of_eq (of_allocate allocated).2.1.symm
  | release slot => exact Nat.le_of_eq (a.capacity_release slot).symm
  | grow capacity => exact Nat.le_max_left _ _

/-- Nor do several of them. -/
theorem capacity_le_foldl_edit (a : Axis) (edits : List SlotEdit) :
    a.capacity ≤ (edits.foldl edit a).capacity := by
  induction edits generalizing a with
  | nil => exact Nat.le_refl _
  | cons e edits ih => exact Nat.le_trans (a.capacity_le_edit e) (ih (a.edit e))

/-- Every change of the slots keeps the partition. -/
theorem Partitioned.edit (h : a.Partitioned) (few : a.capacity ≤ Capacity.slotNumbers)
    (e : SlotEdit) : (a.edit e).Partitioned := by
  cases e with
  | allocate =>
    unfold Axis.edit
    cases allocated : a.allocate with
    | none => exact h
    | some result =>
      have takes := (h.takes_of_allocate (fun lt => Nat.lt_of_lt_of_le lt few) allocated).2
      exact takes.partitioned
  | release slot => exact h.release slot
  | grow capacity => exact h.withCapacity (Nat.le_max_left _ _)

/-- The capacity at the end bounds all those before, so all changes keep the partition. -/
theorem Partitioned.foldl_edit (h : a.Partitioned) (edits : List SlotEdit)
    (few : (edits.foldl Axis.edit a).capacity ≤ Capacity.slotNumbers) :
    (edits.foldl Axis.edit a).Partitioned := by
  induction edits generalizing a with
  | nil => exact h
  | cons e edits ih =>
    have start := a.capacity_le_foldl_edit (e :: edits)
    exact ih (h.edit (Nat.le_trans start few) e) few

/-! ## Within a run -/

/-- The axes of a store never have more than `maxSlots` slots. -/
theorem Visited.within (h : a.Visited) : a.Within Capacity.maxSlots := by
  induction h with
  | run hr hc edits line =>
    have wf := ((Store.wellFormed_withCapacity hr hc).run edits).axis line
    exact ⟨wf.assigned, wf.valid.isPowerOfTwo, wf.valid.le_maxSlots, Nat.le_refl _, by decide⟩
  | reserve _ reserved ih => exact ih.reserve reserved
  | append _ appended ih =>
    obtain ⟨assigned, capacity, -⟩ := ih.of_append (ih.min_capacity_le _) appended
    exact ⟨assigned, capacity ▸ ih.capacity⟩
  | insert _ inside inserted ih => exact ih.insert inside inserted

/-- Every slot of an axis that is reached has a number of its own. -/
theorem Reached.capacity_le (h : a.Reached) : a.capacity ≤ Capacity.slotNumbers := by
  cases h with
  | slots capacity edits few => exact few
  | store visited => exact visited.within.capacity.le_slotNumbers

/-- However an axis is reached, its handed out slots are the active and the released ones. -/
theorem Reached.partitioned (h : a.Reached) : a.Partitioned := by
  cases h with
  | slots capacity edits few => exact (assigned_empty capacity).toPartitioned.foldl_edit edits few
  | store visited => exact visited.within.toPartitioned

/-- Once there is room for them, positions are appended. -/
theorem Assigned.extend_eq_none_iff (h : a.Assigned) {count : Nat}
    (few : min a.capacity count ≤ Capacity.slotNumbers) :
    a.extend count = none ↔ a.size < count ∧ a.reserve count = none := by
  unfold extend
  split
  · next enough => simp [Nat.not_lt_of_le enough]
  · next short =>
    cases reserved : a.reserve count with
    | none => simp [Nat.lt_of_not_le short]
    | some b =>
      have few' := min_capacity_le_of_reserve few reserved
      obtain ⟨capacity, rfl, le, room⟩ := exists_capacity_of_reserve reserved
      have few' : count ≤ Capacity.slotNumbers := Nat.min_eq_right room ▸ few'
      have all : a.size + (count - a.size) ≤ Capacity.slotNumbers := by omega
      have fill : a.size + (count - a.size) ≤ capacity := by omega
      obtain ⟨c, appended⟩ := (h.withCapacity le).exists_append all fill
      refine ⟨fun failed => ?_, fun failed => by cases failed.2⟩
      cases appended.symm.trans failed

/-- Once there is room for it, a position is inserted. -/
theorem Assigned.insert_eq_none_iff (h : a.Assigned) (position : Nat) :
    a.insert position = none ↔ a.reserve (a.size + 1) = none := by
  unfold insert
  cases reserved : a.reserve (a.size + 1) with
  | none => simp
  | some b =>
    obtain ⟨capacity, rfl, le, room⟩ := exists_capacity_of_reserve reserved
    have lowest := (h.withCapacity le).lowestFree_le_size
    obtain ⟨slot, c, allocated⟩ := exists_allocate (Nat.lt_of_le_of_lt lowest room)
    rw [Option.bind_some, allocated]
    simp

/-! ## Every axis that is reached -/

/-- Whatever was allocated and released, twice or in vain, and whatever packing has moved: slots are
handed out lowest first. In a store, lines fail to be appended or inserted only because there is no
room for them, and never because no slot is free where there is room. -/
theorem Reached.hands_out_lowest_first (h : a.Reached) :
    a.LowestFirst ∧
      (a.Visited →
        (∀ count, a.extend count = none ↔ a.size < count ∧ a.reserve count = none) ∧
        (∀ position, a.insert position = none ↔ a.reserve (a.size + 1) = none) ∧
        ∀ needed b, a.reserve needed = some b → a.size < needed →
          ∃ slot c, b.allocate = some (slot, c)) := by
  refine ⟨h.partitioned.lowestFirst h.capacity_le, fun visited => ?_⟩
  have within := visited.within
  refine ⟨fun count => within.extend_eq_none_iff (within.min_capacity_le count),
    within.insert_eq_none_iff, fun needed b reserved more => ?_⟩
  obtain ⟨capacity, rfl, le, room⟩ := exists_capacity_of_reserve reserved
  have lowest := (within.withCapacity le).lowestFree_le_size
  exact exists_allocate (Nat.lt_of_le_of_lt lowest (Nat.lt_of_lt_of_le more room))

/-- An axis of three slots of which the first was released twice, and the last once. -/
def recycled : Axis :=
  [.allocate, .allocate, .allocate, .release 0, .release 2, .release 0].foldl edit { capacity := 3 }

/-- The lowest released slot is handed out again, and the rows of a store that has been packed find
a slot for one more row. -/
theorem hands_out_lowest_first_recycled :
    recycled.Reached ∧ (∃ b, recycled.allocate = some (0, b) ∧ Takes recycled 0 b) ∧
      (let rows := ((Store.withCapacity 1 2).run Store.churn).axis .row
      rows.Visited ∧
        ∀ position, rows.insert position = none ↔ rows.reserve (rows.size + 1) = none) := by
  have few : recycled.capacity ≤ Capacity.slotNumbers := by cbv
  have reached : recycled.Reached := .slots 3 _ few
  have lowest : recycled.lowestFree = 0 := by cbv
  have within : recycled.lowestFree < recycled.capacity := by cbv
  have taken := (Reached.hands_out_lowest_first reached).1.taken within
  have visited : (((Store.withCapacity 1 2).run Store.churn).axis .row).Visited :=
    .run (by decide) (by decide) Store.churn .row
  have room := ((Reached.hands_out_lowest_first (.store visited)).2 visited).2.1
  rw [lowest] at taken
  exact ⟨reached, taken, visited, room⟩

/-- An axis with twice as many slots as there are numbers, of which the first is handed out. -/
def aliased : Axis := [SlotEdit.allocate].foldl edit { capacity := 2 * Capacity.slotNumbers }

/-- A slot that is below the capacity and not active has the number of the one that is, and to
release it takes that one out of use. -/
theorem aliased_release :
    Capacity.slotNumbers < aliased.capacity ∧ Capacity.slotNumbers ∉ aliased.active ∧
      aliased.release Capacity.slotNumbers ≠ aliased ∧ 0 ∈ aliased.active ∧
      0 ∉ (aliased.release Capacity.slotNumbers).active := by
  have active : aliased.active.contains 0 = true := by cbv
  have released : (aliased.release Capacity.slotNumbers).active.contains 0 = false := by cbv
  refine ⟨by cbv, ?_, fun same => ?_, Std.TreeSet.contains_iff_mem.1 active, fun still => ?_⟩
  · rw [← Std.TreeSet.contains_iff_mem, Bool.not_eq_true]
    cbv
  · rw [same, active] at released
    cases released
  · rw [← Std.TreeSet.contains_iff_mem, released] at still
    cases still

end Tabular.Axis
