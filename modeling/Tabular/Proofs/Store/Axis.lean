import Std.Data.TreeSet.Lemmas
import Mathlib.Data.List.Perm.Subperm
import Tabular.Store.Axis
import Tabular.Proofs.Store.Capacity

/-!
# The slots of an axis

The invariant of an axis, and what each operation of an axis does to its positions. The slots below
the high-water mark are split into active and released ones (`Partitioned`), and the active ones are
those that a position maps to, each of them once (`WellFormed`).

Appending and inserting take slots that were not active before. They succeed exactly when the axis
does not end up with more than `maxSlots` positions.
-/

namespace Tabular

/-- A set with one more slot. -/
theorem SlotSet.mem_insert {set : SlotSet} {slot k : Nat} :
    k ∈ set.insert slot ↔ k = slot ∨ k ∈ set := by
  rw [Std.TreeSet.mem_insert, Nat.compare_eq_eq, eq_comm]

/-- A set without a slot. -/
theorem SlotSet.mem_erase {set : SlotSet} {slot k : Nat} :
    k ∈ set.erase slot ↔ k ≠ slot ∧ k ∈ set := by
  rw [Std.TreeSet.mem_erase, ne_eq, Nat.compare_eq_eq, eq_comm]

/-- A set lists no slot twice. -/
theorem SlotSet.nodup_toList (set : SlotSet) : set.toList.Nodup :=
  set.distinct_toList.imp fun distinct eq => distinct (Nat.compare_eq_eq.2 eq)

namespace Axis

/-- The slots below the high-water mark are active or released, and not both. -/
structure Partitioned (a : Axis) : Prop where
  disjoint : ∀ slot, slot ∈ a.active → slot ∉ a.released
  lt_highWater_iff : ∀ slot, slot < a.highWater ↔ slot ∈ a.active ∨ slot ∈ a.released
  highWater_le : a.highWater ≤ a.capacity

/-- The invariant of an axis. -/
structure WellFormed (a : Axis) : Prop extends Partitioned a where
  nodup : a.slots.toList.Nodup
  mem_active_iff : ∀ slot, slot ∈ a.active ↔ slot ∈ a.slots.toList
  valid : Capacity.Valid a.capacity

/-- The part of the invariant that is about slots: the active ones are those of the positions, each
of one position, whatever the capacity. -/
structure Assigned (a : Axis) : Prop extends Partitioned a where
  nodup : a.slots.toList.Nodup
  mem_active_iff : ∀ slot, slot ∈ a.active ↔ slot ∈ a.slots.toList

/-- On a well-formed axis the active slots are those of the positions. -/
theorem WellFormed.assigned {a : Axis} (h : a.WellFormed) : a.Assigned where
  toPartitioned := h.toPartitioned
  nodup := h.nodup
  mem_active_iff := h.mem_active_iff

/-- With a capacity that is a power of two within the limit, that is all. -/
theorem Assigned.wellFormed {a : Axis} (h : a.Assigned) (valid : Capacity.Valid a.capacity) :
    a.WellFormed where
  toPartitioned := h.toPartitioned
  nodup := h.nodup
  mem_active_iff := h.mem_active_iff
  valid := valid

/-- A larger capacity leaves the slots as they are. -/
theorem Partitioned.withCapacity {a : Axis} (h : a.Partitioned) {capacity : Nat}
    (le : a.capacity ≤ capacity) : Partitioned { a with capacity } :=
  ⟨h.disjoint, h.lt_highWater_iff, Nat.le_trans h.highWater_le le⟩

/-- More room changes nothing about the slots. -/
theorem Assigned.withCapacity {a : Axis} (h : a.Assigned) {capacity : Nat}
    (le : a.capacity ≤ capacity) : Assigned { a with capacity } :=
  ⟨h.toPartitioned.withCapacity le, h.nodup, h.mem_active_iff⟩

/-- There is one slot for each position. -/
theorem length_slots (a : Axis) : a.slots.toList.length = a.size := Array.length_toList

/-- Every position below the size has a slot. -/
theorem exists_found (a : Axis) {position : Nat} (inside : position < a.size) :
    ∃ slot, a.slots[position]? = some slot := ⟨_, Array.getElem?_eq_getElem inside⟩

/-- No slot of an axis without positions is active or released. -/
theorem assigned_empty (capacity : Nat) : Assigned { capacity := capacity } where
  disjoint := by simp
  lt_highWater_iff := by simp
  highWater_le := Nat.zero_le _
  nodup := List.nodup_nil
  mem_active_iff := by simp

/-- An axis without positions is well formed. -/
theorem wellFormed_empty {capacity : Nat} (h : Capacity.Valid capacity) :
    WellFormed { capacity := capacity } := (assigned_empty capacity).wellFormed h

/-! ## The lowest free slot -/

section LowestFree

variable {a : Axis}

/-- The lowest free slot is the lowest released one, or the high-water mark if there is none. -/
theorem lowestFree_cases (a : Axis) :
    (a.lowestFree = a.highWater ∧ ∀ slot, slot ∉ a.released) ∨
      (a.lowestFree ∈ a.released ∧ ∀ slot, slot ∈ a.released → a.lowestFree ≤ slot) := by
  unfold lowestFree
  cases found : a.released.min? with
  | none =>
    rw [Std.TreeSet.min?_eq_none_iff, Std.TreeSet.isEmpty_iff_forall_not_mem] at found
    exact .inl ⟨rfl, found⟩
  | some lowest =>
    obtain ⟨mem, least⟩ := Std.TreeSet.min?_eq_some_iff_mem_and_forall.1 found
    exact .inr ⟨mem, fun slot h => Nat.isLE_compare.1 (least slot h)⟩

/-- The lowest free slot is not active. -/
theorem Partitioned.lowestFree_not_active (h : a.Partitioned) : a.lowestFree ∉ a.active := by
  intro active
  rcases a.lowestFree_cases with ⟨eq, -⟩ | ⟨released, -⟩
  · have := (h.lt_highWater_iff _).2 (.inl active)
    omega
  · exact h.disjoint _ active released

/-- Every slot below the lowest free one is active. -/
theorem Partitioned.active_of_lt_lowestFree (h : a.Partitioned) {slot : Nat}
    (lt : slot < a.lowestFree) : slot ∈ a.active := by
  rcases a.lowestFree_cases with ⟨eq, none⟩ | ⟨released, least⟩
  · exact ((h.lt_highWater_iff slot).1 (by omega)).resolve_right (none slot)
  · have below : a.lowestFree < a.highWater := (h.lt_highWater_iff _).2 (.inr released)
    refine ((h.lt_highWater_iff slot).1 (by omega)).resolve_right fun isReleased => ?_
    have := least slot isReleased
    omega

/-- There are at least as many active slots as slots below the lowest free one. -/
theorem Partitioned.lowestFree_le_active (h : a.Partitioned) : a.lowestFree ≤ a.active.size := by
  -- These slots are active, so they are different entries of the list of active slots.
  have sub : List.range a.lowestFree ⊆ a.active.toList := by
    intro slot mem
    exact Std.TreeSet.mem_toList.2 (h.active_of_lt_lowestFree (List.mem_range.1 mem))
  have le := (List.subperm_of_subset List.nodup_range sub).length_le
  rw [List.length_range, Std.TreeSet.length_toList] at le
  exact le

/-- There are as many active slots as positions. -/
theorem Assigned.size_active (h : a.Assigned) : a.active.size = a.size := by
  have perm : a.active.toList.Perm a.slots.toList := by
    refine (List.perm_ext_iff_of_nodup (SlotSet.nodup_toList a.active) h.nodup).2 fun slot => ?_
    rw [Std.TreeSet.mem_toList, h.mem_active_iff]
  rw [← Std.TreeSet.length_toList, perm.length_eq, length_slots]

/-- The lowest free slot is not above the number of positions. -/
theorem Assigned.lowestFree_le_size (h : a.Assigned) : a.lowestFree ≤ a.size :=
  h.size_active ▸ h.lowestFree_le_active

/-- The slot of a position is below the high-water mark. -/
theorem Assigned.lt_highWater (h : a.Assigned) {slot : Nat} (mem : slot ∈ a.slots.toList) :
    slot < a.highWater :=
  (h.lt_highWater_iff slot).2 (.inl ((h.mem_active_iff slot).2 mem))

/-- The slot of a position was handed out. -/
theorem WellFormed.lt_highWater (h : a.WellFormed) {slot : Nat} (mem : slot ∈ a.slots.toList) :
    slot < a.highWater := h.assigned.lt_highWater mem

/-- There are at most as many positions as slots that were handed out. -/
theorem Assigned.size_le_highWater (h : a.Assigned) : a.size ≤ a.highWater := by
  have sub : a.slots.toList ⊆ List.range a.highWater :=
    fun slot mem => List.mem_range.2 (h.lt_highWater mem)
  have le := (List.subperm_of_subset h.nodup sub).length_le
  rw [List.length_range, length_slots] at le
  exact le

/-- There are no more positions than slots that were handed out. -/
theorem WellFormed.size_le_highWater (h : a.WellFormed) : a.size ≤ a.highWater :=
  h.assigned.size_le_highWater

/-- There are no more positions than slots. -/
theorem Assigned.size_le_capacity (h : a.Assigned) : a.size ≤ a.capacity :=
  Nat.le_trans h.size_le_highWater h.highWater_le

/-- There are no more positions than slots on a well-formed axis. -/
theorem WellFormed.size_le_capacity (h : a.WellFormed) : a.size ≤ a.capacity :=
  h.assigned.size_le_capacity

/-- A well-formed axis has no more than `maxSlots` positions. -/
theorem WellFormed.size_le_maxSlots (h : a.WellFormed) : a.size ≤ Capacity.maxSlots :=
  calc a.size ≤ a.highWater := h.size_le_highWater
    _ ≤ a.capacity := h.highWater_le
    _ ≤ Capacity.maxSlots := h.valid.le_maxSlots

/-- The slot of a position is active. -/
theorem Assigned.active_of_found (h : a.Assigned) {position slot : Nat}
    (found : a.slots[position]? = some slot) : slot ∈ a.active := by
  rw [h.mem_active_iff]
  rw [← Array.getElem?_toList] at found
  exact List.mem_of_getElem? found

/-- The slot of a position is active. -/
theorem WellFormed.active_of_found (h : a.WellFormed) {position slot : Nat}
    (found : a.slots[position]? = some slot) : slot ∈ a.active := h.assigned.active_of_found found

/-- The slot of a position is below the capacity. -/
theorem WellFormed.lt_capacity (h : a.WellFormed) {position slot : Nat}
    (found : a.slots[position]? = some slot) : slot < a.capacity :=
  Nat.lt_of_lt_of_le ((h.lt_highWater_iff slot).2 (.inl (h.active_of_found found))) h.highWater_le

/-- Different positions have different slots. -/
theorem Assigned.position_inj (h : a.Assigned) {i j slot : Nat}
    (at_i : a.slots[i]? = some slot) (at_j : a.slots[j]? = some slot) : i = j := by
  rw [← Array.getElem?_toList] at at_i at_j
  have inside := (List.getElem?_eq_some_iff.1 at_i).1
  exact (List.getElem?_inj inside h.nodup).1 (at_i.trans at_j.symm)

/-- No two positions share a slot. -/
theorem WellFormed.position_inj (h : a.WellFormed) {i j slot : Nat}
    (at_i : a.slots[i]? = some slot) (at_j : a.slots[j]? = some slot) : i = j :=
  h.assigned.position_inj at_i at_j

end LowestFree

/-! ## Handing out slots -/

/-- The slot `slot` of `a` has been handed out in `b`. -/
structure Takes (a : Axis) (slot : Nat) (b : Axis) : Prop where
  partitioned : b.Partitioned
  slots : b.slots = a.slots
  capacity : b.capacity = a.capacity
  mem_active_iff : ∀ k, k ∈ b.active ↔ k = slot ∨ k ∈ a.active
  not_active : slot ∉ a.active

variable {a b : Axis} {slot : Nat}

/-- The slot at the high-water mark is handed out: nothing is released, and the mark moves up. -/
theorem Partitioned.takes_next (h : a.Partitioned) (room : a.highWater < a.capacity) :
    Takes a a.highWater
      { a with highWater := a.highWater + 1, active := a.active.insert a.highWater } := by
  have neither : ¬ (a.highWater ∈ a.active ∨ a.highWater ∈ a.released) := fun either =>
    Nat.lt_irrefl _ ((h.lt_highWater_iff _).2 either)
  rw [not_or] at neither
  refine ⟨⟨?_, ?_, room⟩, rfl, rfl, fun k => SlotSet.mem_insert, neither.1⟩
  · intro k active released
    rcases SlotSet.mem_insert.1 active with rfl | active
    · exact neither.2 released
    · exact h.disjoint k active released
  · intro k
    rw [SlotSet.mem_insert, or_assoc, ← h.lt_highWater_iff k]
    show k < a.highWater + 1 ↔ _
    omega

/-- A released slot is handed out: it is active again, and the mark stays. -/
theorem Partitioned.takes_released (h : a.Partitioned) (free : slot ∈ a.released) :
    Takes a slot
      { a with released := a.released.erase slot, active := a.active.insert slot } := by
  have below : slot < a.highWater := (h.lt_highWater_iff slot).2 (.inr free)
  have notActive : slot ∉ a.active := fun active => h.disjoint slot active free
  refine ⟨⟨?_, ?_, h.highWater_le⟩, rfl, rfl, fun k => SlotSet.mem_insert, notActive⟩
  · intro k active released
    obtain ⟨ne, released⟩ := SlotSet.mem_erase.1 released
    exact h.disjoint k ((SlotSet.mem_insert.1 active).resolve_left ne) released
  · intro k
    have either := h.lt_highWater_iff k
    rw [SlotSet.mem_insert, SlotSet.mem_erase]
    by_cases eq : k = slot
    · subst eq
      simp [below]
    · simp [eq, either]

/-- Allocation hands out the lowest free slot, which has to be its own number. -/
theorem Partitioned.takes_of_allocate (h : a.Partitioned)
    (few : a.lowestFree < a.capacity → a.lowestFree < Capacity.slotNumbers)
    (taken : a.allocate = some (slot, b)) : slot = a.lowestFree ∧ Takes a slot b := by
  unfold allocate at taken
  have cases := a.lowestFree_cases
  generalize a.lowestFree = lowest at taken cases few
  dsimp only at taken
  split at taken
  · cases taken
  · next room =>
    have room := Nat.lt_of_not_le room
    rw [Capacity.number_of_lt (few room)] at taken
    split at taken
    · next atMark =>
      obtain ⟨rfl, rfl⟩ := Prod.mk.inj (Option.some.inj taken)
      subst atMark
      exact ⟨rfl, h.takes_next room⟩
    · next notAtMark =>
      obtain ⟨rfl, rfl⟩ := Prod.mk.inj (Option.some.inj taken)
      have released := (cases.resolve_left fun h => notAtMark h.1).1
      exact ⟨rfl, h.takes_released released⟩

/-- Allocation fails only when every slot of the capacity is active. -/
theorem exists_allocate (room : a.lowestFree < a.capacity) :
    ∃ slot b, a.allocate = some (slot, b) := by
  unfold allocate
  dsimp only
  rw [if_neg (by omega)]
  split
  · exact ⟨_, _, rfl⟩
  · exact ⟨_, _, rfl⟩

/-- A taken slot that a new position maps to. -/
theorem Takes.assigned (t : Takes a slot b) (h : a.Assigned) {slots : Array Nat}
    (perm : slots.toList.Perm (slot :: a.slots.toList)) : Assigned { b with slots } where
  disjoint := t.partitioned.disjoint
  lt_highWater_iff := t.partitioned.lt_highWater_iff
  highWater_le := t.partitioned.highWater_le
  nodup := by
    rw [perm.nodup_iff, List.nodup_cons]
    exact ⟨fun mem => t.not_active ((h.mem_active_iff slot).2 mem), h.nodup⟩
  mem_active_iff := by
    intro k
    rw [perm.mem_iff, List.mem_cons, ← h.mem_active_iff k]
    exact t.mem_active_iff k

/-- The slot that is handed out is at most the size and below the capacity: whichever is less has
to leave it its own number. -/
theorem Assigned.takes_of_allocate (h : a.Assigned)
    (few : min a.capacity (a.size + 1) ≤ Capacity.slotNumbers)
    (taken : a.allocate = some (slot, b)) : Takes a slot b := by
  have lowest := h.lowestFree_le_size
  exact (h.toPartitioned.takes_of_allocate (by omega) taken).2

/-- A slot is handed out while there are fewer positions than slots. -/
theorem Assigned.exists_takes (h : a.Assigned) (few : a.size < Capacity.slotNumbers)
    (room : a.size < a.capacity) : ∃ slot b, a.allocate = some (slot, b) ∧ Takes a slot b := by
  obtain ⟨slot, b, taken⟩ := exists_allocate (Nat.lt_of_le_of_lt h.lowestFree_le_size room)
  exact ⟨slot, b, taken, h.takes_of_allocate (by omega) taken⟩

/-! ## Making room -/

/-- Making room changes the capacity only. -/
theorem exists_capacity_of_reserve {needed : Nat} (reserved : a.reserve needed = some b) :
    ∃ capacity, b = { a with capacity } ∧ a.capacity ≤ capacity ∧ needed ≤ capacity := by
  unfold reserve at reserved
  split at reserved
  · next enough =>
    cases reserved
    exact ⟨a.capacity, rfl, Nat.le_refl _, enough⟩
  · obtain ⟨capacity, grown, rfl⟩ := Option.map_eq_some_iff.1 reserved
    unfold Capacity.grown? at grown
    split at grown
    · cases grown
    · cases grown
      have := Capacity.le_doubled (max 1 a.capacity) needed (by omega)
      exact ⟨_, rfl, by omega, Capacity.needed_le_doubled _ _ _⟩

/-- Making room does not lead past the slots that have numbers of their own. -/
theorem min_capacity_le_of_reserve {needed count : Nat}
    (few : min a.capacity count ≤ Capacity.slotNumbers) (reserved : a.reserve needed = some b) :
    min b.capacity count ≤ Capacity.slotNumbers := by
  unfold reserve at reserved
  split at reserved
  · cases reserved
    exact few
  · next short =>
    obtain ⟨capacity, grown, rfl⟩ := Option.map_eq_some_iff.1 reserved
    exact Nat.le_trans (Nat.min_le_left _ _)
      (Capacity.grown?_le_slotNumbers grown (Nat.lt_of_not_le short))

/-- Room is made for at most `maxSlots` slots, by a larger capacity. -/
theorem WellFormed.reserve_spec (h : a.WellFormed) {needed : Nat}
    (fits : needed ≤ Capacity.maxSlots) :
    ∃ capacity, a.reserve needed = some { a with capacity } ∧
      WellFormed { a with capacity } ∧ a.capacity ≤ capacity ∧ needed ≤ capacity := by
  unfold reserve
  split
  · next enough => exact ⟨a.capacity, rfl, h, Nat.le_refl _, enough⟩
  · obtain ⟨capacity, grown, valid, le, room⟩ := Capacity.grown?_eq_some h.valid fits
    exact ⟨capacity, by rw [grown]; rfl, (h.assigned.withCapacity le).wellFormed valid, le, room⟩

/-- There is no room for more than `maxSlots` slots. -/
theorem WellFormed.reserve_eq_none (h : a.WellFormed) {needed : Nat}
    (tooMany : Capacity.maxSlots < needed) : a.reserve needed = none := by
  have := h.valid.le_maxSlots
  unfold reserve
  rw [if_neg (by omega), Capacity.grown?_eq_none tooMany]
  rfl

/-! ## Appending -/

/-- `b` is `a` with positions appended, possibly at a larger capacity. -/
structure Extends (a b : Axis) : Prop where
  wellFormed : b.WellFormed
  capacity_le : a.capacity ≤ b.capacity
  isPrefix : a.slots.toList <+: b.slots.toList

/-- An axis extends itself by nothing. -/
theorem WellFormed.extends_self (h : a.WellFormed) : Extends a a :=
  ⟨h, Nat.le_refl _, List.prefix_rfl⟩

/-- A position of an axis keeps its slot when positions are appended. -/
theorem Extends.getElem? (e : Extends a b) {position : Nat} (inside : position < a.size) :
    b.slots[position]? = a.slots[position]? := by
  obtain ⟨appended, eq⟩ := e.isPrefix
  rw [← Array.getElem?_toList, ← Array.getElem?_toList, ← eq,
    List.getElem?_append_left (by rwa [length_slots])]

/-- The active slots of an axis stay active when positions are appended. -/
theorem Extends.active (e : Extends a b) (h : a.WellFormed) {k : Nat} (active : k ∈ a.active) :
    k ∈ b.active :=
  (e.wellFormed.mem_active_iff k).2 (e.isPrefix.subset ((h.mem_active_iff k).1 active))

/-- The slot of an appended position was not active. -/
theorem Extends.not_active (e : Extends a b) (h : a.WellFormed) {position : Nat}
    (appended : a.size ≤ position) (found : b.slots[position]? = some slot) :
    slot ∉ a.active := by
  intro active
  -- An active slot had a position before, so now two positions would share it.
  obtain ⟨i, at_i⟩ := List.mem_iff_getElem?.1 ((h.mem_active_iff slot).1 active)
  rw [Array.getElem?_toList] at at_i
  have inside : i < a.size := (Array.getElem?_eq_some_iff.1 at_i).1
  have twice := e.wellFormed.position_inj ((e.getElem? inside).trans at_i) found
  omega

/-- A taken slot for a position at the end. -/
theorem Takes.push (t : Takes a slot b) (h : a.Assigned) :
    Assigned { b with slots := b.slots.push slot } ∧ (b.slots.push slot).size = a.size + 1 ∧
      a.slots.toList <+: (b.slots.push slot).toList := by
  rw [t.slots]
  refine ⟨t.assigned h ?_, Array.size_push slot, ?_⟩
  · rw [Array.toList_push]
    exact List.perm_append_singleton slot _
  · rw [Array.toList_push]
    exact List.prefix_append _ _

/-- Appending keeps the slots of the positions and takes others for the new ones, if these have
numbers of their own. -/
theorem Assigned.of_append (h : a.Assigned) {count : Nat}
    (few : min a.capacity (a.size + count) ≤ Capacity.slotNumbers)
    (appended : a.append count = some b) :
    b.Assigned ∧ b.capacity = a.capacity ∧ b.size = a.size + count ∧
      a.slots.toList <+: b.slots.toList := by
  induction count generalizing a with
  | zero =>
    cases appended
    exact ⟨h, rfl, rfl, List.prefix_rfl⟩
  | succ count ih =>
    rw [append] at appended
    split at appended
    · cases appended
    · next slot taken allocated =>
      have t := h.takes_of_allocate (by omega) allocated
      obtain ⟨assigned, size, first⟩ := t.push h
      have same : taken.capacity = a.capacity := t.capacity
      -- The slots of the axis with one more position are assigned, which carries the induction.
      obtain ⟨assigned', capacity, size', rest⟩ := ih assigned (by
        show min taken.capacity ((taken.slots.push slot).size + count) ≤ Capacity.slotNumbers
        omega) appended
      refine ⟨assigned', capacity.trans t.capacity, size'.trans ?_, first.trans rest⟩
      show (taken.slots.push slot).size + count = a.size + (count + 1)
      omega

/-- Appending succeeds within the capacity. -/
theorem Assigned.exists_append (h : a.Assigned) {count : Nat}
    (few : a.size + count ≤ Capacity.slotNumbers) (room : a.size + count ≤ a.capacity) :
    ∃ b, a.append count = some b := by
  induction count generalizing a with
  | zero => exact ⟨a, rfl⟩
  | succ count ih =>
    obtain ⟨slot, taken, allocated, t⟩ := h.exists_takes (by omega) (by omega)
    obtain ⟨assigned, size, -⟩ := t.push h
    have capacity : taken.capacity = a.capacity := t.capacity
    have next : Axis.size { taken with slots := taken.slots.push slot } = a.size + 1 := size
    obtain ⟨b, appended⟩ := ih assigned (by omega) (by
      show _ ≤ taken.capacity
      omega)
    refine ⟨b, ?_⟩
    rw [append, allocated]
    exact appended

/-- An extension that succeeds has made room for its positions. -/
theorem Assigned.of_extend (h : a.Assigned) {count : Nat}
    (few : min a.capacity count ≤ Capacity.slotNumbers) (extended : a.extend count = some b) :
    b.Assigned ∧ b.size = max a.size count ∧
      ∃ room, a.reserve count = some room ∧ b.capacity = room.capacity := by
  unfold extend at extended
  split at extended
  · next enough =>
    cases extended
    have fits := Nat.le_trans enough h.size_le_capacity
    exact ⟨h, by omega, a, if_pos fits, rfl⟩
  · next short =>
    obtain ⟨room, reserved, appended⟩ := Option.bind_eq_some_iff.1 extended
    have few' := min_capacity_le_of_reserve few reserved
    obtain ⟨capacity, rfl, le, -⟩ := exists_capacity_of_reserve reserved
    have few' : min capacity (a.size + (count - a.size)) ≤ Capacity.slotNumbers := by
      rwa [Nat.add_sub_cancel' (Nat.le_of_not_le short)]
    obtain ⟨assigned, same, size, -⟩ := (h.withCapacity le).of_append few' appended
    refine ⟨assigned, ?_, _, reserved, same⟩
    have size : b.size = a.size + (count - a.size) := size
    omega

/-- Appending to a well-formed axis succeeds within the capacity. -/
theorem WellFormed.append_spec (h : a.WellFormed) {count : Nat}
    (room : a.size + count ≤ a.capacity) :
    ∃ b, a.append count = some b ∧ Extends a b ∧ b.capacity = a.capacity ∧
      b.size = a.size + count := by
  have few := h.valid.le_slotNumbers
  obtain ⟨b, appended⟩ := h.assigned.exists_append (Nat.le_trans room few) room
  obtain ⟨assigned, capacity, size, first⟩ :=
    h.assigned.of_append (Nat.le_trans (Nat.min_le_left _ _) few) appended
  have valid : Capacity.Valid b.capacity := capacity ▸ h.valid
  exact ⟨b, appended, ⟨assigned.wellFormed valid, Nat.le_of_eq capacity.symm, first⟩, capacity, size⟩

/-- An axis is extended to at most `maxSlots` positions. -/
theorem WellFormed.extend_spec (h : a.WellFormed) {count : Nat}
    (fits : count ≤ Capacity.maxSlots) :
    ∃ b, a.extend count = some b ∧ Extends a b ∧ b.size = max a.size count := by
  unfold extend
  split
  · next enough => exact ⟨a, rfl, h.extends_self, by omega⟩
  · next short =>
    obtain ⟨capacity, reserved, wf, le, room⟩ := h.reserve_spec fits
    have fill : a.size + (count - a.size) ≤ capacity := by omega
    obtain ⟨b, appended, e, same, size⟩ := wf.append_spec fill
    refine ⟨b, by rw [reserved]; exact appended, ⟨e.wellFormed, ?_, e.isPrefix⟩, ?_⟩
    · rw [same]
      exact le
    · rw [size]
      show a.size + (count - a.size) = max a.size count
      omega

/-- An axis is not extended to more than `maxSlots` positions. -/
theorem WellFormed.extend_eq_none (h : a.WellFormed) {count : Nat}
    (tooMany : Capacity.maxSlots < count) : a.extend count = none := by
  have := h.size_le_maxSlots
  unfold extend
  rw [if_neg (by omega), h.reserve_eq_none tooMany]
  rfl

/-- What an extension is, when there is one. -/
theorem WellFormed.extends_of_extend (h : a.WellFormed) {count : Nat}
    (extended : a.extend count = some b) : Extends a b ∧ b.size = max a.size count := by
  by_cases fits : count ≤ Capacity.maxSlots
  · obtain ⟨b', extended', e, size⟩ := h.extend_spec fits
    rw [extended] at extended'
    cases extended'
    exact ⟨e, size⟩
  · rw [h.extend_eq_none (by omega)] at extended
    cases extended

/-! ## Inserting -/

/-- `b` is `a` with a position inserted on `slot`, possibly at a larger capacity. -/
structure Inserts (a : Axis) (position slot : Nat) (b : Axis) : Prop where
  wellFormed : b.WellFormed
  capacity_le : a.capacity ≤ b.capacity
  inside : position ≤ a.size
  slots : b.slots.toList = a.slots.toList.insertIdx position slot
  not_active : slot ∉ a.active

/-- A taken slot for a position that is inserted. -/
theorem Takes.insertIdx (t : Takes a slot b) (h : a.Assigned) {position : Nat}
    (inside : position ≤ a.size) :
    Assigned { b with slots := b.slots.insertIdxIfInBounds position slot } ∧
      (b.slots.insertIdxIfInBounds position slot).toList
        = a.slots.toList.insertIdx position slot := by
  have bound : position ≤ a.slots.size := inside
  have slots : (a.slots.insertIdxIfInBounds position slot).toList
      = a.slots.toList.insertIdx position slot := by
    rw [Array.insertIdxIfInBounds, dif_pos bound, Array.toList_insertIdx]
  rw [t.slots]
  refine ⟨t.assigned h ?_, slots⟩
  -- For the invariant it does not matter where the taken slot stands.
  rw [slots]
  exact List.perm_insertIdx slot _ (by rwa [length_slots])

/-- An insertion that succeeds has made room for one more position and taken a slot for it. -/
theorem Assigned.of_insert (h : a.Assigned) {position : Nat} (inside : position ≤ a.size)
    (few : min a.capacity (a.size + 1) ≤ Capacity.slotNumbers)
    (inserted : a.insert position = some (slot, b)) :
    b.Assigned ∧ b.size = a.size + 1 ∧
      ∃ room, a.reserve (a.size + 1) = some room ∧ b.capacity = room.capacity := by
  unfold insert at inserted
  obtain ⟨room, reserved, placed⟩ := Option.bind_eq_some_iff.1 inserted
  obtain ⟨⟨slot', taken⟩, allocated, eq⟩ := Option.map_eq_some_iff.1 placed
  cases eq
  have few' := min_capacity_le_of_reserve few reserved
  obtain ⟨capacity, rfl, le, -⟩ := exists_capacity_of_reserve reserved
  have assigned := h.withCapacity le
  have t := assigned.takes_of_allocate few' allocated
  obtain ⟨assigned', slots⟩ := t.insertIdx assigned inside
  refine ⟨assigned', ?_, _, reserved, t.capacity⟩
  rw [← length_slots, slots, List.length_insertIdx_of_le_length (by rwa [length_slots])]
  rfl

/-- A position is inserted while there are fewer than `maxSlots`. -/
theorem WellFormed.insert_spec (h : a.WellFormed) {position : Nat} (inside : position ≤ a.size)
    (fits : a.size < Capacity.maxSlots) :
    ∃ slot b, a.insert position = some (slot, b) ∧ Inserts a position slot b := by
  obtain ⟨capacity, reserved, wf, le, room⟩ := h.reserve_spec fits
  have few : a.size < Capacity.slotNumbers := Nat.lt_of_lt_of_le room wf.valid.le_slotNumbers
  obtain ⟨slot, taken, allocated, t⟩ := wf.assigned.exists_takes few room
  obtain ⟨assigned, slots⟩ := t.insertIdx wf.assigned inside
  have same : taken.capacity = capacity := t.capacity
  refine ⟨slot, _, ?_, assigned.wellFormed ?_, ?_, inside, slots, t.not_active⟩
  · unfold insert
    rw [reserved, Option.bind_some, allocated]
    rfl
  · exact same ▸ wf.valid
  · exact same ▸ le

/-- No position is inserted when there are `maxSlots`. -/
theorem WellFormed.insert_eq_none (h : a.WellFormed) {position : Nat}
    (full : Capacity.maxSlots ≤ a.size) : a.insert position = none := by
  unfold insert
  rw [h.reserve_eq_none (by omega)]
  rfl

/-- What an insertion does, when it succeeds. -/
theorem WellFormed.inserts_of_insert (h : a.WellFormed) {position : Nat}
    (inside : position ≤ a.size) (inserted : a.insert position = some (slot, b)) :
    Inserts a position slot b := by
  by_cases fits : a.size < Capacity.maxSlots
  · obtain ⟨slot', b', inserted', i⟩ := h.insert_spec inside fits
    rw [inserted] at inserted'
    cases inserted'
    exact i
  · rw [h.insert_eq_none (by omega)] at inserted
    cases inserted

/-- An insertion makes one position more. -/
theorem Inserts.size {position : Nat} (i : Inserts a position slot b) : b.size = a.size + 1 := by
  rw [← length_slots, i.slots, List.length_insertIdx_of_le_length (by
    rw [length_slots]
    exact i.inside), length_slots]

/-- The positions behind an inserted one have moved up by one. -/
theorem Inserts.getElem? {position : Nat} (i : Inserts a position slot b) (k : Nat) :
    b.slots[k]? = if k < position then a.slots[k]? else if k = position then some slot
      else a.slots[k - 1]? := by
  have inside : position ≤ a.slots.toList.length := by
    rw [length_slots]
    exact i.inside
  rw [← Array.getElem?_toList, i.slots, List.getElem?_insertIdx]
  simp only [Array.getElem?_toList]
  split
  · rfl
  · split
    · next eq => rw [if_pos (eq ▸ inside)]
    · rfl

/-- Besides the slots that were active before, the slot of the inserted position is active. -/
theorem Inserts.mem_active_iff {position : Nat} (i : Inserts a position slot b) (h : a.WellFormed)
    {k : Nat} : k ∈ b.active ↔ k = slot ∨ k ∈ a.active := by
  have inside : position ≤ a.slots.toList.length := by
    rw [length_slots]
    exact i.inside
  rw [i.wellFormed.mem_active_iff, i.slots, List.mem_insertIdx inside, h.mem_active_iff]

/-! ## Removing -/

/-- The positions stay when a slot is given back. -/
theorem slots_release (a : Axis) (slot : Nat) : (a.release slot).slots = a.slots := by
  unfold release
  dsimp only
  split <;> rfl

/-- So does the capacity. -/
theorem capacity_release (a : Axis) (slot : Nat) : (a.release slot).capacity = a.capacity := by
  unfold release
  dsimp only
  split <;> rfl

/-- The slot that is active under the number of one that is given back is released. -/
theorem Partitioned.release (h : a.Partitioned) (slot : Nat) : (a.release slot).Partitioned := by
  unfold Axis.release
  generalize Capacity.number slot = slot
  dsimp only
  split
  · next active =>
    rw [Std.TreeSet.contains_iff_mem] at active
    -- The slot changes from one part to the other, and the mark stays.
    refine ⟨?_, ?_, h.highWater_le⟩
    · intro k active released
      obtain ⟨ne, active⟩ := SlotSet.mem_erase.1 active
      rcases SlotSet.mem_insert.1 released with eq | released
      · exact ne eq
      · exact h.disjoint k active released
    · intro k
      have := h.lt_highWater_iff k
      rw [SlotSet.mem_insert, SlotSet.mem_erase]
      by_cases eq : k = slot
      · subst eq
        simp [this, active]
      · simp [eq, this]
  · exact h

/-- The slot of a position is its own number, where all slots below the capacity are. -/
theorem Assigned.number_of_found (h : a.Assigned) (few : a.capacity ≤ Capacity.slotNumbers)
    {position : Nat} (found : a.slots[position]? = some slot) : Capacity.number slot = slot := by
  have below := (h.lt_highWater_iff slot).2 (.inl (h.active_of_found found))
  exact Capacity.number_of_lt (Nat.lt_of_lt_of_le below (Nat.le_trans h.highWater_le few))

/-- `b` is `a` without a position that mapped to `slot`. -/
structure Removes (a : Axis) (position slot : Nat) (b : Axis) : Prop where
  wellFormed : b.WellFormed
  capacity : b.capacity = a.capacity
  slots : b.slots.toList = a.slots.toList.eraseIdx position
  mem_active_iff : ∀ k, k ∈ b.active ↔ k ≠ slot ∧ k ∈ a.active

/-- Removing a position erases it and releases its slot. -/
theorem Assigned.remove_eq (h : a.Assigned) (few : a.capacity ≤ Capacity.slotNumbers)
    {position : Nat} (found : a.slots[position]? = some slot) :
    a.remove position = { a with
      active := a.active.erase slot
      released := a.released.insert slot
      slots := a.slots.eraseIdxIfInBounds position } := by
  have active := Std.TreeSet.contains_iff_mem.2 (h.active_of_found found)
  unfold remove
  rw [found]
  dsimp only
  rw [Axis.release, h.number_of_found few found, if_pos active]

/-- Without a position its slot is not assigned any more. -/
theorem Assigned.remove (h : a.Assigned) (few : a.capacity ≤ Capacity.slotNumbers) {position : Nat}
    (found : a.slots[position]? = some slot) : (a.remove position).Assigned := by
  have partitioned := h.toPartitioned.release slot
  rw [Axis.release, h.number_of_found few found,
    if_pos (Std.TreeSet.contains_iff_mem.2 (h.active_of_found found))] at partitioned
  -- Up to their order, the slots from before are the released one and those that stay.
  have perm : (slot :: a.slots.toList.eraseIdx position).Perm a.slots.toList := by
    rw [← Array.getElem?_toList] at found
    obtain ⟨inside, eq⟩ := List.getElem?_eq_some_iff.1 found
    rw [← eq]
    exact List.getElem_cons_eraseIdx_perm inside
  obtain ⟨fresh, nodup⟩ := List.nodup_cons.1 (perm.nodup_iff.2 h.nodup)
  rw [h.remove_eq few found]
  refine ⟨⟨partitioned.disjoint, partitioned.lt_highWater_iff, partitioned.highWater_le⟩, ?_,
    fun k => ?_⟩
  · dsimp only
    rwa [Array.toList_eraseIdxIfInBounds]
  · dsimp only
    rw [SlotSet.mem_erase, Array.toList_eraseIdxIfInBounds, h.mem_active_iff, ← perm.mem_iff,
      List.mem_cons]
    by_cases eq : k = slot
    · subst eq
      simp [fresh]
    · simp [eq]

/-- Removing a position of a well-formed axis releases its slot. -/
theorem WellFormed.removes_remove (h : a.WellFormed) {position : Nat}
    (found : a.slots[position]? = some slot) : Removes a position slot (a.remove position) := by
  have few := h.valid.le_slotNumbers
  have removed := h.assigned.remove_eq few found
  have capacity : (a.remove position).capacity = a.capacity := by rw [removed]
  refine ⟨(h.assigned.remove few found).wellFormed (capacity ▸ h.valid), capacity, ?_, fun k => ?_⟩
  · rw [removed, Array.toList_eraseIdxIfInBounds]
  · rw [removed]
    exact SlotSet.mem_erase

/-- A removal makes one position fewer. -/
theorem Removes.size {position : Nat} (r : Removes a position slot b)
    (found : a.slots[position]? = some slot) : b.size = a.size - 1 := by
  have inside : position < a.slots.toList.length := by
    rw [← Array.getElem?_toList] at found
    exact (List.getElem?_eq_some_iff.1 found).1
  rw [← length_slots, r.slots, List.length_eraseIdx_of_lt inside, length_slots]

/-- The positions behind a removed one have moved down by one. -/
theorem Removes.getElem? {position : Nat} (r : Removes a position slot b) (k : Nat) :
    b.slots[k]? = if k < position then a.slots[k]? else a.slots[k + 1]? := by
  rw [← Array.getElem?_toList, r.slots, List.getElem?_eraseIdx]
  simp only [Array.getElem?_toList]

end Axis

end Tabular
