import Mathlib.Data.List.Nodup
import Tabular.Proofs.Store.Axis

/-!
# Packing an axis

Where the two scans of packing meet, and what the moves they pair bring about. The scans meet at the
number of active slots: the sources of the moves are the active slots from there on, in descending
order, and the targets are the inactive slots below, in ascending order (`map_source_packingMoves`,
`map_target_packingMoves`). So after the moves exactly the slots below the size of the axis are
active, and every position maps to the slot that its own slot was moved to (`Assigned.pack`). This
does not depend on the capacity.
-/

namespace Tabular.Axis

/-! ## The two scans -/

/-- The number of active slots from `low` up to `high`. -/
def activeCount (active : SlotSet) (low high : Nat) : Nat :=
  (List.range' low (high - low)).countP active.contains

section Scans

variable {active : SlotSet} {low high : Nat}

/-- The slots between two bounds are the lower bound and those above it. -/
theorem range'_eq_cons (lt : low < high) :
    List.range' low (high - low) = low :: List.range' (low + 1) (high - (low + 1)) := by
  have succ : high - low = (high - (low + 1)) + 1 := by omega
  rw [succ, List.range'_succ]

/-- The slots between two bounds are those below the last one and the last one. -/
theorem range'_eq_concat (lt : low < high) :
    List.range' low (high - low) = List.range' low (high - 1 - low) ++ [high - 1] := by
  have succ : high - low = (high - 1 - low) + 1 := by omega
  rw [succ, List.range'_1_concat]
  congr 2
  omega

/-- No more slots are active than there are. -/
theorem activeCount_le (active : SlotSet) (low high : Nat) :
    activeCount active low high ≤ high - low := by
  have le := List.countP_le_length (p := active.contains) (l := List.range' low (high - low))
  rwa [List.length_range'] at le

/-- An active lowest slot counts. -/
theorem activeCount_of_active_low (lt : low < high) (h : active.contains low) :
    activeCount active low high = activeCount active (low + 1) high + 1 := by
  unfold activeCount
  rw [range'_eq_cons lt, List.countP_cons_of_pos h]

/-- An inactive lowest slot does not count. -/
theorem activeCount_of_inactive_low (lt : low < high) (h : ¬ active.contains low) :
    activeCount active low high = activeCount active (low + 1) high := by
  unfold activeCount
  rw [range'_eq_cons lt, List.countP_cons_of_neg h]

/-- An active highest slot counts. -/
theorem activeCount_of_active_high (lt : low < high) (h : active.contains (high - 1)) :
    activeCount active low high = activeCount active low (high - 1) + 1 := by
  unfold activeCount
  rw [range'_eq_concat lt, List.countP_append, List.countP_cons_of_pos h, List.countP_nil]

/-- An inactive highest slot does not count. -/
theorem activeCount_of_inactive_high (lt : low < high) (h : ¬ active.contains (high - 1)) :
    activeCount active low high = activeCount active low (high - 1) := by
  unfold activeCount
  rw [range'_eq_concat lt, List.countP_append, List.countP_cons_of_neg h, List.countP_nil,
    Nat.add_zero]

/-- The targets are the inactive slots below the point where the scans meet, in ascending order. -/
theorem map_target_pairs (active : SlotSet) (low high : Nat) :
    (pairs active low high).map Move.target =
      (List.range' low (activeCount active low high)).filter fun slot => !active.contains slot := by
  fun_induction pairs active low high with
  -- `low` is active and stays where it is.
  | case1 low high lt h ih =>
    rw [ih, activeCount_of_active_low lt h, List.range'_succ, List.filter_cons_of_neg (by simp [h])]
  -- `low` is filled from the last slot, so neither scan has met the other.
  | case2 low high lt h h' ih =>
    have apart : low ≠ high - 1 := by
      rintro rfl
      exact h h'
    rw [List.map_cons, ih, activeCount_of_inactive_low lt h,
      activeCount_of_active_high (by omega) h', List.range'_succ,
      List.filter_cons_of_pos (by simp [h])]
  -- The last slot is inactive and of no use.
  | case3 low high lt h h' ih =>
    rw [ih, activeCount_of_inactive_high lt h']
  | case4 low high met =>
    have none : activeCount active low high = 0 := by
      have := activeCount_le active low high
      omega
    rw [none]
    rfl

/-- The sources are the active slots from the point where the scans meet, in descending order. -/
theorem map_source_pairs (active : SlotSet) (low high : Nat) :
    (pairs active low high).map Move.source =
      ((List.range' (low + activeCount active low high)
        (high - (low + activeCount active low high))).filter active.contains).reverse := by
  fun_induction pairs active low high with
  | case1 low high lt h ih =>
    rw [ih, activeCount_of_active_low lt h, Nat.add_right_comm, Nat.add_assoc]
  | case2 low high lt h h' ih =>
    have apart : low ≠ high - 1 := by
      rintro rfl
      exact h h'
    have count : activeCount active low high = activeCount active (low + 1) (high - 1) + 1 := by
      rw [activeCount_of_inactive_low lt h, activeCount_of_active_high (by omega) h']
    have le := activeCount_le active (low + 1) (high - 1)
    -- One target from below for one source from above: the meeting point stays the same.
    have meet : low + activeCount active low high
        = low + 1 + activeCount active (low + 1) (high - 1) := by omega
    have last := range'_eq_concat (show low + 1 + activeCount active (low + 1) (high - 1) < high by
      omega)
    rw [List.map_cons, ih, meet, last, List.filter_append, List.filter_cons_of_pos h',
      List.filter_nil, List.reverse_append]
    rfl
  | case3 low high lt h h' ih =>
    have le := activeCount_le active low (high - 1)
    rw [ih, activeCount_of_inactive_high lt h']
    by_cases more : low + activeCount active low (high - 1) < high
    · rw [range'_eq_concat more, List.filter_append, List.filter_cons_of_neg h', List.filter_nil,
        List.append_nil]
    · have left : high - 1 - (low + activeCount active low (high - 1)) = 0 := by omega
      have right : high - (low + activeCount active low (high - 1)) = 0 := by omega
      rw [left, right]
  | case4 low high met =>
    have none : high - (low + activeCount active low high) = 0 := by omega
    rw [none]
    rfl

end Scans

/-! ## Lists of moves -/

/-- No slot is the source of two moves or the target of two moves, and no slot is both. -/
structure Separate (moves : List Move) : Prop where
  sources : (moves.map Move.source).Nodup
  targets : (moves.map Move.target).Nodup
  source_ne_target : ∀ m ∈ moves, ∀ m' ∈ moves, m.source ≠ m'.target

section Moves

variable {moves : List Move} {move : Move} {slot : Nat}

/-- The moves behind a move are separate too. -/
theorem Separate.tail (h : Separate (move :: moves)) : Separate moves where
  sources := (List.nodup_cons.1 h.sources).2
  targets := (List.nodup_cons.1 h.targets).2
  source_ne_target m mem m' mem' :=
    h.source_ne_target m (List.mem_cons_of_mem _ mem) m' (List.mem_cons_of_mem _ mem')

/-- The contents of the source of a move are at its target. -/
theorem Separate.relocate_source (h : Separate moves) (mem : move ∈ moves) :
    relocate moves move.source = move.target := by
  induction moves with
  | nil => cases mem
  | cons first rest ih =>
    have fresh := (List.nodup_cons.1 h.sources).1
    rcases List.mem_cons.1 mem with rfl | mem
    · simp [relocate]
    · have ne : (first.source == move.source) = false := by
        rw [beq_eq_false_iff_ne]
        intro eq
        exact fresh (eq ▸ List.mem_map_of_mem mem)
      have later := ih h.tail mem
      unfold relocate at later ⊢
      rw [List.find?_cons_of_neg (by simp [ne])]
      exact later

/-- The contents of a slot that is no source stay. -/
theorem relocate_of_not_source (h : ∀ m ∈ moves, m.source ≠ slot) : relocate moves slot = slot := by
  have none : moves.find? (·.source == slot) = none := by
    rw [List.find?_eq_none]
    intro m mem
    rw [beq_iff_eq]
    exact h m mem
  unfold relocate
  rw [none]

/-- The active slots after some moves. -/
theorem Separate.mem_foldl (h : Separate moves) (set : SlotSet) :
    slot ∈ moves.foldl (fun set m => (set.erase m.source).insert m.target) set ↔
      (∃ m ∈ moves, m.target = slot) ∨ (slot ∈ set ∧ ∀ m ∈ moves, m.source ≠ slot) := by
  induction moves generalizing set with
  | nil => simp
  | cons first rest ih =>
    -- A later move does not vacate the slot that the first one fills.
    have noSource : ∀ m ∈ rest, m.source ≠ first.target := fun m mem =>
      h.source_ne_target m (List.mem_cons_of_mem _ mem) first List.mem_cons_self
    rw [List.foldl_cons, ih h.tail, SlotSet.mem_insert, SlotSet.mem_erase]
    simp only [List.mem_cons, exists_eq_or_imp, forall_eq_or_imp]
    constructor
    · rintro (found | ⟨rfl | ⟨ne, mem⟩, rest⟩)
      · exact .inl (.inr found)
      · exact .inl (.inl rfl)
      · exact .inr ⟨mem, fun eq => ne eq.symm, rest⟩
    · rintro ((rfl | found) | ⟨mem, ne, rest⟩)
      · exact .inr ⟨.inl rfl, noSource⟩
      · exact .inl found
      · exact .inr ⟨.inr ⟨fun eq => ne eq.symm, mem⟩, rest⟩

end Moves

/-! ## The moves of an axis -/

section Packing

variable {a : Axis} {slot : Nat}

/-- The slots that are handed out and active are those of the positions. -/
theorem Assigned.activeCount_eq_size (h : a.Assigned) :
    activeCount a.active 0 a.highWater = a.size := by
  -- Both lists are without repetitions, so it is enough that they have the same elements.
  have perm : ((List.range a.highWater).filter a.active.contains).Perm a.slots.toList := by
    refine (List.perm_ext_iff_of_nodup (List.nodup_range.filter _) h.nodup).2 fun k => ?_
    rw [List.mem_filter, List.mem_range, Std.TreeSet.contains_iff_mem, h.mem_active_iff]
    exact ⟨And.right, fun mem => ⟨h.lt_highWater mem, mem⟩⟩
  unfold activeCount
  rw [Nat.sub_zero, ← List.range_eq_range', List.countP_eq_length_filter, perm.length_eq,
    length_slots]

/-- Packing vacates the active slots from the size of the axis on, the highest first. -/
theorem Assigned.map_source_packingMoves (h : a.Assigned) :
    a.packingMoves.map Move.source =
      ((List.range' a.size (a.highWater - a.size)).filter a.active.contains).reverse := by
  unfold packingMoves
  rw [map_source_pairs, h.activeCount_eq_size, Nat.zero_add]

/-- Packing fills the inactive slots below the size of the axis, the lowest first. -/
theorem Assigned.map_target_packingMoves (h : a.Assigned) :
    a.packingMoves.map Move.target =
      (List.range a.size).filter fun slot => !a.active.contains slot := by
  unfold packingMoves
  rw [map_target_pairs, h.activeCount_eq_size, List.range_eq_range']

/-- A slot is vacated by packing exactly when it is active and not below the size. -/
theorem Assigned.exists_source_iff (h : a.Assigned) :
    (∃ m ∈ a.packingMoves, m.source = slot) ↔ a.size ≤ slot ∧ slot ∈ a.active := by
  rw [← List.mem_map, h.map_source_packingMoves, List.mem_reverse, List.mem_filter,
    List.mem_range'_1, Std.TreeSet.contains_iff_mem]
  constructor
  · rintro ⟨⟨le, -⟩, active⟩
    exact ⟨le, active⟩
  · rintro ⟨le, active⟩
    have lt := (h.lt_highWater_iff slot).2 (.inl active)
    exact ⟨⟨le, by omega⟩, active⟩

/-- A slot is filled by packing exactly when it is inactive and below the size. -/
theorem Assigned.exists_target_iff (h : a.Assigned) :
    (∃ m ∈ a.packingMoves, m.target = slot) ↔ slot < a.size ∧ slot ∉ a.active := by
  rw [← List.mem_map, h.map_target_packingMoves, List.mem_filter, List.mem_range,
    Bool.not_eq_true', ← Bool.not_eq_true, Std.TreeSet.contains_iff_mem]

/-- Every source is an active slot past the positions. -/
theorem Assigned.le_source (h : a.Assigned) {move : Move} (mem : move ∈ a.packingMoves) :
    a.size ≤ move.source ∧ move.source ∈ a.active := h.exists_source_iff.1 ⟨move, mem, rfl⟩

/-- Every target is an inactive slot below the number of positions. -/
theorem Assigned.target_lt (h : a.Assigned) {move : Move} (mem : move ∈ a.packingMoves) :
    move.target < a.size ∧ move.target ∉ a.active := h.exists_target_iff.1 ⟨move, mem, rfl⟩

/-- The moves of a packing stay within the capacity. -/
theorem Assigned.moves_lt (h : a.Assigned) :
    ∀ m ∈ a.packingMoves, m.source < a.capacity ∧ m.target < a.capacity := by
  intro m mem
  have source := (h.lt_highWater_iff m.source).2 (.inl (h.le_source mem).2)
  have target := (h.target_lt mem).1
  have := h.highWater_le
  have := h.size_le_capacity
  exact ⟨by omega, by omega⟩

/-- The moves of packing do not interfere: sources are past the positions and targets are below. -/
theorem Assigned.separate (h : a.Assigned) : Separate a.packingMoves where
  sources := by
    rw [h.map_source_packingMoves, List.nodup_reverse]
    exact (List.nodup_range' 1).filter _
  targets := by
    rw [h.map_target_packingMoves]
    exact List.nodup_range.filter _
  source_ne_target m mem m' mem' := by
    have := (h.le_source mem).1
    have := (h.target_lt mem').1
    omega

/-! ## The packed axis -/

/-- A position on a slot below the size stays there. -/
theorem Assigned.relocate_of_lt (h : a.Assigned) (lt : slot < a.size) :
    relocate a.packingMoves slot = slot := by
  refine relocate_of_not_source fun m mem eq => ?_
  have := (h.le_source mem).1
  omega

/-- A position on an active slot from the size on is moved to a slot that was inactive. -/
theorem Assigned.relocate_of_le (h : a.Assigned) (le : a.size ≤ slot)
    (active : slot ∈ a.active) :
    ∃ m ∈ a.packingMoves, m.source = slot ∧ relocate a.packingMoves slot = m.target := by
  obtain ⟨m, mem, rfl⟩ := h.exists_source_iff.2 ⟨le, active⟩
  exact ⟨m, mem, rfl, h.separate.relocate_source mem⟩

/-- Every active slot ends below the number of positions. -/
theorem Assigned.relocate_lt (h : a.Assigned) (active : slot ∈ a.active) :
    relocate a.packingMoves slot < a.size := by
  by_cases lt : slot < a.size
  · rw [h.relocate_of_lt lt]
    exact lt
  · obtain ⟨m, mem, -, eq⟩ := h.relocate_of_le (by omega) active
    rw [eq]
    exact (h.target_lt mem).1

/-- Different active slots are relocated to different slots. -/
theorem Assigned.relocate_inj (h : a.Assigned) {i j : Nat} (hi : i ∈ a.active)
    (hj : j ∈ a.active) (eq : relocate a.packingMoves i = relocate a.packingMoves j) : i = j := by
  -- A slot that stays and a slot that moves end apart, since targets were inactive.
  by_cases lt_i : i < a.size <;> by_cases lt_j : j < a.size
  · rwa [h.relocate_of_lt lt_i, h.relocate_of_lt lt_j] at eq
  · obtain ⟨m, mem, -, target⟩ := h.relocate_of_le (by omega) hj
    rw [h.relocate_of_lt lt_i, target] at eq
    exact absurd (eq ▸ hi) (h.target_lt mem).2
  · obtain ⟨m, mem, -, target⟩ := h.relocate_of_le (by omega) hi
    rw [h.relocate_of_lt lt_j, target] at eq
    exact absurd (eq ▸ hj) (h.target_lt mem).2
  · obtain ⟨m, mem, source, target⟩ := h.relocate_of_le (by omega) hi
    obtain ⟨m', mem', source', target'⟩ := h.relocate_of_le (by omega) hj
    rw [target, target'] at eq
    have same : m = m' := List.inj_on_of_nodup_map h.separate.targets mem mem' eq
    rw [← source, ← source', same]

/-- After packing, each position has its old slot relocated. -/
theorem toList_slots_pack (a : Axis) :
    a.pack.slots.toList = a.slots.toList.map (relocate a.packingMoves) := Array.toList_map

/-- Packing changes no number of positions. -/
theorem size_pack (a : Axis) : a.pack.size = a.size := Array.size_map

/-- After packing, exactly the slots below the size are active. -/
theorem Assigned.mem_active_pack (h : a.Assigned) : slot ∈ a.pack.active ↔ slot < a.size := by
  refine (h.separate.mem_foldl a.active).trans ⟨?_, fun lt => ?_⟩
  · rintro (found | ⟨active, notSource⟩)
    · exact (h.exists_target_iff.1 found).1
    · refine Nat.lt_of_not_le fun le => ?_
      obtain ⟨m, mem, eq⟩ := h.exists_source_iff.2 ⟨le, active⟩
      exact notSource m mem eq
  · by_cases active : slot ∈ a.active
    · refine .inr ⟨active, fun m mem eq => ?_⟩
      have := (h.le_source mem).1
      omega
    · exact .inl (h.exists_target_iff.2 ⟨lt, active⟩)

/-- Packing keeps the slots of the positions apart. -/
theorem Assigned.pack (h : a.Assigned) : a.pack.Assigned where
  disjoint k _ := Std.TreeSet.not_mem_emptyc
  lt_highWater_iff k := by
    rw [h.mem_active_pack]
    exact ⟨.inl, fun found => found.resolve_right Std.TreeSet.not_mem_emptyc⟩
  highWater_le := Capacity.size_le_halved h.size_le_capacity
  nodup := by
    rw [toList_slots_pack]
    refine List.Nodup.map_on (fun i hi j hj eq => ?_) h.nodup
    exact h.relocate_inj ((h.mem_active_iff i).2 hi) ((h.mem_active_iff j).2 hj) eq
  mem_active_iff k := by
    rw [h.mem_active_pack, toList_slots_pack, List.mem_map]
    constructor
    -- A slot below the size kept its position, or it is the target of a move and got one.
    · intro lt
      by_cases active : k ∈ a.active
      · exact ⟨k, (h.mem_active_iff k).1 active, h.relocate_of_lt lt⟩
      · obtain ⟨m, mem, rfl⟩ := h.exists_target_iff.2 ⟨lt, active⟩
        have source := (h.mem_active_iff m.source).1 (h.le_source mem).2
        exact ⟨m.source, source, h.separate.relocate_source mem⟩
    · rintro ⟨slot, mem, rfl⟩
      exact h.relocate_lt ((h.mem_active_iff slot).2 mem)

/-- Packing keeps the invariant. -/
theorem WellFormed.pack (h : a.WellFormed) : a.pack.WellFormed where
  toPartitioned := h.assigned.pack.toPartitioned
  nodup := h.assigned.pack.nodup
  mem_active_iff := h.assigned.pack.mem_active_iff
  valid := h.valid.halved a.size

end Packing

end Tabular.Axis
