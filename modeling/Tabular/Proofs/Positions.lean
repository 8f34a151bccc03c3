/-!
# Positions beside a new one

Where a line is inserted in front of a position, that position and all behind it are raised by one.
Where a line is removed, all behind it are lowered by one. Raising misses exactly the new position,
and lowering takes it back.
-/

namespace Tabular

/-- The position of an old line after an insertion in front of `new`. -/
def raised (new position : Nat) : Nat := if position < new then position else position + 1

/-- The position of another line after the removal of `old`. -/
def lowered (old position : Nat) : Nat := if old < position then position - 1 else position

/-- A position is where it was when what was inserted is removed again. -/
theorem lowered_raised (new position : Nat) : lowered new (raised new position) = position := by
  unfold lowered raised
  split <;> split <;> omega

/-- Another position is where it was when what was removed is inserted again. -/
theorem raised_lowered {old position : Nat} (other : position ≠ old) :
    raised old (lowered old position) = position := by
  unfold lowered raised
  split <;> split <;> omega

/-- Without the new one, the positions of the longer list are those of the shorter list, raised. -/
theorem filter_ne_range {new count : Nat} (inside : new ≤ count) :
    (List.range (count + 1)).filter (· ≠ new) = (List.range count).map (raised new) := by
  obtain ⟨behind, rfl⟩ := Nat.exists_eq_add_of_le inside
  -- The positions before the new one stay as they are, and those behind it are one further.
  have before : (List.range new).map (raised new) = List.range new :=
    (List.map_congr_left fun position mem => if_pos (List.mem_range.1 mem)).trans (List.map_id _)
  have others : (List.range new).filter (· ≠ new) = List.range new :=
    List.filter_eq_self.2 fun position mem => decide_eq_true (Nat.ne_of_lt (List.mem_range.1 mem))
  have after : ((List.range (behind + 1)).map (new + ·)).filter (· ≠ new)
      = ((List.range behind).map (new + ·)).map (raised new) := by
    rw [List.range_succ_eq_map, List.map_cons, List.filter_cons_of_neg (by simp), List.map_map,
      List.map_map, List.filter_eq_self.2 (by simp)]
    refine List.map_congr_left fun position _ => ?_
    exact (if_neg (Nat.not_lt_of_le (Nat.le_add_right _ _))).symm
  rw [Nat.add_assoc, List.range_add, List.filter_append, others, after, List.range_add,
    List.map_append, before]

end Tabular
