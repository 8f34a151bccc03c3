import Tabular.Size

/-!
# Capacities

The number of slots that back one axis is a power of two. It doubles until the slots asked for fit,
and it halves while less than a quarter of it is in use. An axis never grows past `maxSlots`, and
the sets of its slots have room for `slotNumbers` of them.
-/

namespace Tabular.Capacity

/-- The most slots one axis can grow to. -/
def maxSlots : Nat := 0x80000000

/-- How many numbers of 32 bits there are. -/
def slotNumbers : Nat := 0x100000000

/-- The number of 32 bits under which a set keeps a slot. From `slotNumbers` on, a slot has the
number of a lower one. -/
def number (slot : Nat) : Nat := slot % slotNumbers

/-- A slot below `slotNumbers` has itself as its number. -/
theorem number_of_lt {slot : Nat} (lt : slot < slotNumbers) : number slot = slot :=
  Nat.mod_eq_of_lt lt

/-- An axis shrinks while its size is below this fraction of its capacity. -/
def sparseness : Nat := 4

/-- Doubles `capacity` until it is at least `needed`. -/
def doubled (capacity needed : Nat) (pos : 0 < capacity) : Nat :=
  if capacity < needed then doubled (2 * capacity) needed (by omega) else capacity
termination_by needed - capacity

/-- Doubling never makes a capacity smaller. -/
theorem le_doubled (capacity needed : Nat) (pos : 0 < capacity) :
    capacity ≤ doubled capacity needed pos := by
  fun_induction doubled capacity needed pos with
  | case1 capacity pos h ih => omega
  | case2 capacity pos h => exact Nat.le_refl _

/-- Doubling ends with room for what is needed. -/
theorem needed_le_doubled (capacity needed : Nat) (pos : 0 < capacity) :
    needed ≤ doubled capacity needed pos := by
  fun_induction doubled capacity needed pos with
  | case1 capacity pos h ih => exact ih
  | case2 capacity pos h => omega

/-- Doubling ends at the first capacity that is large enough: half of it would not do. -/
theorem doubled_lt_two_mul (capacity needed : Nat) (pos : 0 < capacity) (short : capacity < needed) :
    doubled capacity needed pos < 2 * needed := by
  fun_induction doubled capacity needed pos with
  | case1 capacity pos h ih =>
    by_cases again : 2 * capacity < needed
    · exact ih again
    · rw [doubled, if_neg again]
      omega
  | case2 capacity pos h => omega

/-- The capacity that holds `needed` slots, reached from `current` by doubling. There is none past
`maxSlots`. -/
def grown? (current needed : Nat) : Option Nat :=
  if maxSlots < needed then none
  else some (doubled (max 1 current) needed (by omega))

/-- Halves `capacity` while `size` is below a quarter of it. -/
def halved (size capacity : Nat) : Nat :=
  if 1 < capacity ∧ size < capacity / sparseness then halved size (capacity / 2) else capacity
termination_by capacity

/-- Halving never makes a capacity larger. -/
theorem halved_le (size capacity : Nat) : halved size capacity ≤ capacity := by
  fun_induction halved size capacity with
  | case1 capacity h ih => omega
  | case2 capacity h => exact Nat.le_refl _

/-- A capacity that holds the positions still does after halving. -/
theorem size_le_halved {size capacity : Nat} (fits : size ≤ capacity) :
    size ≤ halved size capacity := by
  fun_induction halved size capacity with
  | case1 capacity h ih =>
    have := h.2
    simp only [sparseness] at this
    exact ih (by omega)
  | case2 capacity h => exact fits

/-- Halving ends with at least a quarter of the capacity in use, or at a capacity of at most 1. -/
theorem halved_div_le (size capacity : Nat) :
    halved size capacity ≤ 1 ∨ halved size capacity / sparseness ≤ size := by
  fun_induction halved size capacity with
  | case1 capacity h ih => exact ih
  | case2 capacity h => omega

/-- The capacity that a requested one is rounded up to: the next power of two. -/
def rounded (requested : Nat) : Nat := doubled 1 requested Nat.one_pos

/-- The rounded capacity, if it is a size. -/
def rounded? (requested : Nat) : Option Nat :=
  if rounded requested ≤ Size.max then some (rounded requested) else none

end Tabular.Capacity
