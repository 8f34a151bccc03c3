import Tabular.Store.Capacity

/-!
# Capacities are powers of two

Rounding, doubling and halving lead from powers of two to powers of two, and none of them leaves the
range up to `maxSlots` when it starts there. So every axis that starts with a valid capacity keeps
one.
-/

namespace Tabular.Capacity

/-- A capacity that an axis can have: a power of two that is at most `maxSlots`. -/
structure Valid (capacity : Nat) : Prop where
  isPowerOfTwo : capacity.isPowerOfTwo
  le_maxSlots : capacity ≤ maxSlots

/-- The most slots of an axis are a power of two themselves. -/
theorem maxSlots_isPowerOfTwo : maxSlots.isPowerOfTwo := ⟨31, by decide⟩

/-- The slots of a valid capacity have numbers of their own. -/
theorem Valid.le_slotNumbers {capacity : Nat} (h : Valid capacity) : capacity ≤ slotNumbers :=
  Nat.le_trans h.le_maxSlots (by decide)

/-- Two powers of two are at least a factor of two apart. -/
theorem two_mul_le_of_lt {m n : Nat} (hm : m.isPowerOfTwo) (hn : n.isPowerOfTwo) (h : m < n) :
    2 * m ≤ n := by
  obtain ⟨i, rfl⟩ := hm
  obtain ⟨j, rfl⟩ := hn
  have hij : i < j := (Nat.pow_lt_pow_iff_right (by decide)).1 h
  have step : 2 ^ (i + 1) ≤ 2 ^ j := Nat.pow_le_pow_right (by decide) hij
  rw [Nat.pow_succ] at step
  omega

/-- Half of a power of two above 1 is a power of two. -/
theorem isPowerOfTwo_half {n : Nat} (h : n.isPowerOfTwo) (one_lt : 1 < n) :
    (n / 2).isPowerOfTwo := by
  obtain ⟨k, rfl⟩ := h
  cases k with
  | zero => exact absurd one_lt (by decide)
  | succ k => exact ⟨k, by rw [Nat.pow_succ, Nat.mul_div_cancel _ (by decide)]⟩

/-! ## Doubling -/

/-- Doubling leads from a power of two to a power of two. -/
theorem doubled_isPowerOfTwo (capacity needed : Nat) (pos : 0 < capacity)
    (h : capacity.isPowerOfTwo) : (doubled capacity needed pos).isPowerOfTwo := by
  fun_induction doubled capacity needed pos with
  | case1 capacity pos short ih =>
    apply ih
    rw [Nat.mul_comm]
    exact Nat.isPowerOfTwo_mul_two_of_isPowerOfTwo h
  | case2 capacity pos enough => exact h

/-- Doubling does not pass a power of two that is enough. -/
theorem doubled_le {capacity needed limit : Nat} (pos : 0 < capacity) (h : capacity.isPowerOfTwo)
    (hl : limit.isPowerOfTwo) (capacity_le : capacity ≤ limit) (needed_le : needed ≤ limit) :
    doubled capacity needed pos ≤ limit := by
  fun_induction doubled capacity needed pos with
  | case1 capacity pos short ih =>
    apply ih
    · rw [Nat.mul_comm]
      exact Nat.isPowerOfTwo_mul_two_of_isPowerOfTwo h
    · exact two_mul_le_of_lt h hl (by omega)
  | case2 capacity pos enough => exact capacity_le

/-- A valid capacity grows to a valid one that holds what is needed, and it grows exactly when that
is at most `maxSlots`. -/
theorem grown?_eq_some {current needed : Nat} (h : Valid current) (fits : needed ≤ maxSlots) :
    ∃ capacity, grown? current needed = some capacity ∧ Valid capacity ∧ current ≤ capacity ∧
      needed ≤ capacity := by
  have pos : 0 < current := Nat.pos_of_isPowerOfTwo h.isPowerOfTwo
  have start : max 1 current = current := by omega
  have power : (max 1 current).isPowerOfTwo := by
    rw [start]
    exact h.isPowerOfTwo
  refine ⟨doubled (max 1 current) needed (by omega), if_neg (by omega), ⟨?_, ?_⟩, ?_, ?_⟩
  · exact doubled_isPowerOfTwo _ _ _ power
  · refine doubled_le _ power maxSlots_isPowerOfTwo ?_ fits
    rw [start]
    exact h.le_maxSlots
  · calc current ≤ max 1 current := Nat.le_max_right _ _
      _ ≤ doubled (max 1 current) needed _ := le_doubled _ _ _
  · exact needed_le_doubled _ _ _

/-- There is no capacity for more than `maxSlots`. -/
theorem grown?_eq_none {current needed : Nat} (h : maxSlots < needed) :
    grown? current needed = none := if_pos h

/-- Of a capacity that was grown to, more than half is needed. -/
theorem half_lt_of_grown? {current needed capacity : Nat}
    (grown : grown? current needed = some capacity) (short : current < needed) :
    capacity / 2 < needed := by
  unfold grown? at grown
  split at grown
  · cases grown
  · cases grown
    by_cases more : max 1 current < needed
    · have := doubled_lt_two_mul (max 1 current) needed (by omega) more
      omega
    -- Only a capacity of 0 is smaller than the one that doubling starts from.
    · rw [doubled, if_neg more]
      omega

/-- A capacity that was grown to has no more slots than there are numbers. -/
theorem grown?_le_slotNumbers {current needed capacity : Nat}
    (grown : grown? current needed = some capacity) (short : current < needed) :
    capacity ≤ slotNumbers := by
  have half := half_lt_of_grown? grown short
  have fits : needed ≤ maxSlots := Nat.le_of_not_lt fun tooMany => by
    rw [grown?_eq_none tooMany] at grown
    cases grown
  simp only [maxSlots, slotNumbers] at fits ⊢
  omega

/-! ## Halving -/

/-- Halving leads from a power of two to a power of two. -/
theorem halved_isPowerOfTwo (size capacity : Nat) (h : capacity.isPowerOfTwo) :
    (halved size capacity).isPowerOfTwo := by
  fun_induction halved size capacity with
  | case1 capacity due ih => exact ih (isPowerOfTwo_half h due.1)
  | case2 capacity done => exact h

/-- A valid capacity stays valid when it is halved. -/
theorem Valid.halved {capacity : Nat} (h : Valid capacity) (size : Nat) :
    Valid (halved size capacity) :=
  ⟨halved_isPowerOfTwo size capacity h.isPowerOfTwo,
    Nat.le_trans (halved_le size capacity) h.le_maxSlots⟩

/-- A capacity of which a quarter is in use is kept. -/
theorem halved_of_enough {size capacity : Nat} (enough : capacity / sparseness ≤ size) :
    halved size capacity = capacity := by
  rw [halved, if_neg fun due => Nat.not_lt_of_le enough due.2]

/-- Halving stops early enough: the capacity before would still have been sparse. -/
theorem lt_half_halved {size capacity : Nat} (due : size < capacity / sparseness) :
    2 ≤ halved size capacity ∧ size < halved size capacity / 2 := by
  fun_induction halved size capacity with
  | case1 capacity h ih =>
    by_cases again : size < capacity / 2 / sparseness
    · exact ih again
    · rw [halved_of_enough (Nat.le_of_not_lt again)]
      have quarter := h.2
      simp only [sparseness] at quarter
      omega
  | case2 capacity h =>
    simp only [sparseness] at due h
    omega

/-- After halving, at most three quarters of the capacity are unused, unless it is very small. -/
theorem halved_le_four_mul (size : Nat) {capacity : Nat} (h : capacity.isPowerOfTwo) :
    halved size capacity ≤ 4 * max 1 size := by
  have quarter := halved_div_le size capacity
  simp only [sparseness] at quarter
  obtain ⟨k, power⟩ := halved_isPowerOfTwo size capacity h
  -- A power of two above 2 is a multiple of 4, so dividing it by 4 loses nothing.
  rcases k with _ | _ | k
  · rw [power]
    omega
  · rw [power]
    omega
  · rw [Nat.pow_succ, Nat.pow_succ] at power
    omega

/-! ## Rounding -/

/-- A rounded capacity is a power of two. -/
theorem rounded_isPowerOfTwo (requested : Nat) : (rounded requested).isPowerOfTwo :=
  doubled_isPowerOfTwo _ _ _ Nat.isPowerOfTwo_one

/-- A rounded capacity has room for what is requested. -/
theorem le_rounded (requested : Nat) : requested ≤ rounded requested := needed_le_doubled _ _ _

/-- Rounding stops at the first power of two that is enough. -/
theorem rounded_le {requested bound : Nat} (power : bound.isPowerOfTwo)
    (enough : requested ≤ bound) : rounded requested ≤ bound :=
  doubled_le _ Nat.isPowerOfTwo_one power (Nat.pos_of_isPowerOfTwo power) enough

/-- A power of two needs no rounding. -/
theorem rounded_of_isPowerOfTwo {capacity : Nat} (h : capacity.isPowerOfTwo) :
    rounded capacity = capacity :=
  Nat.le_antisymm (rounded_le h (Nat.le_refl _)) (le_rounded capacity)

/-- A valid capacity needs no rounding. -/
theorem rounded_of_valid {capacity : Nat} (h : Valid capacity) : rounded capacity = capacity :=
  rounded_of_isPowerOfTwo h.isPowerOfTwo

/-- A request for at most `maxSlots` slots is rounded up to a valid capacity. -/
theorem rounded_valid {requested : Nat} (h : requested ≤ maxSlots) : Valid (rounded requested) :=
  ⟨rounded_isPowerOfTwo requested, rounded_le maxSlots_isPowerOfTwo h⟩

end Tabular.Capacity
