import Mathlib.Algebra.Group.Nat.Defs
import Tabular.Proofs.Store.Limits
import Tabular.Proofs.Store.PackingLoop

/-!
# Sized operations of an axis

Sizes are counted in 64 bits, slots are kept in sets of 32-bit numbers, and the loops that look for
a capacity end only if the capacity comes to what they compare it with. Here the operations of an
axis are written again with each of this made explicit: a sum or a product that is no size, a slot
that is no 32-bit number, and a loop that goes on for more rounds than a size has bits are each an
`Excess`.

None of them is met while the capacity is at most `slotNumbers`, and the sized operation does what
the plain one does. Slots are below the capacity, and a capacity that is doubled is smaller than
what is needed.
-/

namespace Tabular

/-- A number that is too large. -/
inductive Excess
  /-- A sum or a product is no size. -/
  | size
  /-- A slot is no 32-bit number. -/
  | slot
  /-- A loop goes on for too many rounds. -/
  | rounds
deriving Repr, DecidableEq

/-- What is not too large goes on. -/
@[simp] theorem Excess.ok_bind {β γ : Type} (x : β) (f : β → Except Excess γ) :
    (Except.ok x >>= f) = f x := rfl

/-! ## Arithmetic -/

namespace Size

/-- A sum, which has to be a size. -/
def sumSized (m n : Nat) : Except Excess Nat := if m + n ≤ max then .ok (m + n) else .error .size

/-- A product, which has to be a size. -/
def productSized (m n : Nat) : Except Excess Nat :=
  if m * n ≤ max then .ok (m * n) else .error .size

/-- A sum of numbers up to 32 bits is a size. -/
theorem sumSized_eq {m n : Nat} (hm : m ≤ 0x100000000) (hn : n ≤ 0x100000000) :
    sumSized m n = .ok (m + n) := by
  refine if_pos ?_
  simp only [max]
  omega

/-- A product of numbers up to 31 bits is a size. -/
theorem productSized_eq {m n : Nat} (hm : m ≤ 0x80000000) (hn : n ≤ 0x80000000) :
    productSized m n = .ok (m * n) := by
  have le : m * n ≤ 0x80000000 * 0x80000000 := Nat.mul_le_mul hm hn
  exact if_pos (Nat.le_trans le (by decide))

end Size

namespace Capacity

/-- The number under which a slot is kept in a set, which has to be the slot itself. -/
def numberSized (slot : Nat) : Except Excess Nat :=
  if slot < slotNumbers then .ok slot else .error .slot

/-- A slot below `slotNumbers` is its own number. -/
theorem numberSized_of_lt {slot : Nat} (lt : slot < slotNumbers) : numberSized slot = .ok slot :=
  if_pos lt

/-- As many rounds as a size has bits. -/
def rounds : Nat := 64

/-- Doubling, in at most so many rounds. -/
def doubledSized : Nat → Nat → Nat → Except Excess Nat
  | 0, capacity, needed => if capacity < needed then .error .rounds else .ok capacity
  | left + 1, capacity, needed =>
    if capacity < needed then do doubledSized left (← Size.productSized 2 capacity) needed
    else .ok capacity

/-- Growing to `needed` slots, of which every doubling has to be a size and which has to end within
its rounds. There is none past `maxSlots`. -/
def grownSized? (current needed : Nat) : Except Excess (Option Nat) :=
  if maxSlots < needed then .ok none
  else return some (← doubledSized rounds (max 1 current) needed)

/-- Halving, in at most so many rounds. -/
def halvedSized : Nat → Nat → Nat → Except Excess Nat
  | 0, size, capacity =>
    if 1 < capacity ∧ size < capacity / sparseness then .error .rounds else .ok capacity
  | left + 1, size, capacity =>
    if 1 < capacity ∧ size < capacity / sparseness then halvedSized left size (capacity / 2)
    else .ok capacity

/-- Rounding to the next power of two, which has to be a size. -/
def roundedSized (requested : Nat) : Except Excess Nat :=
  if rounded requested ≤ Size.max then .ok (rounded requested) else .error .size

/-- Doubling ends within its rounds when these are enough to reach what is needed. -/
theorem doubledSized_eq {left capacity needed : Nat} (pos : 0 < capacity)
    (fits : needed ≤ maxSlots) (enough : needed ≤ 2 ^ left * capacity) :
    doubledSized left capacity needed = .ok (doubled capacity needed pos) := by
  induction left generalizing capacity with
  | zero =>
    rw [doubledSized, doubled, if_neg (by omega), if_neg (by omega)]
  | succ left ih =>
    rw [doubledSized, doubled]
    split
    · next short =>
      have small : capacity ≤ maxSlots := Nat.le_trans (Nat.le_of_lt short) fits
      rw [Size.productSized_eq (by decide) small]
      refine ih (by omega) ?_
      rwa [← Nat.mul_assoc, ← Nat.pow_succ]
    · rfl

/-- Growing is never too large: what is needed is at most `maxSlots`, and so is every capacity that
is doubled. -/
theorem grownSized?_eq (current needed : Nat) :
    grownSized? current needed = .ok (grown? current needed) := by
  unfold grownSized? grown?
  split
  · rfl
  · next fits =>
    have enough : needed ≤ 2 ^ rounds * max 1 current :=
      calc needed ≤ maxSlots := Nat.le_of_not_lt fits
        _ ≤ 2 ^ rounds := by decide
        _ ≤ 2 ^ rounds * max 1 current := Nat.le_mul_of_pos_right _ (by omega)
    rw [doubledSized_eq (by omega) (Nat.le_of_not_lt fits) enough]
    rfl

/-- Halving ends within its rounds when these are enough to reach 1. -/
theorem halvedSized_eq {left size capacity : Nat} (enough : capacity < 2 ^ left) :
    halvedSized left size capacity = .ok (halved size capacity) := by
  induction left generalizing capacity with
  | zero =>
    rw [halvedSized, halved, if_neg (by omega), if_neg (by omega)]
  | succ left ih =>
    rw [halvedSized, halved]
    split
    · exact ih (by omega)
    · rfl

/-- Multiples of a rounded capacity are bounded exactly if no more is requested than the largest
power of two for which they are. -/
theorem mul_rounded_le_iff {factor bound power requested : Nat} (h : power.isPowerOfTwo)
    (fits : factor * power ≤ bound) (most : bound < factor * (2 * power)) :
    factor * rounded requested ≤ bound ↔ requested ≤ power := by
  refine ⟨fun bounded => Nat.le_of_not_lt fun more => ?_, fun le => ?_⟩
  · have above : power < rounded requested := Nat.lt_of_lt_of_le more (le_rounded requested)
    have twice := two_mul_le_of_lt h (rounded_isPowerOfTwo requested) above
    exact Nat.not_lt_of_le (Nat.le_trans (Nat.mul_le_mul_left factor twice) bounded) most
  · exact Nat.le_trans (Nat.mul_le_mul_left factor (rounded_le h le)) fits

/-- The largest size that is a power of two. -/
def largest : Nat := 0x8000000000000000

/-- A rounded capacity is a size exactly if no more than the largest power of two is requested. -/
theorem rounded_le_max_iff (requested : Nat) :
    rounded requested ≤ Size.max ↔ requested ≤ largest := by
  have scaled : 1 * rounded requested ≤ Size.max ↔ requested ≤ largest :=
    mul_rounded_le_iff ⟨63, rfl⟩ (by decide) (by decide)
  rwa [Nat.one_mul] at scaled

/-- A request up to the largest power of two is rounded to a size. -/
theorem roundedSized_of_le {requested : Nat} (le : requested ≤ largest) :
    roundedSized requested = .ok (rounded requested) := if_pos ((rounded_le_max_iff requested).2 le)

end Capacity

namespace Axis

/-! ## The operations -/

/-- The slot behind a position, which has to have a number. -/
def slotSized (a : Axis) (position : Nat) : Except Excess (Option Nat) :=
  match a.slots[position]? with
  | none => .ok none
  | some slot => return some (← Capacity.numberSized slot)

/-- Takes the lowest free slot: one more slot that was handed out has to be counted by a size, and
the slot has to have a number in the sets. -/
def allocateSized (a : Axis) : Except Excess (Option (Nat × Axis)) :=
  let slot := a.lowestFree
  if a.capacity ≤ slot then .ok none
  else if slot = a.highWater then do
    let highWater ← Size.sumSized a.highWater 1
    let number ← Capacity.numberSized slot
    return some (slot, { a with highWater, active := a.active.insert number })
  else do
    let number ← Capacity.numberSized slot
    return some (slot,
      { a with released := a.released.erase number, active := a.active.insert number })

/-- A release, after which the active and the released slots are counted. -/
def releaseSized (a : Axis) (slot : Nat) : Except Excess Axis := do
  let a := a.release (← Capacity.numberSized slot)
  let _ ← Size.sumSized a.active.size a.released.size
  return a

/-- Makes room for `needed` slots, with the doublings of the capacity sized. -/
def reserveSized (a : Axis) (needed : Nat) : Except Excess (Option Axis) :=
  if needed ≤ a.capacity then .ok (some a)
  else return (← Capacity.grownSized? a.capacity needed).map fun capacity => { a with capacity }

/-- Appends `count` positions, each with its allocation sized. -/
def appendSized (a : Axis) : Nat → Except Excess (Option Axis)
  | 0 => .ok (some a)
  | count + 1 => do
    match ← a.allocateSized with
    | none => return none
    | some (slot, a) => appendSized { a with slots := a.slots.push slot } count

/-- Appends positions until there are at least `count`, with the room and the allocations sized. -/
def extendSized (a : Axis) (count : Nat) : Except Excess (Option Axis) :=
  if count ≤ a.size then .ok (some a)
  else do
    match ← a.reserveSized count with
    | none => return none
    | some a => a.appendSized (count - a.size)

/-- Inserts a position: one more position has to be counted by a size, and the room and the
allocation are sized. -/
def insertSized (a : Axis) (position : Nat) : Except Excess (Option (Nat × Axis)) := do
  match ← a.reserveSized (← Size.sumSized a.size 1) with
  | none => return none
  | some a =>
    match ← a.allocateSized with
    | none => return none
    | some (slot, a) =>
      return some (slot, { a with slots := a.slots.insertIdxIfInBounds position slot })

/-- Removes a position, with the release of its slot sized. -/
def removeSized (a : Axis) (position slot : Nat) : Except Excess Axis := do
  let a ← a.releaseSized slot
  return { a with slots := a.slots.eraseIdxIfInBounds position }

/-- The scan for the first inactive slot, each slot looked up under its number. -/
def scanSized (active : SlotSet) (low high : Nat) : Except Excess Nat :=
  if low < high then do
    if active.contains (← Capacity.numberSized low) then
      let _ ← Size.sumSized low 1
      scanSized active (low + 1) high
    else return low
  else return low
termination_by high - low

/-- The moves of the packing loop, from the slot `low` up. -/
def packingMovesSized (low : Nat) (active : SlotSet) : Except Excess (List Move) :=
  match _ : active.max? with
  | none => .ok []
  | some high => do
    let target ← scanSized active low high
    if _ : target < high then
      let _ ← Capacity.numberSized high
      let _ ← Capacity.numberSized target
      return ⟨high, target⟩ :: (← packingMovesSized target (moveActive active ⟨high, target⟩))
    else return []
termination_by active.max?.getD 0
decreasing_by
  rw [‹active.max? = some high›]
  exact max?_moveActive_lt ‹_› ‹_›

/-- The moves of the packing loop and the axis after them, if halving lowers the capacity. -/
def packSized (a : Axis) : Except Excess (Option (List Move × Axis)) := do
  let capacity ← Capacity.halvedSized Capacity.rounds a.size a.capacity
  if capacity = a.capacity then return none
  else
    let moves ← packingMovesSized 0 a.active
    return some (moves,
      { slots := a.slots.map (relocate moves)
        active := moves.foldl moveActive a.active
        highWater := a.size
        capacity })

/-! ## No number is too large -/

variable {a b : Axis} {slot position : Nat}

/-- The slot of a position has a number. -/
theorem Assigned.slotSized (h : a.Assigned) (few : a.capacity ≤ Capacity.slotNumbers)
    (position : Nat) : a.slotSized position = .ok a.slots[position]? := by
  unfold Axis.slotSized
  cases found : a.slots[position]? with
  | none => rfl
  | some slot =>
    have below := (h.lt_highWater_iff slot).2 (.inl (h.active_of_found found))
    have le := h.highWater_le
    dsimp only
    rw [Capacity.numberSized_of_lt (by omega)]
    rfl

/-- The slot that is handed out has to have a number. -/
theorem allocateSized_eq (few : a.lowestFree < a.capacity → a.lowestFree < Capacity.slotNumbers) :
    a.allocateSized = .ok a.allocate := by
  unfold allocateSized allocate
  dsimp only
  split
  · rfl
  · next room =>
    have lt := few (Nat.lt_of_not_le room)
    rw [Capacity.numberSized_of_lt lt, Capacity.number_of_lt lt]
    split
    · simp only [Capacity.slotNumbers] at lt
      rw [Size.sumSized_eq (by omega) (by decide)]
      rfl
    · rfl

/-- All slots that are counted have been handed out. -/
theorem Partitioned.releaseSized (h : a.Partitioned) (few : a.capacity ≤ Capacity.slotNumbers)
    (lt : slot < a.capacity) : a.releaseSized slot = .ok (a.release slot) := by
  have released := h.release slot
  have counted := released.size_add_size
  have le := released.highWater_le
  have same := a.capacity_release slot
  simp only [Capacity.slotNumbers] at few
  unfold Axis.releaseSized
  rw [Capacity.numberSized_of_lt (Nat.lt_of_lt_of_le lt few), Excess.ok_bind]
  dsimp only
  rw [Size.sumSized_eq (by omega) (by omega)]
  rfl

/-- Making room is never too large. -/
theorem reserveSized_eq (a : Axis) (needed : Nat) :
    a.reserveSized needed = .ok (a.reserve needed) := by
  unfold reserveSized reserve
  rw [Capacity.grownSized?_eq]
  split <;> rfl

/-- Appended positions are on slots below their number, so few positions have numbers too. -/
theorem Assigned.appendSized (h : a.Assigned) {count : Nat}
    (few : min a.capacity (a.size + count) ≤ Capacity.slotNumbers) :
    a.appendSized count = .ok (a.append count) := by
  induction count generalizing a with
  | zero => rfl
  | succ count ih =>
    -- The slot is at most the size, and below the capacity: whichever is less bounds its number.
    have lowest := h.lowestFree_le_size
    rw [Axis.appendSized, append, allocateSized_eq (by omega), Excess.ok_bind]
    cases allocated : a.allocate with
    | none => rfl
    | some result =>
      obtain ⟨slot, taken⟩ := result
      have t := h.takes_of_allocate (by omega) allocated
      obtain ⟨assigned, size, -⟩ := t.push h
      have capacity : taken.capacity = a.capacity := t.capacity
      refine ih assigned ?_
      show min taken.capacity ((taken.slots.push slot).size + count) ≤ Capacity.slotNumbers
      omega

section Within

variable {m : Nat} (h : a.Within m)
include h

/-- Extending is never too large within the limit, to any count. -/
theorem Within.extendSized (count : Nat) : a.extendSized count = .ok (a.extend count) := by
  unfold Axis.extendSized Axis.extend
  split
  · rfl
  · rw [reserveSized_eq, Excess.ok_bind]
    cases reserved : a.reserve count with
    | none => rfl
    | some b =>
      have within := h.reserve reserved
      rw [Option.bind_some]
      exact within.appendSized (within.min_capacity_le _)

/-- Inserting is never too large within the limit, at any position. -/
theorem Within.insertSized (position : Nat) :
    a.insertSized position = .ok (a.insert position) := by
  have size := Nat.le_trans h.size_le h.capacity.limit_le
  unfold Axis.insertSized Axis.insert
  rw [Size.sumSized_eq size (by decide), Excess.ok_bind, reserveSized_eq, Excess.ok_bind]
  cases reserved : a.reserve (a.size + 1) with
  | none => rfl
  | some b =>
    have within := (h.reserve reserved).capacity.le_slotNumbers
    dsimp only
    rw [allocateSized_eq fun lt => Nat.lt_of_lt_of_le lt within, Excess.ok_bind, Option.bind_some]
    cases b.allocate with
    | none => rfl
    | some result => rfl

/-- Removing is never too large within the limit. -/
theorem Within.removeSized (found : a.slots[position]? = some slot) :
    a.removeSized position slot = .ok (a.remove position) := by
  have below := (h.lt_highWater_iff slot).2 (.inl (h.active_of_found found))
  have lt := Nat.lt_of_lt_of_le below h.highWater_le
  unfold Axis.removeSized Axis.remove
  rw [h.toPartitioned.releaseSized (h.capacity.le_slotNumbers) lt, found]
  rfl

/-- Packing is decided within as many rounds as a size has bits. -/
theorem Within.halvedSized :
    Capacity.halvedSized Capacity.rounds a.size a.capacity = .ok a.packedCapacity :=
  Capacity.halvedSized_eq (Nat.lt_of_le_of_lt (h.capacity.le_slotNumbers) (by decide))

end Within

/-! ## Packing -/

/-- The scan meets no slot without a number below `slotNumbers`. -/
theorem scanSized_eq (active : SlotSet) {low high : Nat} (few : high ≤ Capacity.slotNumbers) :
    scanSized active low high = .ok (firstInactive active low high) := by
  fun_induction firstInactive active low high with
  | case1 low both ih =>
    have lt := both.1
    simp only [Capacity.slotNumbers] at few
    rw [scanSized, if_pos lt, Capacity.numberSized_of_lt (Nat.lt_of_lt_of_le lt few),
      Excess.ok_bind, if_pos both.2, Size.sumSized_eq (by omega) (by decide)]
    exact ih
  | case2 low stop =>
    rw [scanSized]
    split
    · next lt =>
      rw [Capacity.numberSized_of_lt (Nat.lt_of_lt_of_le lt few), Excess.ok_bind,
        if_neg fun contains => stop ⟨lt, contains⟩]
      rfl
    · rfl

/-- The loop makes the listed moves while the active slots have numbers. -/
theorem packingMovesSized_eq {low bound : Nat} {active : SlotSet}
    (few : bound ≤ Capacity.slotNumbers) (below : ∀ slot, slot ∈ active → slot < bound) :
    packingMovesSized low active = .ok (pairs active low bound) := by
  induction bound using Nat.strongRecOn generalizing low active with
  | ind bound ih =>
    rw [packingMovesSized]
    split
    · next none => rw [pairs_of_none none]
    · next high highest =>
      have mem := (Std.TreeSet.max?_eq_some_iff_mem_and_forall.1 highest).1
      have lt := below high mem
      rw [scanSized_eq active (by omega), Excess.ok_bind, pairs_of_highest highest lt]
      split
      · next met =>
        -- After the round every active slot is below the one that was moved.
        rw [Capacity.numberSized_of_lt (by omega), Excess.ok_bind,
          Capacity.numberSized_of_lt (by omega), Excess.ok_bind,
          ih high lt (by omega) fun slot => lt_of_mem_moveActive highest met]
        rfl
      · rfl

/-- The moves of the packing loop are never too large within the limit. -/
theorem Within.packingMovesSized {m : Nat} (h : a.Within m) :
    packingMovesSized 0 a.active = .ok a.packingMoves := by
  refine packingMovesSized_eq ?_ fun slot active => (h.lt_highWater_iff slot).2 (.inl active)
  exact Nat.le_trans h.highWater_le (h.capacity.le_slotNumbers)

/-- Packing is never too large within the limit. -/
theorem Within.packSized {m : Nat} (h : a.Within m) :
    a.packSized = .ok (if a.packingDue then some (a.packingMoves, a.pack) else none) := by
  unfold Axis.packSized packingDue
  rw [h.halvedSized, Excess.ok_bind]
  by_cases same : a.packedCapacity = a.capacity
  · rw [if_pos same, if_neg (by simp [same])]
    rfl
  · rw [if_neg same, if_pos (by simp [same]), h.packingMovesSized]
    rfl

end Axis

end Tabular
