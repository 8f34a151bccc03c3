import Std.Data.TreeSet.Basic
import Tabular.Store.Capacity

/-!
# One axis of a store

An axis maps logical positions to the slots that back them. Inserting or removing a position moves
entries of this map only, and the slots stay where they are. A slot below the high-water mark is
active, when a position maps to it, or released; the slots from the mark up have not been handed out
since the axis was last packed. A free slot is handed out lowest first.

A slot is a size, but the sets of active and released slots keep numbers of 32 bits. What is handed
out or given back is looked up there under its number.

Packing moves every active slot below the size of the axis. It pairs the highest active slot with
the lowest inactive one until the two scans meet, and it returns these moves, so that the owner of
the slots can move what they hold.
-/

namespace Tabular

/-- A set of slots, kept under their numbers. -/
abbrev SlotSet := Std.TreeSet Nat

/-- The map from the logical positions of one axis to slots, and the state of the slots. -/
structure Axis where
  /-- The slot behind each logical position. -/
  slots : Array Nat := #[]
  /-- The slots in use. -/
  active : SlotSet := ∅
  /-- The slots below the high-water mark that are no longer in use. -/
  released : SlotSet := ∅
  /-- One past the highest slot handed out. -/
  highWater : Nat := 0
  /-- The number of slots that back the axis. -/
  capacity : Nat

namespace Axis

/-- The number of logical positions. -/
def size (a : Axis) : Nat := a.slots.size

/-! ## Handing out slots -/

/-- The lowest slot that is not active. -/
def lowestFree (a : Axis) : Nat := a.released.min?.getD a.highWater

/-- Takes the lowest free slot, if it is within the capacity. -/
def allocate (a : Axis) : Option (Nat × Axis) :=
  let slot := a.lowestFree
  let number := Capacity.number slot
  if a.capacity ≤ slot then none
  else if slot = a.highWater then
    some (slot, { a with highWater := a.highWater + 1, active := a.active.insert number })
  else
    some (slot, { a with released := a.released.erase number, active := a.active.insert number })

/-- Gives a slot back. If its number is not active, nothing changes. -/
def release (a : Axis) (slot : Nat) : Axis :=
  let number := Capacity.number slot
  if a.active.contains number then
    { a with active := a.active.erase number, released := a.released.insert number }
  else a

/-- Makes room for `needed` slots, unless that is more than an axis can have. -/
def reserve (a : Axis) (needed : Nat) : Option Axis :=
  if needed ≤ a.capacity then some a
  else (Capacity.grown? a.capacity needed).map fun capacity => { a with capacity }

/-! ## Positions -/

/-- Appends `count` positions, each on the lowest free slot. -/
def append (a : Axis) : Nat → Option Axis
  | 0 => some a
  | count + 1 =>
    match a.allocate with
    | none => none
    | some (slot, a) => append { a with slots := a.slots.push slot } count

/-- Appends positions until there are at least `count`. -/
def extend (a : Axis) (count : Nat) : Option Axis :=
  if count ≤ a.size then some a
  else (a.reserve count).bind fun a => a.append (count - a.size)

/-- Inserts a position on the lowest free slot, in front of `position`, and returns the slot. -/
def insert (a : Axis) (position : Nat) : Option (Nat × Axis) :=
  (a.reserve (a.size + 1)).bind fun a =>
    a.allocate.map fun (slot, a) => (slot, { a with slots := a.slots.insertIdxIfInBounds position slot })

/-- Removes a position and releases its slot. -/
def remove (a : Axis) (position : Nat) : Axis :=
  match a.slots[position]? with
  | none => a
  | some slot =>
    let a := a.release slot
    { a with slots := a.slots.eraseIdxIfInBounds position }

/-! ## Packing -/

/-- What a slot holds is to be moved to another slot. -/
structure Move where
  source : Nat
  target : Nat
deriving Repr, DecidableEq

/-- Pairs the highest active slot below `high` with the lowest inactive slot from `low` up, until
the two scans meet. What an active set keeps and what is below that is its own number. -/
def pairs (active : SlotSet) (low high : Nat) : List Move :=
  if low < high then
    if active.contains low then pairs active (low + 1) high
    else if active.contains (high - 1) then ⟨high - 1, low⟩ :: pairs active (low + 1) (high - 1)
    else pairs active low (high - 1)
  else []
termination_by high - low

/-- The capacity after packing: halved while less than a quarter of it is in use. -/
def packedCapacity (a : Axis) : Nat := Capacity.halved a.size a.capacity

/-- Packing is due when it would lower the capacity. -/
def packingDue (a : Axis) : Bool := a.packedCapacity != a.capacity

/-- The moves that bring every active slot below the size of the axis. -/
def packingMoves (a : Axis) : List Move := pairs a.active 0 a.highWater

/-- Where a slot's contents are after the moves. -/
def relocate (moves : List Move) (slot : Nat) : Nat :=
  match moves.find? (·.source == slot) with
  | some move => move.target
  | none => slot

/-- The axis after its packing moves, at the lower capacity. -/
def pack (a : Axis) : Axis where
  slots := a.slots.map (relocate a.packingMoves)
  active := a.packingMoves.foldl (fun set move => (set.erase move.source).insert move.target) a.active
  released := ∅
  highWater := a.size
  capacity := a.packedCapacity

end Axis

end Tabular
