import Tabular.Search

/-!
# Sorted indexes

An index holds a list of values and, beside it, the positions of these values in ascending order of
value. Equal values stand in the order of writing, the latest first. A query is two binary searches
in the ordered positions. Inserting and removing renumber the positions behind the edited one.

A null is `none` of an index over `Option α`. It is below every value.
-/

namespace Tabular

/-- Values with their positions in order of value. -/
structure SortedIndex (α : Type u) where
  /-- The values by position. -/
  values : Array α := #[]
  /-- The positions, by ascending value. -/
  order : Array Nat := #[]

namespace SortedIndex

variable {α : Type u}

/-- The index of no values. -/
def empty : SortedIndex α := {}

instance : Inhabited (SortedIndex α) := ⟨empty⟩

/-- The number of values. -/
def size (x : SortedIndex α) : Nat := x.values.size

/-- Whether there are no values. -/
def isEmpty (x : SortedIndex α) : Bool := x.values.isEmpty

/-- The value at a position. -/
def get? (x : SortedIndex α) (position : Nat) : Option α := x.values[position]?

/-- The values by position. -/
def toList (x : SortedIndex α) : List α := x.values.toList

/-- Positions with their values, in ascending order of value. -/
def sorted (x : SortedIndex α) : List (Nat × α) :=
  x.order.toList.filterMap fun position => x.values[position]?.map fun value => (position, value)

variable [Ord α]

/-! ## Bounds -/

/-- Whether the value at a position compares with `value` in one of the ways that `accept` says. -/
def comparesAt (x : SortedIndex α) (value : α) (accept : Ordering → Bool) (position : Nat) : Bool :=
  x.values[position]?.any fun other => accept (compare other value)

/-- The number of leading positions in the order whose values are below `value`. -/
def lowerBound (x : SortedIndex α) (value : α) : Nat :=
  partitionPoint (x.comparesAt value Ordering.isLT) x.order

/-- The number of leading positions in the order whose values are at most `value`. -/
def upperBound (x : SortedIndex α) (value : α) : Nat :=
  partitionPoint (x.comparesAt value Ordering.isLE) x.order

/-- The last place in the order whose value is below `value`. -/
def lastBelow? (x : SortedIndex α) (value : α) : Option Nat :=
  match x.lowerBound value with
  | 0 => none
  | place + 1 => some place

/-- The positions at the places `start` to `stop - 1` of the order. -/
def slice (x : SortedIndex α) (start stop : Nat) : List Nat := (x.order.extract start stop).toList

/-- The positions that hold `value`, as they stand in the order. -/
def run (x : SortedIndex α) (value : α) : List Nat :=
  x.slice (x.lowerBound value) (x.upperBound value)

/-- The place in the order of a position. -/
def place? (x : SortedIndex α) (position : Nat) : Option Nat :=
  x.values[position]?.bind fun value =>
    ((x.run value).idxOf? position).map (x.lowerBound value + ·)

/-! ## Queries -/

/-- The positions that hold `value`, ascending. -/
def positionsOf (x : SortedIndex α) (value : α) : List Nat := (x.run value).mergeSort (· ≤ ·)

/-- The lowest position that holds `value`. -/
def firstPosition? (x : SortedIndex α) (value : α) : Option Nat := (x.run value).min?

/-- The highest position that holds `value`. -/
def lastPosition? (x : SortedIndex α) (value : α) : Option Nat := (x.run value).max?

/-- Whether some position holds `value`. -/
def contains (x : SortedIndex α) (value : α) : Bool := !(x.run value).isEmpty

/-- The positions of the values above `value`, in order of value. -/
def above (x : SortedIndex α) (value : α) : List Nat := x.slice (x.upperBound value) x.order.size

/-- The positions of the values below `value`, in order of value. -/
def below (x : SortedIndex α) (value : α) : List Nat :=
  match x.lastBelow? value with
  | some place => x.slice 0 (place + 1)
  | none => []

/-- The positions of the values from `low` to `high`, in order of value, if there are any. -/
def between? (x : SortedIndex α) (low high : α) : Option (List Nat) :=
  let start := match x.lastBelow? low with
    | some place => place + 1
    | none => 0
  let stop := x.upperBound high
  if stop ≤ start then none else some (x.slice start stop)

/-! ## Edits -/

/-- Enters a position into the order, in front of the positions of equal values. -/
def enter (x : SortedIndex α) (position : Nat) (value : α) : SortedIndex α :=
  { x with order := x.order.insertIdxIfInBounds (x.lowerBound value) position }

/-- Appends a value. -/
def add (x : SortedIndex α) (value : α) : SortedIndex α :=
  { x with values := x.values.push value }.enter x.size value

/-- Appends values one by one. -/
def addAll (x : SortedIndex α) (values : List α) : SortedIndex α := values.foldl add x

/-- The index of a list of values. -/
def ofList (values : List α) : SortedIndex α := empty.addAll values

/-- Inserts a value in front of a position. There is no insertion past the end. -/
def insert? (x : SortedIndex α) (position : Nat) (value : α) : Option (SortedIndex α) :=
  if position ≤ x.size then
    let order := x.order.map fun p => if position ≤ p then p + 1 else p
    some ({ values := x.values.insertIdxIfInBounds position value, order : SortedIndex α }.enter
      position value)
  else none

/-- Replaces the value at a position and returns the old one. -/
def set (x : SortedIndex α) (position : Nat) (value : α) : Option α × SortedIndex α :=
  match x.values[position]?, x.place? position with
  | some old, some place =>
    let order := x.order.eraseIdxIfInBounds place
    (some old, { values := x.values.setIfInBounds position value, order : SortedIndex α }.enter
      position value)
  | _, _ => (none, x)

/-- Removes the value at a position and returns it. -/
def removeAt (x : SortedIndex α) (position : Nat) : Option α × SortedIndex α :=
  match x.values[position]?, x.place? position with
  | some old, some place =>
    let order := (x.order.eraseIdxIfInBounds place).map fun p => if position < p then p - 1 else p
    (some old, { values := x.values.eraseIdxIfInBounds position, order })
  | _, _ => (none, x)

/-- Removes the first occurrence of a value, and says whether there was one. -/
def remove (x : SortedIndex α) (value : α) : Bool × SortedIndex α :=
  match x.firstPosition? value with
  | some position =>
    let (removed, x) := x.removeAt position
    (removed.isSome, x)
  | none => (false, x)

end SortedIndex

end Tabular
