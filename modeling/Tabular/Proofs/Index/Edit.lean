import Tabular.SortedIndex

/-!
# Edits of an index

The edits of an index as data, with what each answers, and their effect on an index and on a ledger.
A ledger keeps the values by position, as a plain list, and beside each the time when it was last
written. A list of edits is performed in order.
-/

namespace Tabular.SortedIndex

/-- An edit of an index. -/
inductive Edit (α : Type u)
  | add (value : α)
  | addAll (values : List α)
  | insert (position : Nat) (value : α)
  | set (position : Nat) (value : α)
  | remove (value : α)
  | removeAt (position : Nat)
  | clear
deriving Repr, DecidableEq

/-- What an edit of an index answers. -/
inductive Edit.Answer (α : Type u)
  /-- The value that was at the position, if there was one. -/
  | content (content : Option α)
  /-- Whether the value was found. -/
  | found (found : Bool)
  /-- There is no insertion past the end. -/
  | refused
  | done
deriving Repr, DecidableEq

/-! ## Indexes -/

section Indexes

variable {α : Type u} [Ord α]

/-- Performs an edit. A refused one leaves the index as it is. -/
def apply (x : SortedIndex α) : Edit α → Edit.Answer α × SortedIndex α
  | .add value => (.done, x.add value)
  | .addAll values => (.done, x.addAll values)
  | .insert position value =>
    match x.insert? position value with
    | some inserted => (.done, inserted)
    | none => (.refused, x)
  | .set position value => (x.set position value).map .content id
  | .remove value => (x.remove value).map .found id
  | .removeAt position => (x.removeAt position).map .content id
  | .clear => (.done, empty)

/-- The index after a list of edits. -/
def applyAll (x : SortedIndex α) (edits : List (Edit α)) : SortedIndex α :=
  edits.foldl (fun x edit => (x.apply edit).2) x

end Indexes

/-! ## Ledgers -/

/-- A value with the time of its last writing. -/
structure Stamped (α : Type u) where
  value : α
  stamp : Nat
deriving Repr, DecidableEq

/-- Stamped values by position. -/
structure Ledger (α : Type u) where
  entries : List (Stamped α) := []
  /-- The time of the next writing. -/
  clock : Nat := 0
deriving Repr, DecidableEq

namespace Ledger

variable {α : Type u}

/-- The time when the value at a position was last written. -/
def stampAt (l : Ledger α) (position : Nat) : Nat :=
  (l.entries[position]?.map Stamped.stamp).getD 0

/-- The ledger of some entries, one of them written just now. -/
def tick (l : Ledger α) (entries : List (Stamped α)) : Ledger α := { entries, clock := l.clock + 1 }

/-- Appends a value. -/
def add (l : Ledger α) (value : α) : Ledger α := l.tick (l.entries ++ [⟨value, l.clock⟩])

/-- Inserts a value in front of a position. Past the end this inserts nothing. -/
def insert (l : Ledger α) (position : Nat) (value : α) : Ledger α :=
  l.tick (l.entries.insertIdx position ⟨value, l.clock⟩)

/-- Replaces the value at a position, if there is one. -/
def set (l : Ledger α) (position : Nat) (value : α) : Ledger α :=
  l.tick (l.entries.set position ⟨value, l.clock⟩)

/-- Removes the value at a position, if there is one. -/
def removeAt (l : Ledger α) (position : Nat) : Ledger α :=
  { l with entries := l.entries.eraseIdx position }

/-- The stamp of a position is that of its entry. -/
theorem stampAt_of_found {l : Ledger α} {position : Nat} {entry : Stamped α}
    (found : l.entries[position]? = some entry) : l.stampAt position = entry.stamp := by
  unfold stampAt
  rw [found]
  rfl

/-- Values appended one by one are written in the order of their positions. -/
theorem map_stamp_foldl_add (values : List α) {l : Ledger α}
    (numbered : l.entries.map Stamped.stamp = List.range l.clock) :
    (values.foldl add l).entries.map Stamped.stamp = List.range (values.foldl add l).clock := by
  induction values generalizing l with
  | nil => exact numbered
  | cons value values ih =>
    have appended : (l.add value).entries = l.entries ++ [⟨value, l.clock⟩] := rfl
    refine ih ?_
    rw [appended, List.map_append, numbered]
    exact List.range_succ.symm

/-- Where the entries are stamped in order, the stamp of a position is the position. -/
theorem stampAt_of_numbered {l : Ledger α} {position : Nat}
    (numbered : l.entries.map Stamped.stamp = List.range l.clock)
    (lt : position < l.entries.length) : l.stampAt position = position := by
  have length := congrArg List.length numbered
  rw [List.length_map, List.length_range] at length
  unfold stampAt
  rw [← List.getElem?_map, numbered, List.getElem?_range (length ▸ lt)]
  rfl

variable [Ord α]

/-- Removes the first occurrence of a value, if there is one. -/
def remove (l : Ledger α) (value : α) : Ledger α :=
  match l.entries.findIdx? fun entry => (compare entry.value value).isEq with
  | some position => l.removeAt position
  | none => l

/-- Performs an edit. -/
def apply (l : Ledger α) : Edit α → Ledger α
  | .add value => l.add value
  | .addAll values => values.foldl add l
  | .insert position value => l.insert position value
  | .set position value => l.set position value
  | .remove value => l.remove value
  | .removeAt position => l.removeAt position
  | .clear => { l with entries := [] }

/-- The ledger after a list of edits. -/
def applyAll (l : Ledger α) (edits : List (Edit α)) : Ledger α := edits.foldl apply l

end Ledger

end Tabular.SortedIndex
