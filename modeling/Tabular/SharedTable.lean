import Tabular.Table.Basic

/-!
# Shared tables

A table behind a set of handles. A handle can be cloned and dropped. Every live handle reads and
edits the one table, each piece of work on its own from its first step to its last. Work that fails
in the middle keeps the edits that it made, and the table stays usable. The last live handle can
give the table back.
-/

namespace Tabular

/-- How a piece of work on a shared table ended. -/
inductive Outcome (β : Type v)
  | finished (result : β)
  | failed (message : String)
deriving Repr

/-- A table and its handles, numbered in the order of their making. -/
structure SharedTable (α : Type u) where
  table : Table α
  /-- Whether each handle is live. -/
  live : Array Bool := #[true]

namespace SharedTable

variable {α : Type u} {β : Type v}

/-- A shared table with its first handle. -/
def ofTable (table : Table α) : SharedTable α := { table }

/-- Whether a handle is live. -/
def isLive (s : SharedTable α) (handle : Nat) : Bool := s.live.getD handle false

/-- The number of live handles. -/
def handleCount (s : SharedTable α) : Nat := s.live.count true

/-- Makes another handle and returns its number. -/
def clone (s : SharedTable α) (handle : Nat) : Option (Nat × SharedTable α) :=
  if s.isLive handle then some (s.live.size, { s with live := s.live.push true }) else none

/-- Gives a handle up. -/
def drop (s : SharedTable α) (handle : Nat) : Option (SharedTable α) :=
  if s.isLive handle then some { s with live := s.live.setIfInBounds handle false } else none

/-- Reads the table through a handle. -/
def read (s : SharedTable α) (handle : Nat) (work : Table α → β) : Option β :=
  if s.isLive handle then some (work s.table) else none

/-- Edits the table through a handle. The table is what the work leaves, however the work ends. -/
def write (s : SharedTable α) (handle : Nat) (work : Table α → Outcome β × Table α) :
    Option (Outcome β × SharedTable α) :=
  if s.isLive handle then
    let (outcome, table) := work s.table
    some (outcome, { s with table })
  else none

/-- Takes the table out through the last live handle. While there are others the result is empty and
the handle stays. -/
def intoTable (s : SharedTable α) (handle : Nat) : Option (Option (Table α) × SharedTable α) :=
  if s.isLive handle then
    if s.handleCount = 1 then
      some (some s.table, { s with live := s.live.setIfInBounds handle false })
    else some (none, s)
  else none

end SharedTable

end Tabular
