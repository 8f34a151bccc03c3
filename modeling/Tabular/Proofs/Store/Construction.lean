import Mathlib.Order.Bounds.Defs
import Tabular.Proofs.Store.Slots
import Tabular.Proofs.Store.SizedStore

/-!
# What is requested of a store

A construction fails for requests past `largest`, for which the next power of two is no size, and
for those that take more bytes than can be asked for (`construct_eq`). Otherwise the capacities are
the least powers of two that are enough.

Nothing holds the capacities of the start down to `maxSlots`. An axis for which more slots are
requested fills as many as it has, and slots from `slotNumbers` on have no number of their own
(`construct_limits`).
-/

namespace Tabular

/-! ## Requests -/

namespace Capacity

variable {requested : Nat}

/-- A request is rounded to the least power of two that is enough. -/
theorem rounded_isLeast (requested : Nat) :
    IsLeast {c | c.isPowerOfTwo ∧ max 1 requested ≤ c} (rounded requested) := by
  have power := rounded_isPowerOfTwo requested
  refine ⟨⟨power, Nat.max_le.2 ⟨Nat.pos_of_isPowerOfTwo power, le_rounded requested⟩⟩, ?_⟩
  rintro c ⟨power, enough⟩
  exact rounded_le power (Nat.le_trans (Nat.le_max_right _ _) enough)

end Capacity

/-! ## Filling an axis -/

namespace Axis

variable {a b : Axis} {position slot needed capacity : Nat}

/-- A set without slots has none. -/
theorem not_mem_of_size_eq_zero {set : SlotSet} (none : set.size = 0) (slot : Nat) :
    slot ∉ set := by
  have empty : set.isEmpty = true := by
    rw [Std.TreeSet.isEmpty_eq_size_eq_zero, none]
    rfl
  exact Std.TreeSet.isEmpty_iff_forall_not_mem.1 empty slot

/-- Without released slots all that were handed out are of positions. -/
theorem Assigned.highWater_eq_size (h : a.Assigned) (none : a.released.size = 0) :
    a.highWater = a.size := by
  rw [← h.size_add_size, h.size_active, none, Nat.add_zero]

/-- Without released slots the active ones are the first. -/
theorem Assigned.mem_active_iff_lt (h : a.Assigned) (none : a.released.size = 0) :
    slot ∈ a.active ↔ slot < a.size := by
  rw [← h.highWater_eq_size none, h.lt_highWater_iff]
  exact ⟨.inl, fun either => either.resolve_right (not_mem_of_size_eq_zero none slot)⟩

/-- There is room up to the limit. -/
theorem exists_reserve (fits : needed ≤ max Capacity.maxSlots a.capacity) :
    ∃ b, a.reserve needed = some b := by
  unfold reserve
  split
  · exact ⟨a, rfl⟩
  · unfold Capacity.grown?
    rw [if_neg (by omega)]
    exact ⟨_, rfl⟩

/-- A position can be inserted into an empty axis as far out as the limit allows, and all slots up
to it are active then, if they have numbers of their own. -/
theorem exists_insert (fits : position < max Capacity.maxSlots capacity)
    (few : min capacity (position + 1) ≤ Capacity.slotNumbers) :
    ∃ b slot c, extend { capacity } position = some b ∧ b.insert position = some (slot, c) ∧
      c.active.size = position + 1 ∧ ∀ slot, slot ∈ c.active ↔ slot < position + 1 := by
  have start := assigned_empty capacity
  have few' : min capacity position ≤ Capacity.slotNumbers := by omega
  obtain ⟨room, reserved⟩ := exists_reserve (a := { capacity }) (Nat.le_of_lt fits)
  -- The axis is extended: there is room, so this does not fail.
  cases extended : extend { capacity } position with
  | none => cases reserved.symm.trans ((start.extend_eq_none_iff few').1 extended).2
  | some b =>
    obtain ⟨assigned, size, room', reserved', same⟩ := start.of_extend few' extended
    have few := min_capacity_le_of_reserve few reserved'
    obtain ⟨grown, rfl, le, -⟩ := exists_capacity_of_reserve reserved'
    have size : b.size = position := size.trans (Nat.zero_max position)
    have same : b.capacity = grown := same
    have le : capacity ≤ grown := le
    have none : b.released.size = 0 := Nat.le_zero.1 (grown_extend extended).1.released_le
    have fits : b.size + 1 ≤ max Capacity.maxSlots b.capacity := by omega
    obtain ⟨room, reserved⟩ := exists_reserve fits
    -- So is the room for one more.
    cases inserted : b.insert position with
    | none => cases reserved.symm.trans ((assigned.insert_eq_none_iff position).1 inserted)
    | some result =>
      obtain ⟨slot, c⟩ := result
      have inside : position ≤ b.size := Nat.le_of_eq size.symm
      obtain ⟨assigned', size', -⟩ := assigned.of_insert inside (by omega) inserted
      have none' : c.released.size = 0 :=
        Nat.le_zero.1 (none ▸ (grown_insert inside inserted).released_le)
      rw [size] at size'
      refine ⟨b, slot, c, rfl, inserted, assigned'.size_active.trans size', fun k => ?_⟩
      rw [← size', assigned'.mem_active_iff_lt none']

/-- The first slot without a number is taken when there are as many positions as numbers. -/
theorem Assigned.insertSized_excess (h : a.Assigned) (none : a.released.size = 0)
    (size : a.size = Capacity.slotNumbers) (more : Capacity.slotNumbers < a.capacity)
    (position : Nat) : a.insertSized position = .error .slot := by
  have mark := (h.highWater_eq_size none).trans size
  have lowest : a.lowestFree = a.highWater := by
    rcases a.lowestFree_cases with ⟨eq, -⟩ | ⟨released, -⟩
    · exact eq
    · exact absurd released (not_mem_of_size_eq_zero none _)
  have failed : a.allocateSized = .error .slot := by
    unfold allocateSized
    dsimp only
    rw [lowest, mark, if_neg (Nat.not_le_of_lt more), if_pos rfl]
    rfl
  have enough : a.reserve (Capacity.slotNumbers + 1) = some a := if_pos more
  have counted : Size.sumSized Capacity.slotNumbers 1 = .ok (Capacity.slotNumbers + 1) :=
    Size.sumSized_eq (Nat.le_refl _) (by decide)
  unfold insertSized
  rw [size, counted, Excess.ok_bind, reserveSized_eq, Excess.ok_bind, enough]
  dsimp only
  rw [failed]
  rfl

/-- An empty axis can be extended to as many positions as there are numbers, but not to one more. -/
theorem exists_extendSized (more : Capacity.slotNumbers < capacity) :
    ∃ b, extendSized { capacity } Capacity.slotNumbers = .ok (some b) ∧
      b.insertSized Capacity.slotNumbers = .error .slot := by
  have start := assigned_empty capacity
  have empty : size { capacity } = 0 := rfl
  have fits : size { capacity } + Capacity.slotNumbers ≤ capacity := by
    rw [empty, Nat.zero_add]
    exact Nat.le_of_lt more
  have few : min capacity (size { capacity } + Capacity.slotNumbers) ≤ Capacity.slotNumbers := by
    rw [empty, Nat.zero_add]
    exact Nat.min_le_right _ _
  obtain ⟨b, appended⟩ := start.exists_append (Nat.le_of_eq (Nat.zero_add _)) fits
  obtain ⟨assigned, same, counted, -⟩ := start.of_append few appended
  rw [empty, Nat.zero_add] at counted
  have none : b.released.size = 0 := Nat.le_zero.1 (of_append appended).2.2
  refine ⟨b, ?_, assigned.insertSized_excess none counted (same ▸ more) _⟩
  have enough : reserve { capacity } Capacity.slotNumbers = some { capacity } :=
    if_pos (Nat.le_of_lt more)
  have numbered := start.appendSized few
  unfold extendSized
  rw [empty, if_neg (by decide), reserveSized_eq, Excess.ok_bind, enough]
  exact numbered.trans (congrArg Except.ok appended)

end Axis

/-! ## Construction -/

namespace Store

variable {α : Type}

/-- The most rows for which room can be asked for. -/
def mostRows : Nat := 0x400000000000000

/-- The most columns for whose positions room can be asked for. -/
def mostColumns : Nat := 0x800000000000000

/-- A capacity is rounded exactly if no more than the largest power of two is requested. -/
theorem round_eq (requested : Nat) :
    round requested = if requested ≤ Capacity.largest then .ok (Capacity.rounded requested)
      else .error .rounding := by
  unfold round Capacity.rounded?
  simp only [Capacity.rounded_le_max_iff]
  by_cases le : requested ≤ Capacity.largest
  · rw [if_pos le, if_pos le]
  · rw [if_neg le, if_neg le]

/-- Room is asked for several things one after the other, and the fault is the same for all. -/
theorem askFor_bind (bytes count : Nat) (rest : Except ConstructionFault Unit) :
    (askFor bytes count >>= fun _ => rest)
      = if bytes * count ≤ maxBytes then rest else .error .bytes := by
  unfold askFor
  split
  · rfl
  · rfl

/-- The room that can be asked for is that of `mostRows` rows, of `mostColumns` positions of columns
and, for the cells of a row, of `maxBytes` bytes. The positions of the rows take less than the
rows. -/
theorem askForCapacities_eq (cellBytes rows columns : Nat) :
    askForCapacities cellBytes rows columns =
      if rows ≤ Capacity.largest ∧ columns ≤ Capacity.largest then
        if rows ≤ mostRows ∧ columns ≤ mostColumns ∧
            cellBytes * Capacity.rounded columns ≤ maxBytes then .ok ()
        else .error .bytes
      else .error .rounding := by
  have room : rowBytes * Capacity.rounded rows ≤ maxBytes ↔ rows ≤ mostRows :=
    Capacity.mul_rounded_le_iff ⟨58, rfl⟩ (by decide) (by decide)
  have positions (requested : Nat) :
      slotBytes * Capacity.rounded requested ≤ maxBytes ↔ requested ≤ mostColumns :=
    Capacity.mul_rounded_le_iff ⟨59, rfl⟩ (by decide) (by decide)
  have fewer : mostRows ≤ mostColumns := by decide
  unfold askForCapacities
  rw [round_eq, round_eq]
  by_cases hr : rows ≤ Capacity.largest
  · by_cases hc : columns ≤ Capacity.largest
    · rw [if_pos hr, if_pos hc, if_pos ⟨hr, hc⟩]
      show (askFor rowBytes (Capacity.rounded rows) >>= fun _ =>
        askFor cellBytes (Capacity.rounded columns) >>= fun _ =>
          askFor slotBytes (Capacity.rounded rows) >>= fun _ =>
            askFor slotBytes (Capacity.rounded columns)) = _
      rw [askFor_bind, askFor_bind, askFor_bind, askFor]
      simp only [room, positions]
      by_cases few : rows ≤ mostRows
      · rw [if_pos few, if_pos (Nat.le_trans few fewer), ← ite_and]
        refine if_congr ?_ rfl rfl
        rw [and_iff_right few, and_comm]
      · rw [if_neg few, if_neg fun fits => few fits.1]
    · have sizes : ¬ (rows ≤ Capacity.largest ∧ columns ≤ Capacity.largest) := fun both => hc both.2
      rw [if_pos hr, if_neg hc, if_neg sizes]
      rfl
  · have sizes : ¬ (rows ≤ Capacity.largest ∧ columns ≤ Capacity.largest) := fun both => hr both.1
    rw [if_neg hr, if_neg sizes]
    rfl

/-- A construction fails with what asking for the room fails with. -/
theorem construct_eq (cellBytes rows columns : Nat) :
    (construct cellBytes rows columns : Except ConstructionFault (Store α)) =
      if rows ≤ Capacity.largest ∧ columns ≤ Capacity.largest then
        if rows ≤ mostRows ∧ columns ≤ mostColumns ∧
            cellBytes * Capacity.rounded columns ≤ maxBytes then .ok (withCapacity rows columns)
        else .error .bytes
      else .error .rounding := by
  rw [construct, askForCapacities_eq, apply_ite (Except.map _), apply_ite (Except.map _)]
  rfl

/-! ## Every request -/

/-- What is requested for an axis. -/
def requested (rows columns : Nat) : Line → Nat
  | .row => rows
  | .column => columns

/-- The insertion of an empty line. -/
def insertEmpty (position : Nat) : Line → Edit α
  | .row => .insertRow position []
  | .column => .insertColumn position []

/-- Both axes start with their rounded requests. -/
theorem axis_withCapacity (rows columns : Nat) (line : Line) :
    (withCapacity rows columns : Store α).axis line
      = { capacity := Capacity.rounded (requested rows columns line) } := by
  cases line <;> rfl

/-- Each axis of a store within its limits is within that of its request. -/
theorem Within.axis {rows columns : Nat} {s : Store α}
    (h : s.Within (Capacity.limit rows) (Capacity.limit columns)) (line : Line) :
    (s.axis line).Within (Capacity.limit (requested rows columns line)) := by
  cases line with
  | row => exact h.rows
  | column => exact h.columns

section Insertion

variable {s : Store α} {b c : Axis} {row column slot : Nat} {excess : Excess}

/-- A line without values is inserted when its axis has been extended and a slot is free. -/
theorem rows_insertRow_nil (extended : s.rows.extend row = some b)
    (inserted : b.insert row = some (slot, c)) : (s.insertRow row []).2.rows = c := by
  have room : s.extendRows row = some (s.withRows b) := congrArg (Option.map s.withRows) extended
  unfold insertRow
  rw [room]
  dsimp only
  rw [rows_withRows, inserted]
  exact rows_withRows _ c

/-- A column without values is inserted when its axis has been extended and a slot is free. -/
theorem columns_insertColumn_nil (extended : s.columns.extend column = some b)
    (inserted : b.insert column = some (slot, c)) : (s.insertColumn column []).2.columns = c := by
  have room : s.extendColumns column = some (s.withColumns b) :=
    congrArg (Option.map s.withColumns) extended
  unfold insertColumn
  rw [room]
  dsimp only
  rw [columns_withColumns, inserted]
  exact columns_withColumns _ c

/-- An excess on the axis is one of the insertion. -/
theorem insertRowSized_excess (extended : s.rows.extendSized row = .ok (some b))
    (failed : b.insertSized row = .error excess) (values : List α) :
    s.insertRowSized row values = .error excess := by
  have room : s.extendRowsSized row = .ok (some (s.withRows b)) := by
    unfold extendRowsSized
    rw [extended]
    rfl
  unfold insertRowSized
  rw [room, Excess.ok_bind]
  dsimp only
  rw [rows_withRows, failed]
  rfl

/-- An excess on the columns is one of the insertion of a column. -/
theorem insertColumnSized_excess (extended : s.columns.extendSized column = .ok (some b))
    (failed : b.insertSized column = .error excess) (values : List α) :
    s.insertColumnSized column values = .error excess := by
  have room : s.extendColumnsSized column = .ok (some (s.withColumns b)) := by
    unfold extendColumnsSized
    rw [extended]
    rfl
  unfold insertColumnSized
  rw [room, Excess.ok_bind]
  dsimp only
  rw [columns_withColumns, failed]
  rfl

/-- A run ends with the excess of its first edit. -/
theorem runSized_excess {e : Edit α} (failed : s.applySized e = .error excess)
    (edits : List (Edit α)) : s.runSized (e :: edits) = .error excess := by
  unfold runSized
  rw [List.foldlM_cons, failed]
  rfl

end Insertion

/-- An empty line that is inserted into an empty store fills the slots up to its position, if these
have numbers of their own. -/
theorem axis_insertEmpty {rows columns position : Nat} {line : Line}
    (fits : position < Capacity.limit (requested rows columns line))
    (few : min (Capacity.rounded (requested rows columns line)) (position + 1)
      ≤ Capacity.slotNumbers) :
    let a := ((withCapacity rows columns : Store α).run [insertEmpty position line]).axis line
    a.active.size = position + 1 ∧ ∀ slot, slot ∈ a.active ↔ slot < position + 1 := by
  intro a
  obtain ⟨b, slot, c, extended, inserted, filled⟩ := Axis.exists_insert fits few
  have eq : a = c := by
    cases line with
    | row => exact rows_insertRow_nil extended inserted
    | column => exact columns_insertColumn_nil extended inserted
  rwa [eq]

/-- With more slots than numbers, an empty line can be inserted too far out. -/
theorem runSized_insertEmpty {rows columns : Nat} {line : Line}
    (more : Capacity.slotNumbers < Capacity.rounded (requested rows columns line)) :
    (withCapacity rows columns : Store α).runSized [insertEmpty Capacity.slotNumbers line]
      = .error .slot := by
  obtain ⟨b, extended, failed⟩ := Axis.exists_extendSized more
  refine runSized_excess ?_ []
  cases line with
  | row =>
    unfold insertEmpty
    rw [applySized, insertRowSized_excess extended failed]
    rfl
  | column =>
    unfold insertEmpty
    rw [applySized, insertColumnSized_excess extended failed]
    rfl

/-- More slots than `maxSlots` can become active on an axis if more are requested. -/
theorem exists_lt_size_active {rows columns : Nat} {line : Line}
    (more : Capacity.maxSlots < requested rows columns line) :
    ∃ edits, Capacity.maxSlots
      < (((withCapacity rows columns : Store α).run edits).axis line).active.size := by
  have fits : Capacity.maxSlots < Capacity.limit (requested rows columns line) :=
    Nat.lt_of_lt_of_le (Nat.lt_of_lt_of_le more (Capacity.le_rounded _)) (Nat.le_max_right _ _)
  have few : min (Capacity.rounded (requested rows columns line)) (Capacity.maxSlots + 1)
      ≤ Capacity.slotNumbers := Nat.le_trans (Nat.min_le_right _ _) (by decide)
  refine ⟨[insertEmpty Capacity.maxSlots line], ?_⟩
  rw [(axis_insertEmpty fits few).1]
  exact Nat.lt_succ_self _

/-- Every run stays within the numbers exactly if no more slots than numbers are requested. -/
theorem runSized_eq_iff (rows columns : Nat) :
    (∀ edits, (withCapacity rows columns : Store α).runSized edits
        = .ok ((withCapacity rows columns).run edits)) ↔
      ∀ line, requested rows columns line ≤ Capacity.slotNumbers := by
  constructor
  · intro sized line
    refine Nat.le_of_not_lt fun more => ?_
    have more := Nat.lt_of_lt_of_le more (Capacity.le_rounded _)
    cases (runSized_insertEmpty more).symm.trans (sized [insertEmpty Capacity.slotNumbers line])
  · intro few edits
    exact (within_withCapacity (few .row) (few .column)).runSized edits

/-- What the construction guarantees for any request. It fails where a power of two is no size or
where something takes more bytes than can be asked for, and otherwise each capacity is the least
power of two that is enough. More than `maxSlots` slots become active in some run if more are
requested. Every run stays within the numbers if no more than `slotNumbers` are requested for either
axis, and only then; in that case the slots that can become active are those up to the limit, which
is `maxSlots` or the capacity of the start. -/
theorem construct_limits (cellBytes rows columns : Nat) :
    let start : Store α := withCapacity rows columns
    let requested := requested rows columns
    (construct cellBytes rows columns =
        if rows ≤ Capacity.largest ∧ columns ≤ Capacity.largest then
          if rows ≤ mostRows ∧ columns ≤ mostColumns ∧
              cellBytes * Capacity.rounded columns ≤ maxBytes then .ok start
          else .error .bytes
        else .error .rounding) ∧
      (∀ line,
        IsLeast {c | c.isPowerOfTwo ∧ max 1 (requested line) ≤ c} (start.axis line).capacity) ∧
      (∀ line, Capacity.maxSlots < requested line →
        ∃ edits, Capacity.maxSlots < ((start.run edits).axis line).active.size) ∧
      ((∀ edits, start.runSized edits = .ok (start.run edits)) ↔
        ∀ line, requested line ≤ Capacity.slotNumbers) ∧
      ((∀ line, requested line ≤ Capacity.slotNumbers) → ∀ line,
        (∀ edits, ((start.run edits).axis line).active.size ≤ Capacity.limit (requested line)) ∧
          ∀ slot, (∃ edits s, start.runSized edits = .ok s ∧ slot ∈ (s.axis line).active) ↔
            slot < Capacity.limit (requested line)) := by
  intro start requested
  have sized := runSized_eq_iff (α := α) rows columns
  refine ⟨construct_eq cellBytes rows columns, fun line => ?_,
    fun line more => exists_lt_size_active more, sized, fun few line => ?_⟩
  · rw [axis_withCapacity]
    exact Capacity.rounded_isLeast _
  · have within (edits : List (Edit α)) :
        ((start.run edits).axis line).Within (Capacity.limit (requested line)) :=
      ((within_withCapacity (few .row) (few .column)).run edits).axis line
    refine ⟨fun edits => ?_, fun slot => ⟨?_, fun lt => ?_⟩⟩
    · rw [(within edits).size_active]
      exact (within edits).size_le
    · rintro ⟨edits, s, run, active⟩
      cases (sized.2 few edits).symm.trans run
      have below := ((within edits).lt_highWater_iff slot).2 (.inl active)
      exact Nat.lt_of_lt_of_le below
        (Nat.le_trans (within edits).highWater_le (within edits).capacity.le_limit)
    · have numbers : Capacity.rounded (requested line) ≤ Capacity.slotNumbers :=
        Capacity.rounded_le Capacity.slotNumbers_isPowerOfTwo (few line)
      obtain ⟨-, filled⟩ := axis_insertEmpty (α := α) lt (Nat.le_trans (Nat.min_le_left _ _) numbers)
      exact ⟨[insertEmpty slot line], _, sized.2 few _, (filled slot).2 (Nat.lt_succ_self slot)⟩

/-- One row more than there can be, one past the largest power of two, and one past `maxSlots`. -/
theorem construct_limits_past :
    (construct 24 (mostRows + 1) 1 : Except ConstructionFault (Store Nat)) = .error .bytes ∧
      (construct 24 (Capacity.largest + 1) 1 : Except ConstructionFault (Store Nat))
        = .error .rounding ∧
      (let rows := Capacity.maxSlots + 1
      let start : Store Nat := withCapacity rows 1
      construct 24 rows 1 = .ok start ∧
        (∃ edits, Capacity.maxSlots < ((start.run edits).axis .row).active.size) ∧
        ∃ edits s, start.runSized edits = .ok s ∧ Capacity.maxSlots ∈ (s.axis .row).active) := by
  have cells : 24 * Capacity.rounded 1 ≤ maxBytes := by
    rw [Capacity.rounded_of_isPowerOfTwo Nat.isPowerOfTwo_one]
    decide
  obtain ⟨constructed, -, slots, -, active⟩ :=
    construct_limits (α := Nat) 24 (Capacity.maxSlots + 1) 1
  refine ⟨(construct_limits 24 _ 1).1.trans ?_, (construct_limits 24 _ 1).1.trans ?_,
    constructed.trans ?_, slots .row (Nat.lt_succ_self _), ?_⟩
  · rw [if_pos (by decide), if_neg fun fits => absurd fits.1 (by decide)]
  · rw [if_neg fun sizes => absurd sizes.1 (by decide)]
  · rw [if_pos (by decide), if_pos ⟨by decide, by decide, cells⟩]
  · have few : ∀ line, requested (Capacity.maxSlots + 1) 1 line ≤ Capacity.slotNumbers := by
      rintro (_ | _) <;> decide
    refine ((active few .row).2 Capacity.maxSlots).2 ?_
    exact Nat.lt_of_lt_of_le (Capacity.le_rounded _) (Nat.le_max_right _ _)

end Store

end Tabular
