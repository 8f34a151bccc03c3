import Mathlib
import Tabular.SharedTable

/-!
# Handles of one table

A program that shares a table makes steps, each through a handle that is live then. What the steps
answer is said by the live handles and by the table with all writes so far (`Step.answer`), and the
shared table answers just that (`Agrees.perform`).

A second account of a shared table is a counted reference to a table behind a lock (`Guarded`),
where every read and write enters the lock and leaves it again. All that is used of the lock is that
a free one can be entered and that leaving frees it, also when the holder has failed
(`Lock.Releases`). The answers are the same (`Guarded.Agrees.perform`), so no step ever has to wait.

The whole of Mathlib is imported for the equations of core functions by which a run on a fixed input
is evaluated.
-/

namespace Tabular

universe u v w

variable {α : Type u} {β : Type v}

namespace SharedTable

/-! ## Steps and what they answer -/

/-- A step of a program that shares a table. -/
inductive Step (α : Type u) (β : Type v)
  | clone (handle : Nat)
  | drop (handle : Nat)
  /-- Edits the table by work that may fail after some of its edits. -/
  | write (handle : Nat) (work : Table α → Outcome β × Table α)
  | read (handle : Nat) (work : Table α → β)
  /-- Takes the table out, if no other handle is live. -/
  | take (handle : Nat)

/-- What a step answers. -/
inductive Answer (α : Type u) (β : Type v)
  /-- The number of the new handle. -/
  | handle (number : Nat)
  | dropped
  | outcome (outcome : Outcome β)
  | result (result : β)
  /-- The table, if it was taken out. -/
  | table (table : Option (Table α))

/-- The handles of a program: those that are live, and the number of the next one. -/
structure Handles where
  live : Finset Nat
  next : Nat

/-- One live handle. -/
def Handles.first : Handles := ⟨{0}, 1⟩

namespace Step

/-- The handle through which a step is made. -/
def handle : Step α β → Nat
  | clone handle | drop handle | write handle _ | read handle _ | take handle => handle

/-- The table after a step. Only a write changes it, however it ends. -/
def leaves (t : Table α) : Step α β → Table α
  | write _ work => (work t).2
  | _ => t

/-- What a step answers at the live handles and the table. -/
def answer (h : Handles) (t : Table α) : Step α β → Answer α β
  | clone _ => .handle h.next
  | drop _ => .dropped
  | write _ work => .outcome (work t).1
  | read _ work => .result (work t)
  | take handle => .table (if h.live = {handle} then some t else none)

/-- Makes steps one after the other, for as long as they can be made. -/
def all {σ : Type w} (perform : Step α β → σ → Option (Answer α β × σ)) :
    List (Step α β) → σ → Option (List (Answer α β) × σ)
  | [], s => some ([], s)
  | step :: steps, s =>
    (perform step s).bind fun (answer, s) =>
      (all perform steps s).map fun (answers, s) => (answer :: answers, s)

end Step

/-- The handles after a step. -/
def Handles.after (h : Handles) : Step α β → Handles
  | .clone _ => ⟨insert h.next h.live, h.next + 1⟩
  | .drop handle => { h with live := h.live.erase handle }
  | .take handle => if h.live = {handle} then { h with live := ∅ } else h
  | _ => h

/-- Taking the table through the only live handle leaves no handle. -/
theorem Handles.after_take_of_only {h : Handles} {handle : Nat} (only : h.live = {handle}) :
    h.after (.take handle : Step α β) = { h with live := ∅ } := if_pos only

/-- Taking the table through a handle that is not the only one does nothing. -/
theorem Handles.after_take_of_others {h : Handles} {handle : Nat} (others : h.live ≠ {handle}) :
    h.after (.take handle : Step α β) = h := if_neg others

/-- The handles after a list of steps. -/
def Handles.afterAll (h : Handles) (steps : List (Step α β)) : Handles := steps.foldl after h

/-- Every step is made through a handle that is live then. -/
def Handles.Live (h : Handles) : List (Step α β) → Prop
  | [] => True
  | step :: steps => step.handle ∈ h.live ∧ (h.after step).Live steps

/-- The table with all writes of the steps, in their order. -/
def written (t : Table α) (steps : List (Step α β)) : Table α := steps.foldl Step.leaves t

/-- What the steps answer, one after the other. -/
def answers (h : Handles) (t : Table α) : List (Step α β) → List (Answer α β)
  | [] => []
  | step :: steps => step.answer h t :: answers (h.after step) (step.leaves t) steps

/-- Whatever answers each step in this way answers every program so. -/
theorem all_of_agrees {σ : Type w} {perform : Step α β → σ → Option (Answer α β × σ)}
    {Agrees : Handles → Table α → σ → Prop}
    (one : ∀ h t s step, Agrees h t s → step.handle ∈ h.live →
      ∃ s', perform step s = some (step.answer h t, s') ∧ Agrees (h.after step) (step.leaves t) s')
    {h : Handles} {t : Table α} {s : σ} {steps : List (Step α β)} (agrees : Agrees h t s)
    (live : h.Live steps) :
    ∃ s', Step.all perform steps s = some (answers h t steps, s') ∧
      Agrees (h.afterAll steps) (written t steps) s' := by
  induction steps generalizing h t s with
  | nil => exact ⟨s, rfl, agrees⟩
  | cons step steps ih =>
    obtain ⟨s₁, performed, agrees₁⟩ := one h t s step agrees live.1
    obtain ⟨s₂, later, agrees₂⟩ := ih agrees₁ live.2
    refine ⟨s₂, ?_, agrees₂⟩
    rw [Step.all, performed]
    exact congrArg (Option.map fun (answers, s) => (step.answer h t :: answers, s)) later

/-! ## The shared table -/

/-- Makes a step. -/
def perform : Step α β → SharedTable α → Option (Answer α β × SharedTable α)
  | .clone handle, s => (s.clone handle).map fun (number, s) => (.handle number, s)
  | .drop handle, s => (s.drop handle).map fun s => (.dropped, s)
  | .write handle work, s => (s.write handle work).map fun (outcome, s) => (.outcome outcome, s)
  | .read handle work, s => (s.read handle work).map fun result => (.result result, s)
  | .take handle, s => (s.intoTable handle).map fun (table, s) => (.table table, s)

/-- The shared table has these live handles and this table. -/
structure Agrees (h : Handles) (t : Table α) (s : SharedTable α) : Prop where
  table : s.table = t
  isLive_iff : ∀ handle, s.isLive handle = true ↔ handle ∈ h.live
  size_live : s.live.size = h.next
  handleCount : s.handleCount = h.live.card

variable {h : Handles} {t : Table α} {s : SharedTable α} {handle : Nat}

/-- A handle that was never made is not live. -/
theorem isLive_eq (s : SharedTable α) (handle : Nat) :
    s.isLive handle = s.live[handle]?.getD false := Array.getD_eq_getD_getElem? ..

/-- The first handle of a table is live, and no other. -/
theorem agrees_ofTable (t : Table α) : Agrees .first t (ofTable t) where
  table := rfl
  isLive_iff handle := by
    rw [isLive_eq, ofTable, Handles.first, Finset.mem_singleton]
    cases handle <;> simp
  size_live := rfl
  handleCount := rfl

/-- A new handle is not one of those before. -/
theorem Agrees.next_not_mem (a : Agrees h t s) : h.next ∉ h.live := by
  rw [← a.isLive_iff, isLive_eq, ← a.size_live, Array.getElem?_eq_none (Nat.le_refl _)]
  exact Bool.false_ne_true

/-- A live handle can be cloned, and the clone is the next handle. -/
theorem Agrees.clone (a : Agrees h t s) (live : handle ∈ h.live) :
    ∃ s', s.clone handle = some (h.next, s') ∧
      Agrees (h.after (.clone handle : Step α β)) t s' := by
  refine ⟨{ s with live := s.live.push true }, ?_, a.table, fun other => ?_, ?_, ?_⟩
  · rw [SharedTable.clone, if_pos ((a.isLive_iff handle).2 live), a.size_live]
  · rw [isLive_eq, Array.getElem?_push, Handles.after, Finset.mem_insert, ← a.isLive_iff, isLive_eq,
      a.size_live]
    split
    · next same => simp [same]
    · next ne => simp [ne]
  · exact (Array.size_push true).trans (congrArg (· + 1) a.size_live)
  · rw [Handles.after, Finset.card_insert_of_notMem a.next_not_mem, ← a.handleCount]
    exact Array.count_push_self

/-- A live handle that is given up is gone, and no other. -/
theorem Agrees.giveUp (a : Agrees h t s) (live : handle ∈ h.live) :
    Agrees { h with live := h.live.erase handle } t
      { s with live := s.live.setIfInBounds handle false } := by
  have set : s.live[handle]? = some true := by
    have isLive := (a.isLive_iff handle).2 live
    rw [isLive_eq] at isLive
    cases found : s.live[handle]? with
    | none => rw [found] at isLive; cases isLive
    | some flag => rw [found] at isLive; exact congrArg some isLive
  obtain ⟨inside, value⟩ := Array.getElem?_eq_some_iff.1 set
  refine ⟨a.table, fun other => ?_, Array.size_setIfInBounds.trans a.size_live, ?_⟩
  · rw [isLive_eq, Finset.mem_erase, ← a.isLive_iff, isLive_eq, Array.getElem?_setIfInBounds]
    split
    · next same =>
      subst same
      simp [inside]
    · next ne => simp [Ne.symm ne]
  · rw [Finset.card_erase_of_mem live, ← a.handleCount]
    show (s.live.setIfInBounds handle false).count true = s.live.count true - 1
    rw [Array.setIfInBounds, dif_pos inside, Array.count_set inside, value]
    rfl

/-- A handle is the only live one when the count is one. -/
theorem Handles.card_eq_one_iff {h : Handles} (live : handle ∈ h.live) :
    h.live.card = 1 ↔ h.live = {handle} := by
  constructor
  · intro one
    obtain ⟨only, eq⟩ := Finset.card_eq_one.1 one
    rw [eq, Finset.mem_singleton] at live
    rw [eq, live]
  · intro eq
    rw [eq, Finset.card_singleton]

/-- The last handle gives the table back, and any other is kept with everything else. -/
theorem Agrees.intoTable (a : Agrees h t s) (live : handle ∈ h.live) :
    ∃ s', s.intoTable handle = some (if h.live = {handle} then some t else none, s') ∧
      Agrees (h.after (.take handle : Step α β)) t s' ∧ (h.live ≠ {handle} → s' = s) := by
  have isLive := (a.isLive_iff handle).2 live
  have last := Handles.card_eq_one_iff live
  rw [← a.handleCount] at last
  obtain rfl := a.table
  unfold SharedTable.intoTable
  rw [if_pos isLive]
  by_cases only : h.live = {handle}
  · rw [if_pos (last.2 only), if_pos only, Handles.after_take_of_only only]
    have gone := a.giveUp live
    rw [only, Finset.erase_singleton] at gone
    exact ⟨_, rfl, gone, fun others => absurd only others⟩
  · rw [if_neg (only ∘ last.1), if_neg only, Handles.after_take_of_others only]
    exact ⟨s, rfl, a, fun _ => rfl⟩

/-- A step through a live handle is answered from the live handles and the table. -/
theorem Agrees.perform (step : Step α β) (a : Agrees h t s) (live : step.handle ∈ h.live) :
    ∃ s', perform step s = some (step.answer h t, s') ∧
      Agrees (h.after step) (step.leaves t) s' := by
  have isLive := (a.isLive_iff step.handle).2 live
  unfold SharedTable.perform
  cases step with
  | clone handle =>
    obtain ⟨s', cloned, a'⟩ := a.clone live
    exact ⟨s', congrArg (Option.map _) cloned, a'⟩
  | drop handle =>
    have dropped : s.drop handle = some _ := if_pos isLive
    exact ⟨_, congrArg (Option.map _) dropped, a.giveUp live⟩
  | write handle work =>
    have written : s.write handle work = some ((work t).1, { s with table := (work t).2 }) := by
      rw [← a.table]
      exact if_pos isLive
    exact ⟨_, congrArg (Option.map _) written, rfl, a.isLive_iff, a.size_live, a.handleCount⟩
  | read handle work =>
    have result : s.read handle work = some (work t) := by
      rw [← a.table]
      exact if_pos isLive
    exact ⟨s, congrArg (Option.map _) result, a⟩
  | take handle =>
    obtain ⟨s', taken, a', -⟩ := a.intoTable live
    exact ⟨s', congrArg (Option.map _) taken, a'⟩

end SharedTable

/-! ## A counted reference to a locked table -/

/-- Whether work has failed. -/
def Outcome.isFailed : Outcome β → Bool
  | .finished _ => false
  | .failed _ => true

/-- A lock that many readers or one writer can hold. -/
structure Lock where
  State : Type
  fresh : State
  /-- Enters to read; there is no result while one has to wait. -/
  enterShared : State → Option State
  leaveShared : State → State
  /-- Enters to write; there is no result while one has to wait. -/
  enterExclusive : State → Option State
  /-- Leaves after writing, which may have failed. -/
  leaveExclusive : Bool → State → State
  /-- Nobody holds the lock. -/
  Free : State → Prop

/-- A free lock can be entered, and it is free again when it is left, also after a failure. -/
structure Lock.Releases (l : Lock) : Prop where
  fresh : l.Free l.fresh
  shared : ∀ state, l.Free state →
    ∃ held, l.enterShared state = some held ∧ l.Free (l.leaveShared held)
  exclusive : ∀ state, l.Free state →
    ∃ held, l.enterExclusive state = some held ∧ ∀ failed, l.Free (l.leaveExclusive failed held)

/-- What the handles of a table refer to. -/
structure Guarded (l : Lock) (α : Type u) where
  /-- The number of handles that refer to it. -/
  count : Nat
  /-- The number that the next handle gets. -/
  next : Nat
  lock : l.State
  table : Table α

namespace Guarded

open SharedTable

variable {l : Lock} {g : Guarded l α} {h : Handles} {t : Table α}

/-- The guarded table of one handle, with a lock that nobody holds. -/
def ofTable (l : Lock) (table : Table α) : Guarded l α := ⟨1, 1, l.fresh, table⟩

/-- Reads the table while the lock is held. -/
def read (g : Guarded l α) (work : Table α → β) : Option (β × Guarded l α) :=
  (l.enterShared g.lock).map fun held => (work g.table, { g with lock := l.leaveShared held })

/-- Edits the table while the lock is held. Failing work leaves the lock on its way out. -/
def write (g : Guarded l α) (work : Table α → Outcome β × Table α) :
    Option (Outcome β × Guarded l α) :=
  (l.enterExclusive g.lock).map fun held =>
    let (outcome, table) := work g.table
    (outcome, { g with lock := l.leaveExclusive outcome.isFailed held, table })

/-- Takes the table out, if there is only one reference to it. -/
def intoTable (g : Guarded l α) : Option (Table α) × Guarded l α :=
  if g.count = 1 then (some g.table, { g with count := 0 }) else (none, g)

/-- Makes a step. -/
def perform : Step α β → Guarded l α → Option (Answer α β × Guarded l α)
  | .clone _, g => some (.handle g.next, { g with count := g.count + 1, next := g.next + 1 })
  | .drop _, g => some (.dropped, { g with count := g.count - 1 })
  | .write _ work, g => (g.write work).map fun (outcome, g) => (.outcome outcome, g)
  | .read _ work, g => (g.read work).map fun (result, g) => (.result result, g)
  | .take _, g => some (g.intoTable.map .table id)

/-- As many references as there are live handles, to this table, behind a free lock. -/
structure Agrees (h : Handles) (t : Table α) (g : Guarded l α) : Prop where
  table : g.table = t
  free : l.Free g.lock
  count : g.count = h.live.card
  next : g.next = h.next
  lt_next : ∀ handle ∈ h.live, handle < h.next

/-- A guarded table that was just made has one handle, and its lock is free. -/
theorem agrees_ofTable (releases : l.Releases) (t : Table α) :
    Agrees .first t (ofTable l t) where
  table := rfl
  free := releases.fresh
  count := rfl
  next := rfl
  lt_next handle mem := by
    rw [Handles.first, Finset.mem_singleton] at mem
    rw [mem]
    exact Nat.zero_lt_one

/-- Reading answers with the table that the handles share, and the lock is free again. -/
theorem Agrees.read (a : Agrees h t g) (releases : l.Releases) (work : Table α → β) :
    ∃ g', g.read work = some (work t, g') ∧ Agrees h t g' := by
  obtain ⟨held, entered, free⟩ := releases.shared g.lock a.free
  refine ⟨{ g with lock := l.leaveShared held }, ?_, ⟨a.table, free, a.count, a.next, a.lt_next⟩⟩
  rw [Guarded.read, entered, a.table]
  rfl

/-- Also work that fails leaves its table and a free lock. -/
theorem Agrees.write (a : Agrees h t g) (releases : l.Releases)
    (work : Table α → Outcome β × Table α) :
    ∃ g', g.write work = some ((work t).1, g') ∧ Agrees h (work t).2 g' := by
  obtain ⟨held, entered, free⟩ := releases.exclusive g.lock a.free
  refine ⟨{ g with lock := l.leaveExclusive (work t).1.isFailed held, table := (work t).2 }, ?_,
    ⟨rfl, free _, a.count, a.next, a.lt_next⟩⟩
  rw [Guarded.write, entered, a.table]
  rfl

/-- The table is taken out through the last handle only, and otherwise nothing changes. -/
theorem Agrees.intoTable {handle : Nat} (a : Agrees h t g) (live : handle ∈ h.live) :
    ∃ g', g.intoTable = (if h.live = {handle} then some t else none, g') ∧
      Agrees (h.after (.take handle : Step α β)) t g' ∧ (h.live ≠ {handle} → g' = g) := by
  have last := Handles.card_eq_one_iff live
  rw [← a.count] at last
  obtain rfl := a.table
  unfold Guarded.intoTable
  by_cases only : h.live = {handle}
  · rw [if_pos (last.2 only), if_pos only, Handles.after_take_of_only only]
    exact ⟨_, rfl, ⟨a.table, a.free, rfl, a.next, fun _ mem => absurd mem (Finset.notMem_empty _)⟩,
      fun others => absurd only others⟩
  · rw [if_neg (only ∘ last.1), if_neg only, Handles.after_take_of_others only]
    exact ⟨g, rfl, a, fun _ => rfl⟩

/-- A step never waits, and it is answered from the live handles and the table. -/
theorem Agrees.perform (releases : l.Releases) (step : Step α β) (a : Agrees h t g)
    (live : step.handle ∈ h.live) :
    ∃ g', perform step g = some (step.answer h t, g') ∧
      Agrees (h.after step) (step.leaves t) g' := by
  cases step with
  | clone handle =>
    have fresh : h.next ∉ h.live := fun mem => Nat.lt_irrefl _ (a.lt_next _ mem)
    refine ⟨{ g with count := g.count + 1, next := g.next + 1 }, ?_, a.table, a.free, ?_, ?_, ?_⟩
    · rw [Guarded.perform, a.next]
      rfl
    · rw [Handles.after, Finset.card_insert_of_notMem fresh, ← a.count]
    · exact congrArg (· + 1) a.next
    · intro other mem
      rcases Finset.mem_insert.1 mem with rfl | mem
      · exact Nat.lt_succ_self _
      · exact Nat.lt_succ_of_lt (a.lt_next other mem)
  | drop handle =>
    refine ⟨{ g with count := g.count - 1 }, rfl, a.table, a.free, ?_, a.next, fun other mem => ?_⟩
    · exact (congrArg (· - 1) a.count).trans (Finset.card_erase_of_mem live).symm
    · exact a.lt_next other (Finset.mem_of_mem_erase mem)
  | write handle work =>
    obtain ⟨g', written, a'⟩ := a.write releases work
    exact ⟨g', congrArg (Option.map _) written, a'⟩
  | read handle work =>
    obtain ⟨g', result, a'⟩ := a.read releases work
    exact ⟨g', congrArg (Option.map _) result, a'⟩
  | take handle =>
    obtain ⟨g', taken, a', -⟩ := a.intoTable live
    exact ⟨g', by rw [Guarded.perform, taken]; rfl, a'⟩

end Guarded

/-! ## One table -/

namespace SharedTable

/-- Whatever steps are made through handles that are live then, from one handle of a table on: all
of them are answered, and the lock is free afterwards, also after writes that failed. Every live
handle then reads the table with all writes so far and counts the live handles. It gives the table
back exactly when it is the only one that is live; otherwise everything stays. -/
theorem handles_act_as_one_table {l : Lock} (releases : l.Releases) (t : Table α)
    {steps : List (Step α β)} (live : Handles.first.Live steps) :
    let h := Handles.first.afterAll steps
    let now := written t steps
    ∃ s g, Step.all perform steps (ofTable t) = some (answers .first t steps, s) ∧
      Step.all Guarded.perform steps (Guarded.ofTable l t) = some (answers .first t steps, g) ∧
      l.Free g.lock ∧
      ∀ handle ∈ h.live,
        (s.handleCount = h.live.card ∧ g.count = h.live.card) ∧
        (∀ {γ : Type w} (work : Table α → γ), s.read handle work = some (work now) ∧
          ∃ g', g.read work = some (work now, g') ∧ l.Free g'.lock) ∧
        (h.live = {handle} →
          (∃ s', s.intoTable handle = some (some now, s') ∧ s'.handleCount = 0) ∧
            ∃ g', g.intoTable = (some now, g') ∧ g'.count = 0) ∧
        (h.live ≠ {handle} → s.intoTable handle = some (none, s) ∧ g.intoTable = (none, g)) := by
  intro h now
  obtain ⟨s, made, a⟩ := all_of_agrees (fun _ _ _ step a => a.perform step) (agrees_ofTable t) live
  obtain ⟨g, made', b⟩ := all_of_agrees (fun _ _ _ step b => b.perform releases step)
    (Guarded.agrees_ofTable releases t) live
  refine ⟨s, g, made, made', b.free, fun handle mem =>
    ⟨⟨a.handleCount, b.count⟩, fun work => ⟨?_, ?_⟩, fun only => ⟨?_, ?_⟩, fun others => ⟨?_, ?_⟩⟩⟩
  · rw [read, if_pos ((a.isLive_iff handle).2 mem), a.table]
  · obtain ⟨g', result, b'⟩ := b.read releases work
    exact ⟨g', result, b'.free⟩
  · obtain ⟨s', taken, a', -⟩ := a.intoTable (β := β) mem
    rw [if_pos only] at taken
    rw [Handles.after_take_of_only only] at a'
    exact ⟨s', taken, a'.handleCount⟩
  · obtain ⟨g', taken, b', -⟩ := b.intoTable (β := β) mem
    rw [if_pos only] at taken
    rw [Handles.after_take_of_only only] at b'
    exact ⟨g', taken, b'.count⟩
  · obtain ⟨s', taken, -, same⟩ := a.intoTable (β := β) mem
    rw [if_neg others, same others] at taken
    exact taken
  · obtain ⟨g', taken, -, same⟩ := b.intoTable (β := β) mem
    rw [if_neg others, same others] at taken
    exact taken

end SharedTable

/-- A lock that counts its readers. -/
def Lock.counting : Lock where
  State := Nat × Bool
  fresh := (0, false)
  enterShared state := if state.2 then none else some (state.1 + 1, false)
  leaveShared state := (state.1 - 1, state.2)
  enterExclusive state := if state = (0, false) then some (0, true) else none
  leaveExclusive _ state := (state.1, false)
  Free state := state = (0, false)

/-- The lock that counts its readers is free again after every reading and writing. -/
theorem Lock.releases_counting : Lock.counting.Releases where
  fresh := rfl
  shared state free := by
    cases free
    exact ⟨(1, false), rfl, rfl⟩
  exclusive state free := by
    cases free
    exact ⟨(0, true), rfl, fun _ => rfl⟩

namespace SharedTable

/-- A write that fails after its edit, another one, a refused attempt to take the table out, and the
end of the second handle. -/
def relay : List (Step Nat (Option Nat)) :=
  [.clone 0, .write 1 fun t => (.failed "writer failed", (t.set 0 0 1).2),
    .write 0 fun t => (.finished (t.set 0 0 2).1, (t.set 0 0 2).2), .take 0, .drop 1]

/-- Both representations answer alike, the failed write keeps its edit only until the next one, and
the last handle takes the table out. -/
theorem handles_act_as_one_table_relay :
    Lock.counting.Releases ∧ Handles.first.Live relay ∧
      ∃ s g, Step.all perform relay (ofTable .empty) = some (answers .first .empty relay, s) ∧
        Step.all Guarded.perform relay (Guarded.ofTable .counting .empty)
          = some (answers .first .empty relay, g) ∧
        g.lock = (0, false) ∧ s.handleCount = 1 ∧ g.count = 1 ∧
        s.read 0 (·.cell 0 0) = some (some 2) ∧
        ∃ s', s.intoTable 0 = some (some (written .empty relay), s') ∧ s'.handleCount = 0 := by
  have live : Handles.first.Live relay :=
    ⟨by decide, by decide, by decide, by decide, by decide, trivial⟩
  obtain ⟨s, g, made, made', free, each⟩ :=
    handles_act_as_one_table Lock.releases_counting .empty live
  obtain ⟨⟨count, count'⟩, reads, last, -⟩ := each 0 (by decide)
  have cell : (written .empty relay).cell 0 0 = some 2 := by
    unfold relay
    cbv
  refine ⟨Lock.releases_counting, live, s, g, made, made', free, count, count', ?_, ?_⟩
  · rw [(reads _).1, cell]
  · exact (last (by decide)).1

end SharedTable

end Tabular
