import Tabular.Proofs.Store.CheckedStore

/-!
# The packing loop

Packing as one loop over a changing set of slots. In every round the highest active slot is looked
up in the set and the lowest inactive one is found by a scan that never goes back. While the second
is below the first, the position of the first is set to the second and whoever holds the slots is
told to move what they hold.

The rounds make the moves that `packingMoves` lists (`packLoop_eq`), so the loop ends, it finds a
position for every slot it moves, and it leaves the axis compact (`packLow_compacts`).
-/

namespace Tabular.Axis

variable {β : Type}

/-! ## The loop -/

/-- The first slot from `low` on that is inactive or at least `high`. -/
def firstInactive (active : SlotSet) (low high : Nat) : Nat :=
  if low < high ∧ active.contains low then firstInactive active (low + 1) high else low
termination_by high - low

/-- Where the scan stops before its end, the slot is inactive. -/
theorem not_contains_firstInactive {active : SlotSet} {low high : Nat}
    (lt : firstInactive active low high < high) :
    ¬ active.contains (firstInactive active low high) := by
  fun_induction firstInactive active low high with
  | case1 low h ih => exact ih lt
  | case2 low h => exact fun contains => h ⟨lt, contains⟩

/-- Makes a move: the position of the slot is looked up and set, and the holder is told. -/
def moveBoth (moveSlot : β → Move → Except Fault β)
    (state : (Array Nat × Array (Option Nat)) × β) (move : Move) :
    Except Fault ((Array Nat × Array (Option Nat)) × β) := do
  let positions ← moveChecked state.1 move
  let held ← moveSlot state.2 move
  return (positions, held)

/-- The active slots after a move. -/
def moveActive (active : SlotSet) (move : Move) : SlotSet :=
  (active.erase move.source).insert move.target

/-- When the highest active slot is moved down, every active slot is below it. -/
theorem lt_of_mem_moveActive {active : SlotSet} {high target slot : Nat}
    (highest : active.max? = some high) (lt : target < high)
    (mem : slot ∈ moveActive active ⟨high, target⟩) : slot < high := by
  obtain ⟨-, greatest⟩ := Std.TreeSet.max?_eq_some_iff_mem_and_forall.1 highest
  rcases SlotSet.mem_insert.1 mem with rfl | mem
  · exact lt
  · obtain ⟨ne, mem⟩ := SlotSet.mem_erase.1 mem
    exact Nat.lt_of_le_of_ne (Nat.isLE_compare.1 (greatest slot mem)) ne

/-- When the highest active slot is moved down, the highest one is lower. -/
theorem max?_moveActive_lt {active : SlotSet} {high target : Nat}
    (highest : active.max? = some high) (lt : target < high) :
    (moveActive active ⟨high, target⟩).max?.getD 0 < high := by
  cases found : (moveActive active ⟨high, target⟩).max? with
  | none => exact Nat.lt_of_le_of_lt (Nat.zero_le _) lt
  | some slot =>
    exact lt_of_mem_moveActive highest lt
      (Std.TreeSet.max?_eq_some_iff_mem_and_forall.1 found).1

/-- The move of a round, from the highest active slot to the lowest inactive one. -/
def nextMove (active : SlotSet) (low high : Nat) : Move := ⟨high, firstInactive active low high⟩

/-- The rounds of packing, from the slot `low` up, until the scans meet. -/
def packLoop (moveSlot : β → Move → Except Fault β) (low : Nat) (active : SlotSet)
    (state : (Array Nat × Array (Option Nat)) × β) :
    Except Fault (SlotSet × (Array Nat × Array (Option Nat)) × β) :=
  match _ : active.max? with
  | none => .ok (active, state)
  | some high =>
    if _ : firstInactive active low high < high then
      match moveBoth moveSlot state (nextMove active low high) with
      | .error fault => .error fault
      | .ok state =>
        packLoop moveSlot (firstInactive active low high)
          (moveActive active (nextMove active low high)) state
    else .ok (active, state)
termination_by active.max?.getD 0
decreasing_by
  rw [‹active.max? = some high›]
  exact max?_moveActive_lt ‹_› ‹_›

/-- Packs the active slots below the size of the axis, telling the holder of the slots each move. -/
def packLow (a : Axis) (moveSlot : β → Move → Except Fault β) (held : β) :
    Except Fault (β × Axis) := do
  let owners ← enterOwners a.slots.toList 0 (.replicate a.capacity none)
  let (active, positions, held) ← packLoop moveSlot 0 a.active ((a.slots, owners), held)
  return (held, { a with slots := positions.1, active, released := ∅, highWater := a.size })

/-! ## The rounds make the listed moves -/

section Rounds

variable {active active' : SlotSet} {low high bound : Nat}

/-- Scans that have met pair nothing. -/
theorem pairs_of_le (le : high ≤ low) : pairs active low high = [] := by
  rw [pairs, if_neg (by omega)]

/-- An active lowest slot stays where it is. -/
theorem pairs_of_active_low (lt : low < high) (contains : active.contains low) :
    pairs active low high = pairs active (low + 1) high := by
  rw [pairs, if_pos lt, if_pos contains]

/-- An active highest slot is paired with an inactive lowest one. -/
theorem pairs_of_active_high (le : low ≤ high) (free : ¬ active.contains low)
    (contains : active.contains high) :
    pairs active low (high + 1) = ⟨high, low⟩ :: pairs active (low + 1) high := by
  rw [pairs, if_pos (by omega), if_neg free, Nat.add_sub_cancel, if_pos contains]

/-- An inactive slot at the high end is passed over, whichever scan comes first. -/
theorem pairs_of_inactive_high (inactive : ¬ active.contains high) :
    pairs active low (high + 1) = pairs active low high := by
  induction gap : high - low generalizing low with
  | zero =>
    rw [pairs_of_le (show high ≤ low by omega)]
    by_cases met : high + 1 ≤ low
    · exact pairs_of_le met
    · have same : low = high := by omega
      subst same
      rw [pairs, if_pos (by omega), if_neg inactive, Nat.add_sub_cancel, if_neg inactive,
        pairs_of_le (Nat.le_refl _)]
  | succ gap ih =>
    by_cases contains : active.contains low
    · rw [pairs_of_active_low (by omega) contains, pairs_of_active_low (by omega) contains]
      exact ih (by omega)
    · rw [pairs, if_pos (by omega), if_neg contains, Nat.add_sub_cancel, if_neg inactive]

/-- The moves between two slots depend on the active slots there only. -/
theorem pairs_congr (same : ∀ slot, low ≤ slot → slot < high →
      active.contains slot = active'.contains slot) :
    pairs active low high = pairs active' low high := by
  fun_induction pairs active low high with
  | case1 low high lt contains ih =>
    rw [same low (Nat.le_refl _) lt] at contains
    rw [pairs_of_active_low lt contains]
    exact ih fun slot le => same slot (by omega)
  | case2 low high lt free contains ih =>
    rw [same low (Nat.le_refl _) lt] at free
    rw [same (high - 1) (by omega) (by omega)] at contains
    rw [ih fun slot le lt => same slot (by omega) (by omega)]
    obtain ⟨high, rfl⟩ : ∃ k, high = k + 1 := ⟨high - 1, by omega⟩
    exact (pairs_of_active_high (by omega) free contains).symm
  | case3 low high lt free inactive ih =>
    rw [same (high - 1) (by omega) (by omega)] at inactive
    rw [ih fun slot le lt => same slot le (by omega)]
    obtain ⟨high, rfl⟩ : ∃ k, high = k + 1 := ⟨high - 1, by omega⟩
    exact (pairs_of_inactive_high inactive).symm
  | case4 low high met => exact (pairs_of_le (by omega)).symm

/-- Active slots at the low end are passed over. -/
theorem pairs_firstInactive (le : high ≤ bound) :
    pairs active low bound = pairs active (firstInactive active low high) bound := by
  fun_induction firstInactive active low high with
  | case1 low h ih => rw [pairs_of_active_low (by omega) h.2, ih]
  | case2 low h => rfl

/-- Above the highest active slot there is nothing to move. -/
theorem pairs_of_inactive_from (le : high ≤ bound)
    (inactive : ∀ slot, high ≤ slot → ¬ active.contains slot) :
    pairs active low bound = pairs active low high := by
  induction le with
  | refl => rfl
  | step le ih => rw [pairs_of_inactive_high (inactive _ le), ih]

/-- Without active slots there are no moves. -/
theorem pairs_of_none (none : active.max? = none) : pairs active low bound = [] := by
  rw [Std.TreeSet.max?_eq_none_iff, Std.TreeSet.isEmpty_iff_forall_contains] at none
  rw [pairs_of_inactive_from (Nat.zero_le bound) fun slot _ => by simp [none slot]]
  exact pairs_of_le (Nat.zero_le low)

/-- What is to be moved when the highest active slot is known. -/
theorem pairs_of_highest (highest : active.max? = some high) (lt : high < bound) :
    pairs active low bound =
      if firstInactive active low high < high then
        nextMove active low high ::
          pairs (moveActive active (nextMove active low high)) (firstInactive active low high) high
      else [] := by
  unfold nextMove
  obtain ⟨mem, greatest⟩ := Std.TreeSet.max?_eq_some_iff_mem_and_forall.1 highest
  have contains : active.contains high = true := Std.TreeSet.contains_iff_mem.2 mem
  have inactive : ∀ slot, high + 1 ≤ slot → ¬ active.contains slot := by
    intro slot le contains
    have := Nat.isLE_compare.1 (greatest slot (Std.TreeSet.contains_iff_mem.1 contains))
    omega
  rw [pairs_of_inactive_from lt inactive, pairs_firstInactive (Nat.le_succ high)]
  have free := @not_contains_firstInactive active low high
  generalize firstInactive active low high = target at free
  split
  -- The scan from below found a slot, and the one from above has to go nowhere.
  · next below =>
    have filled : (moveActive active ⟨high, target⟩).contains target = true :=
      Std.TreeSet.contains_iff_mem.2 (SlotSet.mem_insert.2 (.inl rfl))
    rw [pairs_of_active_high (Nat.le_of_lt below) (free below) contains,
      pairs_of_active_low below filled]
    congr 1
    refine pairs_congr fun slot le lt => ?_
    rw [Bool.eq_iff_iff, Std.TreeSet.contains_iff_mem, Std.TreeSet.contains_iff_mem, moveActive,
      SlotSet.mem_insert, SlotSet.mem_erase]
    constructor
    · exact fun mem => .inr ⟨Nat.ne_of_lt lt, mem⟩
    · rintro (rfl | ⟨-, mem⟩)
      · exact absurd le (Nat.not_succ_le_self _)
      · exact mem
  -- The scan from below came as far as the highest active slot.
  · next met =>
    by_cases same : target = high
    · rw [same, pairs_of_active_low (Nat.lt_succ_self high) contains, pairs_of_le (Nat.le_refl _)]
    · exact pairs_of_le (by omega)

/-- The loop makes the listed moves one after the other. -/
theorem packLoop_eq (moveSlot : β → Move → Except Fault β)
    (state : (Array Nat × Array (Option Nat)) × β)
    (below : ∀ slot, slot ∈ active → slot < bound) :
    packLoop moveSlot low active state =
      ((pairs active low bound).foldlM (moveBoth moveSlot) state).map fun state =>
        ((pairs active low bound).foldl moveActive active, state) := by
  fun_induction packLoop moveSlot low active state generalizing bound with
  | case1 low active state none =>
    rw [pairs_of_none none]
    rfl
  | case2 low active state high highest lt fault failed =>
    have mem := (Std.TreeSet.max?_eq_some_iff_mem_and_forall.1 highest).1
    rw [pairs_of_highest highest (below high mem), if_pos lt, List.foldlM_cons, failed]
    rfl
  | case3 low active state high highest lt next moved ih =>
    have mem := (Std.TreeSet.max?_eq_some_iff_mem_and_forall.1 highest).1
    -- After the round every active slot is below the one that was moved.
    rw [ih fun slot => lt_of_mem_moveActive highest lt, pairs_of_highest highest (below high mem),
      if_pos lt, List.foldlM_cons, moved]
    rfl
  | case4 low active state high highest met =>
    have mem := (Std.TreeSet.max?_eq_some_iff_mem_and_forall.1 highest).1
    rw [pairs_of_highest highest (below high mem), if_neg met]
    rfl

end Rounds

/-- When the positions can be moved, only the holder of the slots can fail. -/
theorem foldlM_moveBoth {moveSlot : β → Move → Except Fault β} {moves : List Move}
    {positions positions' : Array Nat × Array (Option Nat)}
    (moved : moves.foldlM moveChecked positions = .ok positions') (held : β) :
    moves.foldlM (moveBoth moveSlot) (positions, held) =
      (moves.foldlM moveSlot held).map fun held => (positions', held) := by
  induction moves generalizing positions held with
  | nil =>
    cases moved
    rfl
  | cons first rest ih =>
    rw [List.foldlM_cons] at moved
    cases step : moveChecked positions first with
    | error fault =>
      rw [step] at moved
      cases moved
    | ok next =>
      rw [step] at moved
      rw [List.foldlM_cons, List.foldlM_cons, moveBoth, step]
      cases told : moveSlot held first with
      | error fault => rfl
      | ok held' => exact ih moved held'

/-- Packing an axis tells the holder of the slots the listed moves, and leaves the packed axis with
its capacity as it was. -/
theorem Assigned.packLow_eq {a : Axis} (h : a.Assigned) (moveSlot : β → Move → Except Fault β)
    (held : β) : a.packLow moveSlot held =
      (a.packingMoves.foldlM moveSlot held).map fun held =>
        (held, { a.pack with capacity := a.capacity }) := by
  obtain ⟨owners, owners', entered, moved⟩ := h.exists_moved
  have below : ∀ slot, slot ∈ a.active → slot < a.highWater := fun slot active =>
    (h.lt_highWater_iff slot).2 (.inl active)
  unfold packLow
  rw [entered]
  show (do
    let (active, positions, held) ← packLoop moveSlot 0 a.active ((a.slots, owners), held)
    return (held, { a with slots := positions.1, active, released := ∅, highWater := a.size })) = _
  rw [packLoop_eq moveSlot _ below]
  show (do
    let (active, positions, held) ← (a.packingMoves.foldlM (moveBoth moveSlot)
      ((a.slots, owners), held)).map fun state => (a.packingMoves.foldl moveActive a.active, state)
    return (held, { a with slots := positions.1, active, released := ∅, highWater := a.size })) = _
  rw [foldlM_moveBoth moved]
  cases a.packingMoves.foldlM moveSlot held with
  | error fault => rfl
  | ok held => rfl

/-! ## What packing leaves -/

/-- `b` is `a` with its slots packed by `moves`. -/
structure Compacts (a : Axis) (moves : List Move) (b : Axis) : Prop where
  /-- The positions are, one each, on the slots below their number. -/
  onto : b.slots.toList.Perm (List.range a.size)
  mem_active_iff : ∀ slot, slot ∈ b.active ↔ slot < a.size
  not_released : ∀ slot, slot ∉ b.released
  highWater : b.highWater = a.size
  capacity : b.capacity = a.capacity
  /-- A position stays on a slot that is low enough. -/
  stays : ∀ position slot : Nat, a.slots[position]? = some slot → slot < a.size →
    b.slots[position]? = some slot
  mem_sources_iff : ∀ slot, slot ∈ moves.map Move.source ↔ slot ∈ a.active ∧ a.size ≤ slot
  sources : (moves.map Move.source).Pairwise (· > ·)
  mem_targets_iff : ∀ slot, slot ∈ moves.map Move.target ↔ slot ∉ a.active ∧ slot < a.size
  targets : (moves.map Move.target).Pairwise (· < ·)

/-- The lines `before` on the slots of `a` are the lines `after` on those of `b`. What `kept` leaves
of them, the slots below a bound, has every line of a position, and the rest is of no use. -/
structure Carries {α : Type} (a b : Axis) (before after : Nat → Nat → Option α)
    (kept : Nat → Nat → Nat → Option α) : Prop where
  /-- Every position shows the line it showed before. -/
  shown : ∀ position : Nat, b.slots[position]?.map after = a.slots[position]?.map before
  shown_kept : ∀ bound, a.size ≤ bound → ∀ position : Nat,
    b.slots[position]?.map (kept bound) = a.slots[position]?.map before
  /-- No position is on a slot from the bound on. -/
  inactive : ∀ bound, a.size ≤ bound → ∀ slot, bound ≤ slot → slot ∉ b.active
  /-- Such a slot has an empty line, if the slots that were of no position had. -/
  empty : (∀ slot, slot ∉ a.active → ∀ y, before slot y = none) →
    ∀ bound, a.size ≤ bound → ∀ slot, bound ≤ slot → ∀ y, after slot y = none

section Packed

variable {a : Axis}

/-- The moves of packing compact an axis whose active slots are those of its positions. -/
theorem Assigned.compacts (h : a.Assigned) :
    Compacts a a.packingMoves { a.pack with capacity := a.capacity } where
  onto := by
    refine (List.perm_ext_iff_of_nodup h.pack.nodup List.nodup_range).2 fun slot => ?_
    rw [← h.pack.mem_active_iff, h.mem_active_pack, List.mem_range]
  mem_active_iff _ := h.mem_active_pack
  not_released _ := Std.TreeSet.not_mem_emptyc
  highWater := rfl
  capacity := rfl
  stays position slot found lt := by
    show (a.slots.map (relocate a.packingMoves))[position]? = some slot
    rw [Array.getElem?_map, found, Option.map_some, h.relocate_of_lt lt]
  mem_sources_iff slot := by
    rw [List.mem_map, h.exists_source_iff, And.comm]
  sources := by
    rw [h.map_source_packingMoves, List.pairwise_reverse]
    exact (List.pairwise_lt_range' 1 (by decide)).filter _
  mem_targets_iff slot := by
    rw [List.mem_map, h.exists_target_iff, And.comm]
  targets := by
    rw [h.map_target_packingMoves]
    exact List.pairwise_lt_range.filter _

/-- Lines that are found where their slots are relocated to, and none elsewhere, are carried. -/
theorem Assigned.carries (h : a.Assigned) {α : Type} {before after : Nat → Nat → Option α}
    {kept : Nat → Nat → Nat → Option α}
    (moved : ∀ slot, slot ∈ a.active → ∀ y, after (relocate a.packingMoves slot) y = before slot y)
    (emptied : (∀ slot, slot ∉ a.active → ∀ y, before slot y = none) →
      ∀ slot, a.size ≤ slot → ∀ y, after slot y = none)
    (kept_eq : ∀ bound slot, slot < bound → ∀ y, kept bound slot y = after slot y) :
    Carries a { a.pack with capacity := a.capacity } before after kept where
  shown position := by
    show (a.slots.map (relocate a.packingMoves))[position]?.map after = _
    rw [Array.getElem?_map, Option.map_map]
    refine Option.map_congr fun slot found => funext fun y => ?_
    exact moved slot (h.active_of_found found) y
  shown_kept bound le position := by
    show (a.slots.map (relocate a.packingMoves))[position]?.map (kept bound) = _
    rw [Array.getElem?_map, Option.map_map]
    refine Option.map_congr fun slot found => funext fun y => ?_
    have active := h.active_of_found found
    have lt : relocate a.packingMoves slot < bound := Nat.lt_of_lt_of_le (h.relocate_lt active) le
    exact (kept_eq bound _ lt y).trans (moved slot active y)
  inactive bound le slot above active := by
    have := h.mem_active_pack.1 active
    omega
  empty dead bound le slot above := emptied dead slot (Nat.le_trans le above)

/-- The backing rows are carried by the moves. -/
theorem Assigned.carries_rows (h : a.Assigned) {α : Type} {c : Cells α} {width : Nat}
    (shaped : c.Shaped a.capacity width) :
    Carries a { a.pack with capacity := a.capacity } c.get (c.moveRows a.packingMoves).get
      fun bound => ((c.moveRows a.packingMoves).takeRows bound).get := by
  refine h.carries (fun slot active => shaped.get_moveRows_relocate h active)
    (fun dead slot le => shaped.get_moveRows_of_le h dead le) fun bound slot lt y => ?_
  rw [Cells.get_takeRows, if_pos lt]

/-- The columns of the backing rows are carried by the moves. -/
theorem Assigned.carries_columns (h : a.Assigned) {α : Type} {c : Cells α} {height : Nat}
    (shaped : c.Shaped height a.capacity) :
    Carries a { a.pack with capacity := a.capacity } (fun y x => c.get x y)
      (fun y x => (c.moveColumns a.packingMoves).get x y)
      fun bound y x => ((c.moveColumns a.packingMoves).takeColumns bound).get x y := by
  have mirrored := Cells.shaped_mirror c height a.capacity
  -- The moves of the columns are those of the rows of the mirror image.
  have get := (Cells.foldl_swapColumns_mirror shaped mirrored shaped.get_mirror a.packingMoves
    h.moves_lt).2
  refine h.carries (fun slot active x => ?_) (fun dead slot le x => ?_) fun bound slot lt x => ?_
  · refine (get _ x).symm.trans ((mirrored.get_moveRows_relocate h active x).trans ?_)
    exact shaped.get_mirror slot x
  · refine (get slot x).symm.trans (mirrored.get_moveRows_of_le h (fun k inactive y => ?_) le x)
    exact (shaped.get_mirror k y).trans (dead k inactive y)
  · rw [Cells.get_takeColumns, if_pos lt]

/-- Whatever the capacity and whoever holds the slots, packing ends. It tells the holder to move the
active slots from the size of the axis on, the highest first, to the inactive slots below, the
lowest first, and a position on a slot below the size stays there. When the holder exchanges its
rows, or the columns of every row, then each position shows the same line as before, and no bound
that leaves room for the positions cuts off a line that is in use. -/
theorem packLow_compacts (h : a.Assigned) :
    ∃ moves b, Compacts a moves b ∧
      (∀ {β : Type} (moveSlot : β → Move → Except Fault β) (held : β),
        a.packLow moveSlot held = (moves.foldlM moveSlot held).map fun held => (held, b)) ∧
      (∀ {α : Type} {c : Cells α} {width : Nat}, c.Shaped a.capacity width →
        ∃ d, a.packLow Cells.swapRowsChecked c = .ok (d, b) ∧ d.Shaped a.capacity width ∧
          Carries a b c.get d.get fun bound => (d.takeRows bound).get) ∧
      ∀ {α : Type} {c : Cells α} {height : Nat}, c.Shaped height a.capacity →
        ∃ d, a.packLow Cells.swapColumnsChecked c = .ok (d, b) ∧ d.Shaped height a.capacity ∧
          Carries a b (fun y x => c.get x y) (fun y x => d.get x y)
            fun bound y x => (d.takeColumns bound).get x y := by
  refine ⟨a.packingMoves, { a.pack with capacity := a.capacity }, h.compacts, h.packLow_eq,
    fun {_ c _} shaped => ?_, fun {_ c _} shaped => ?_⟩
  · refine ⟨c.moveRows a.packingMoves, ?_, shaped.foldl_swapRows _ h.moves_lt,
      h.carries_rows shaped⟩
    rw [h.packLow_eq, shaped.foldlM_swapRowsChecked h.moves_lt]
    rfl
  · refine ⟨c.moveColumns a.packingMoves, ?_, ?_, h.carries_columns shaped⟩
    · rw [h.packLow_eq, shaped.foldlM_swapColumnsChecked h.moves_lt]
      rfl
    · exact (Cells.foldl_swapColumns_mirror shaped (Cells.shaped_mirror c _ a.capacity)
        shaped.get_mirror a.packingMoves h.moves_lt).1

/-- An axis with holes in front of, between and behind its active slots. -/
def scattered : Axis where
  slots := #[7, 1, 4, 6]
  active := .ofList [1, 4, 6, 7]
  released := .ofList [0, 2, 3, 5]
  highWater := 8
  capacity := 9

/-- The scattered axis has distinct active slots for its positions. -/
theorem assigned_scattered : scattered.Assigned where
  disjoint slot active released := by
    rw [scattered, Std.TreeSet.mem_ofList] at active released
    simp at active released
    omega
  lt_highWater_iff slot := by
    simp only [scattered, Std.TreeSet.mem_ofList]
    simp
    omega
  highWater_le := by decide
  nodup := by decide
  mem_active_iff slot := by
    simp only [scattered, Std.TreeSet.mem_ofList]
    simp
    omega

/-- The holder is told three moves, and rows whose inactive lines are empty stay so. -/
theorem packLow_compacts_scattered :
    scattered.Assigned ∧ ∃ moves b, Compacts scattered moves b ∧
      scattered.packLow (fun log move => .ok (log ++ [move])) []
        = .ok ([⟨7, 0⟩, ⟨6, 2⟩, ⟨4, 3⟩], b) ∧
      ∃ d, scattered.packLow Cells.swapRowsChecked ((Cells.blank 9 1).put 7 0 (some true))
          = .ok (d, b) ∧
        Carries scattered b ((Cells.blank 9 1).put 7 0 (some true)).get d.get
          fun bound => (d.takeRows bound).get := by
  obtain ⟨moves, b, compacts, -, rows, -⟩ := packLow_compacts assigned_scattered
  have listed : scattered.packingMoves = [⟨7, 0⟩, ⟨6, 2⟩, ⟨4, 3⟩] := by decide +kernel
  obtain ⟨d, packed, -, carries⟩ := rows ((Cells.shaped_blank 9 1).put 7 0 (some true))
  refine ⟨assigned_scattered, moves, b, compacts, ?_, d, packed, carries⟩
  -- The axis is the same whoever is told, so it is the one that came with the rows.
  have same := packed
  rw [assigned_scattered.packLow_eq] at same ⊢
  rw [listed]
  cases moved : scattered.packingMoves.foldlM Cells.swapRowsChecked
      ((Cells.blank 9 1).put 7 0 (some true)) with
  | error fault =>
    rw [moved] at same
    cases same
  | ok cells =>
    rw [moved] at same
    cases same
    rfl

end Packed

end Tabular.Axis
