/-!
# Binary search

`partitionPoint p xs` is the length of the initial segment of `xs` whose elements satisfy `p`, found
by halving. It assumes that no element after that segment satisfies `p`: under that assumption
`holds_iff_lt_partitionPoint` says that exactly the elements below the point satisfy `p`.
-/

namespace Tabular

variable {α : Type u}

/-- Halves the part of `xs` from `low` to `high`, below which `p` holds and above which it fails. -/
def partitionBetween (p : α → Bool) (xs : Array α) (low high : Nat) (bound : high ≤ xs.size) : Nat :=
  if h : low < high then
    let middle := low + (high - low) / 2
    have inside : middle < xs.size := by omega
    if p xs[middle] then partitionBetween p xs (middle + 1) high bound
    else partitionBetween p xs low middle (by omega)
  else low
termination_by high - low

/-- The position of the first element that fails `p`, or the size when none does. -/
def partitionPoint (p : α → Bool) (xs : Array α) : Nat :=
  partitionBetween p xs 0 xs.size (Nat.le_refl _)

/-- The elements that satisfy `p` come before those that fail it. -/
def IsPartitioned (p : α → Bool) (xs : Array α) : Prop :=
  ∀ i j (_ : i ≤ j) (_ : j < xs.size), p xs[j] → p xs[i]

/-- The position that is found is not above the searched ones. -/
theorem partitionBetween_le (p : α → Bool) (xs : Array α) (low high : Nat) (bound : high ≤ xs.size)
    (low_le : low ≤ high) : partitionBetween p xs low high bound ≤ high := by
  fun_induction partitionBetween p xs low high bound with
  | case1 low high bound h middle inside holds ih => exact ih (by omega)
  | case2 low high bound h middle inside fails ih =>
    have := ih (by omega)
    omega
  | case3 low high bound h => exact low_le

/-- The point is never past the end. -/
theorem partitionPoint_le (p : α → Bool) (xs : Array α) : partitionPoint p xs ≤ xs.size :=
  partitionBetween_le p xs 0 xs.size (Nat.le_refl _) (Nat.zero_le _)

/-- The search keeps what it knows of the elements outside the part that it halves. -/
theorem partitionBetween_separates {p : α → Bool} {xs : Array α} (parts : IsPartitioned p xs)
    (low high : Nat) (bound : high ≤ xs.size)
    (holds : ∀ i (_ : i < xs.size), i < low → p xs[i])
    (fails : ∀ i (_ : i < xs.size), high ≤ i → ¬ p xs[i]) (i : Nat) (h : i < xs.size) :
    p xs[i] ↔ i < partitionBetween p xs low high bound := by
  fun_induction partitionBetween p xs low high bound with
  | case1 low high bound _ middle inside holdsMiddle ih =>
    refine ih (fun j hj below => ?_) fails
    exact parts j middle (by omega) inside holdsMiddle
  | case2 low high bound _ middle inside failsMiddle ih =>
    refine ih holds fun j hj above => ?_
    exact fun holdsAt => failsMiddle (parts middle j above hj holdsAt)
  | case3 low high bound met =>
    refine ⟨fun holdsAt => ?_, holds i h⟩
    exact Nat.lt_of_not_le fun above => fails i h (by omega) holdsAt

/-- An element satisfies `p` exactly when it stands below the point. -/
theorem holds_iff_lt_partitionPoint {p : α → Bool} {xs : Array α} (parts : IsPartitioned p xs)
    {i : Nat} (h : i < xs.size) : p xs[i] ↔ i < partitionPoint p xs :=
  partitionBetween_separates parts 0 xs.size (Nat.le_refl _) (fun _ _ below => by omega)
    (fun _ _ above => by omega) i h

end Tabular
