import Mathlib.Algebra.Order.Group.Defs
import Mathlib.Algebra.Order.BigOperators.Group.List
import Mathlib.Tactic.Linarith

/-! Running sums of weights, and where they reach a level.

A sum that a loop breaks off at some place lacks the terms behind it, and nothing else.
-/

set_option autoImplicit false

namespace DarktableAgent.Foundation

variable {K : Type} [Field K] {weights : List K} {position : Nat → K} {index : Nat}

/-- The sum of the weights up to and including a place. -/
def runningSum (weights : List K) (place : Nat) : K := (weights.take (place + 1)).sum

/-- The sum of the weights, each times the position of its place. -/
def weightedSum (position : Nat → K) (index : Nat) : List K → K
  | [] => 0
  | weight :: rest => position index * weight + weightedSum position (index + 1) rest

theorem runningSum_cons_succ (weight : K) (rest : List K) (place : Nat) :
    runningSum (weight :: rest) (place + 1) = weight + runningSum rest place := by
  rw [runningSum, List.take_succ_cons, List.sum_cons, runningSum]

theorem runningSum_cons_zero (weight : K) (rest : List K) : runningSum (weight :: rest) 0 = weight := by
  simp [runningSum]

theorem weightedSum_take_add_drop (weights : List K) (index taken : Nat) :
    weightedSum position index (weights.take taken) + weightedSum position (index + taken) (weights.drop taken) =
      weightedSum position index weights := by
  induction weights generalizing index taken with
  | nil => simp [weightedSum]
  | cons weight rest ih =>
    cases taken with
    | zero => simp [weightedSum]
    | succ taken =>
      rw [List.take_succ_cons, List.drop_succ_cons, weightedSum, weightedSum, add_assoc, ← ih (index + 1) taken,
        Nat.add_right_comm index 1 taken]
      rfl

variable [LinearOrder K] {level higher : K}

/-- The first place at which the running sum reaches a level. -/
def reach (level : K) : List K → Nat
  | [] => 0
  | weight :: rest => if level ≤ weight then 0 else reach (level - weight) rest + 1

section Cons

variable {weight : K} {rest : List K}

theorem reach_cons_here (here : level ≤ weight) : reach level (weight :: rest) = 0 := if_pos here

theorem reach_cons_later (below : weight < level) :
    reach level (weight :: rest) = reach (level - weight) rest + 1 := if_neg (not_le.mpr below)

end Cons

variable [IsStrictOrderedRing K]

theorem reach_spec (reached : level ≤ weights.sum) (nonempty : weights ≠ []) :
    reach level weights < weights.length ∧ level ≤ runningSum weights (reach level weights) ∧
      ∀ place < reach level weights, runningSum weights place < level := by
  induction weights generalizing level with
  | nil => exact absurd rfl nonempty
  | cons weight rest ih =>
    by_cases here : level ≤ weight
    · simp [reach_cons_here here, runningSum, here]
    · rw [List.sum_cons] at reached
      have more : level - weight ≤ rest.sum := by linarith
      have notEmpty : rest ≠ [] := by
        rintro rfl
        exact here (by simpa using reached)
      obtain ⟨inside, atLevel, least⟩ := ih more notEmpty
      rw [reach_cons_later (not_le.mp here)]
      refine ⟨Nat.succ_lt_succ inside, ?_, ?_⟩
      · rw [runningSum_cons_succ]
        linarith
      · intro place before
        cases place with
        | zero =>
          rw [runningSum_cons_zero]
          exact not_le.mp here
        | succ place =>
          rw [runningSum_cons_succ]
          linarith [least place (Nat.lt_of_succ_lt_succ before)]

/-- A higher level is not reached earlier. -/
theorem reach_mono (ordered : level ≤ higher) : reach level weights ≤ reach higher weights := by
  induction weights generalizing level higher with
  | nil => exact le_rfl
  | cons weight rest ih =>
    by_cases here : level ≤ weight
    · rw [reach_cons_here here]
      exact Nat.zero_le _
    · rw [reach_cons_later (not_le.mp here), reach_cons_later (by linarith)]
      exact Nat.succ_le_succ (ih (by linarith))

theorem weightedSum_nonneg (positive : ∀ place, 0 < position place) (nonnegative : ∀ weight ∈ weights, 0 ≤ weight) :
    0 ≤ weightedSum position index weights := by
  induction weights generalizing index with
  | nil => exact le_rfl
  | cons weight rest ih =>
    obtain ⟨here, later⟩ := List.forall_mem_cons.mp nonnegative
    exact add_nonneg (mul_nonneg (positive index).le here) (ih later)

/-- At positive positions, weights that are not negative add up to nothing only when there are none. -/
theorem weightedSum_eq_zero (positive : ∀ place, 0 < position place) (nonnegative : ∀ weight ∈ weights, 0 ≤ weight) :
    weightedSum position index weights = 0 ↔ ∀ weight ∈ weights, weight = 0 := by
  induction weights generalizing index with
  | nil => simp [weightedSum]
  | cons weight rest ih =>
    obtain ⟨here, later⟩ := List.forall_mem_cons.mp nonnegative
    have products := mul_nonneg (positive index).le here
    rw [weightedSum, add_eq_zero_iff_of_nonneg products (weightedSum_nonneg positive later), ih later,
      List.forall_mem_cons, mul_eq_zero, or_iff_right (positive index).ne']

/-- A weighted sum that breaks off is complete exactly when the weights behind it are zero. -/
theorem weightedSum_take_eq_iff (positive : ∀ place, 0 < position place) (nonnegative : ∀ weight ∈ weights, 0 ≤ weight)
    (taken : Nat) : weightedSum position index (weights.take taken) = weightedSum position index weights ↔
      ∀ weight ∈ weights.drop taken, weight = 0 := by
  have behind : ∀ weight ∈ weights.drop taken, 0 ≤ weight :=
    fun weight member => nonnegative weight (List.mem_of_mem_drop member)
  rw [← weightedSum_take_add_drop weights index taken, left_eq_add, weightedSum_eq_zero positive behind]

theorem weightedSum_le_sum (atMostOne : ∀ weight ∈ weights, 0 ≤ weight) (bounded : ∀ place < index + weights.length,
    position place ≤ 1) : weightedSum position index weights ≤ weights.sum := by
  induction weights generalizing index with
  | nil => exact le_rfl
  | cons weight rest ih =>
    obtain ⟨here, later⟩ := List.forall_mem_cons.mp atMostOne
    rw [weightedSum, List.sum_cons]
    have product : position index * weight ≤ weight := mul_le_of_le_one_left here (bounded index (by simp))
    have behind := @ih (index + 1) later fun place inside => bounded place (by rw [List.length_cons]; omega)
    exact add_le_add product behind

end DarktableAgent.Foundation
