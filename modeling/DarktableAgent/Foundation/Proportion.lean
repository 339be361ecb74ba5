import Mathlib.Algebra.Order.Field.Basic
import Mathlib.Tactic.Linarith
import Mathlib.Tactic.Ring

/-! Three points at least a gap apart, and the share of the way at which the middle one stands.

An outer point moves as far as the gap allows on both sides when the middle one keeps its share.
-/

set_option autoImplicit false

namespace DarktableAgent.Foundation

theorem between_of_min_max {K : Type} [LinearOrder K] {lower upper : K} (inOrder : lower ≤ upper) (place : K) :
    lower ≤ min upper (max lower place) ∧ min upper (max lower place) ≤ upper :=
  ⟨le_min inOrder (le_max_left ..), min_le_left ..⟩

variable {K : Type} [Field K] {gap low middle high p : K}

def share (low middle high : K) : K := (middle - low) / (high - low)

theorem share_mul_width (wide : high - low ≠ 0) : share low middle high * (high - low) = middle - low :=
  div_mul_cancel₀ _ wide

theorem rest_mul_width (wide : high - low ≠ 0) : (1 - share low middle high) * (high - low) = high - middle := by
  rw [sub_mul, share_mul_width wide]
  ring

variable [LinearOrder K]

/-- The points lie in this order, at least a gap apart. -/
structure Apart (gap low middle high : K) : Prop where
  below : low + gap ≤ middle
  above : middle + gap ≤ high

variable [IsStrictOrderedRing K]

theorem Apart.width_pos (positive : 0 < gap) (apart : Apart gap low middle high) : 0 < high - low := by
  linarith [apart.below, apart.above]

theorem Apart.share_pos (positive : 0 < gap) (apart : Apart gap low middle high) : 0 < share low middle high :=
  div_pos (by linarith [apart.below]) (apart.width_pos positive)

theorem Apart.share_lt_one (positive : 0 < gap) (apart : Apart gap low middle high) : share low middle high < 1 := by
  rw [share, div_lt_one (apart.width_pos positive)]
  linarith [apart.above]

/-- The width that a share of it needs to reach the gap is there. -/
theorem Apart.div_share_le (positive : 0 < gap) (apart : Apart gap low middle high) :
    gap / share low middle high ≤ high - low := by
  rw [div_le_iff₀ (apart.share_pos positive), mul_comm, share_mul_width (apart.width_pos positive).ne']
  linarith [apart.below]

theorem Apart.div_rest_le (positive : 0 < gap) (apart : Apart gap low middle high) :
    gap / (1 - share low middle high) ≤ high - low := by
  have rest : 0 < 1 - share low middle high := by linarith [apart.share_lt_one positive]
  rw [div_le_iff₀ rest, mul_comm, rest_mul_width (apart.width_pos positive).ne']
  linarith [apart.above]

/-- With that width, the point at the share is away from both ends. -/
theorem apart_of_div_le (positive : 0 < p) (proper : p < 1) (below : gap / p ≤ high - low)
    (above : gap / (1 - p) ≤ high - low) : Apart gap low (low + p * (high - low)) high := by
  rw [div_le_iff₀ positive] at below
  rw [div_le_iff₀ (by linarith)] at above
  constructor <;> linarith

end DarktableAgent.Foundation
