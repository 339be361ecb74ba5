import Mathlib.Data.Int.Log
import Mathlib.Data.Rat.Floor
import Mathlib.Tactic.Linarith

/-! Numbers of double precision, as the rationals they stand for.

A sum is rounded to the nearest double, and to the even one of two that are equally near.
-/

set_option autoImplicit false

namespace DarktableAgent.Foundation.Doubles

/-- The distance of neighbouring doubles at a number: 53 digits from its leading one, and none below
the smallest double. -/
def spacing (x : ℚ) : ℚ := 2 ^ max (Int.log 2 |x| - 52) (-1074)

/-- Finite doubles are less than this. -/
def limit : ℚ := 2 ^ 1024

def IsDouble (x : ℚ) : Prop := (x / spacing x).den = 1 ∧ |x| < limit

instance (x : ℚ) : Decidable (IsDouble x) := by unfold IsDouble; infer_instance

/-- The nearest integer, and the even one of two. -/
def roundEven (x : ℚ) : Int :=
  let below := ⌊x⌋
  if x - below < 1 / 2 ∨ (x - below = 1 / 2 ∧ below % 2 = 0) then below else below + 1

/-- The double that a result is rounded to. What is out of range stands for an infinity: it is behind
all doubles. -/
def nearest (x : ℚ) : ℚ :=
  let rounded := roundEven (x / spacing x) * spacing x
  if |rounded| < limit then rounded else 2 * x

theorem spacing_pos (x : ℚ) : 0 < spacing x := zpow_pos (by norm_num) _

theorem roundEven_intCast (n : Int) : roundEven n = n := by
  simp [roundEven]

theorem roundEven_eq_iff {x : ℚ} : (roundEven x : ℚ) = x ↔ x.den = 1 := by
  constructor
  · intro same
    rw [← same]
    rfl
  · intro whole
    rw [← Rat.coe_int_num_of_den_eq_one whole, roundEven_intCast]

/-- Exactly the doubles are left as they are. -/
theorem nearest_eq_self_iff {x : ℚ} : nearest x = x ↔ IsDouble x := by
  have whole : (roundEven (x / spacing x) : ℚ) * spacing x = x ↔ (x / spacing x).den = 1 := by
    rw [← eq_div_iff (spacing_pos x).ne', roundEven_eq_iff]
  unfold nearest IsDouble
  dsimp only
  rw [← whole]
  split_ifs with inRange
  · exact ⟨fun same => ⟨same, same ▸ inRange⟩, And.left⟩
  · constructor
    · intro same
      obtain rfl : x = 0 := by linarith
      simp [limit, roundEven] at inRange
    · rintro ⟨same, atMost⟩
      exact absurd (same.symm ▸ atMost) inRange

/-- A fifth and a tenth: what is added is not what the sum has more. -/
example : nearest (nearest (1 / 5) + nearest (1 / 10)) - nearest (1 / 5) ≠ nearest (1 / 10) := by decide +kernel

end DarktableAgent.Foundation.Doubles
