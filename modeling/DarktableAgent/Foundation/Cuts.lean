import Mathlib.Algebra.BigOperators.Group.List.Basic
import Mathlib.Algebra.Order.Group.Nat

/-! Lists cut into slices at rising borders.

Slices from one border to the next cover what lies between the first and the last, in order and without gaps.
-/

set_option autoImplicit false

namespace DarktableAgent.Foundation

variable {α : Type}

/-- `items[start:stop]` -/
def slice (start stop : Nat) (items : List α) : List α := (items.take stop).drop start

/-- The slices between the first borders. -/
def cut (border : Nat → Nat) (count : Nat) (items : List α) : List (List α) :=
  (List.range count).map fun index => slice (border index) (border (index + 1)) items

/-- A list as slices: in order, none left out, none of them empty. -/
structure SlicesOf (items : List α) (slices : List (List α)) : Prop where
  covers : slices.flatten = items
  nonempty : ∀ part ∈ slices, part ≠ []

/-- The border in front of a place when a length is spread over so many places. -/
def evenBorder (length count index : Nat) : Nat := index * length / count

theorem take_append_slice {start stop : Nat} (rises : start ≤ stop) (items : List α) :
    items.take start ++ slice start stop items = items.take stop := by
  have same : items.take start = (items.take stop).take start := by
    rw [List.take_take, Nat.min_eq_left rises]
  rw [slice, same, List.take_append_drop]

theorem length_slice (start stop : Nat) (items : List α) :
    (slice start stop items).length = min stop items.length - start := by
  simp [slice]

@[simp] theorem length_cut (border : Nat → Nat) (count : Nat) (items : List α) :
    (cut border count items).length = count := by
  simp [cut]

theorem cut_succ (border : Nat → Nat) (count : Nat) (items : List α) :
    cut border (count + 1) items = cut border count items ++ [slice (border count) (border (count + 1)) items] := by
  simp [cut, List.range_succ]

/-- By induction on the number of slices: the last one continues what the others cover. -/
theorem flatten_cut {border : Nat → Nat} {count : Nat} (items : List α) (first : border 0 = 0)
    (rises : ∀ index < count, border index ≤ border (index + 1)) :
    (cut border count items).flatten = items.take (border count) := by
  induction count with
  | zero => simp [cut, first]
  | succ count ih =>
    have earlier := ih fun index inside => rises index (by omega)
    rw [cut_succ, List.flatten_append, earlier, List.flatten_singleton]
    exact take_append_slice (rises count (by omega)) items

theorem border_le_last {border : Nat → Nat} {count : Nat} (rises : ∀ index < count, border index ≤ border (index + 1)) :
    ∀ index ≤ count, border index ≤ border count := by
  induction count with
  | zero =>
    intro index inside
    rw [Nat.le_zero.mp inside]
  | succ count ih =>
    intro index inside
    rcases Nat.lt_or_eq_of_le inside with earlier | rfl
    · have before := ih (fun index inside => rises index (by omega)) index (by omega)
      exact before.trans (rises count (by omega))
    · exact le_refl _

/-- Strictly rising borders from the start of the list to its end. -/
theorem slicesOf_cut {border : Nat → Nat} {count : Nat} {items : List α} (first : border 0 = 0)
    (rises : ∀ index < count, border index < border (index + 1)) (last : border count = items.length) :
    SlicesOf items (cut border count items) := by
  have weakly : ∀ index < count, border index ≤ border (index + 1) := fun index inside => (rises index inside).le
  constructor
  · rw [flatten_cut items first weakly, last, List.take_length]
  · intro part member
    obtain ⟨index, inRange, rfl⟩ := List.mem_map.mp member
    have inside := List.mem_range.mp inRange
    have within := border_le_last weakly (index + 1) inside
    have step := rises index inside
    apply List.ne_nil_of_length_pos
    rw [length_slice]
    omega

/-- The slices of one item each. -/
theorem slicesOf_singletons (items : List α) : SlicesOf items (items.map fun item => [item]) := by
  constructor
  · induction items with
    | nil => rfl
    | cons item rest ih => rw [List.map_cons, List.flatten_cons, ih, List.singleton_append]
  · intro part member
    obtain ⟨item, _, rfl⟩ := List.mem_map.mp member
    exact List.cons_ne_nil item []

theorem SlicesOf.sum [AddMonoid α] {items : List α} {slices : List (List α)} (isCut : SlicesOf items slices) :
    (slices.map List.sum).sum = items.sum := by
  rw [← List.sum_flatten, isCut.covers]

@[simp] theorem evenBorder_zero (length count : Nat) : evenBorder length count 0 = 0 := by
  simp [evenBorder]

theorem evenBorder_count {count : Nat} (length : Nat) (positive : 0 < count) :
    evenBorder length count count = length :=
  Nat.mul_div_cancel_left length positive

/-- With no more places than items, one step to the right moves the quotient by at least one. -/
theorem evenBorder_lt_succ {length count : Nat} (positive : 0 < count) (fits : count ≤ length) (index : Nat) :
    evenBorder length count index < evenBorder length count (index + 1) := by
  unfold evenBorder
  calc index * length / count < index * length / count + 1 := Nat.lt_succ_self _
    _ = (index * length + count) / count := (Nat.add_div_right _ positive).symm
    _ ≤ (index + 1) * length / count := by
      apply Nat.div_le_div_right
      rw [Nat.succ_mul]
      exact Nat.add_le_add_left fits _

end DarktableAgent.Foundation
