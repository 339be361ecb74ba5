import Mathlib.Data.List.Forall2

/-! A list that reaches a reader in growing pieces, each of which starts again from the front.

The reader remembers only how many items it has taken, and skips as many of the next
piece. Items are compared by a relation, since the two sides may write them differently.
-/

set_option autoImplicit false

namespace DarktableAgent.Foundation

variable {α β ε : Type} (relates : α → β → Prop)

/-- The part stands for as many items from the front of the whole. -/
def Begins (whole : List α) (part : List β) : Prop := List.Forall₂ relates (whole.take part.length) part

variable {relates} {whole : List α}

theorem Begins.nil : Begins relates whole [] := by
  unfold Begins
  rw [List.length_nil, List.take_zero]
  exact .nil

theorem Begins.length_le {part : List β} (begins : Begins relates whole part) : part.length ≤ whole.length := by
  have same := begins.length_eq
  rw [List.length_take] at same
  omega

theorem begins_of_forall₂ {part : List β} (full : List.Forall₂ relates whole part) : Begins relates whole part := by
  unfold Begins
  rw [← full.length_eq, List.take_length]
  exact full

theorem Begins.full {part : List β} (begins : Begins relates whole part) (complete : whole.length ≤ part.length) :
    List.Forall₂ relates whole part := by
  unfold Begins at begins
  rwa [List.take_of_length_le complete] at begins

/-- A longer piece continues what was taken, once the items taken before are skipped. -/
theorem Begins.resume {taken piece : List β} (before : Begins relates whole taken) (begins : Begins relates whole piece)
    (longer : taken.length ≤ piece.length) : Begins relates whole (taken ++ piece.drop taken.length) := by
  have total : (taken ++ piece.drop taken.length).length = piece.length := by
    rw [List.length_append, List.length_drop]
    omega
  have front : (whole.take piece.length).take taken.length = whole.take taken.length := by
    rw [List.take_take, Nat.min_eq_left longer]
  have rest := List.forall₂_drop taken.length begins
  unfold Begins at before ⊢
  rw [total, ← List.take_append_drop taken.length (whole.take piece.length), front]
  exact List.rel_append before rest

/-- The last piece is the whole, and nothing was taken twice or is left out. -/
theorem Begins.finish {taken piece : List β} (before : Begins relates whole taken)
    (full : List.Forall₂ relates whole piece) : List.Forall₂ relates whole (taken ++ piece.drop taken.length) := by
  have longer : taken.length ≤ piece.length := by
    rw [← full.length_eq]
    exact before.length_le
  refine (before.resume (begins_of_forall₂ full) longer).full ?_
  rw [List.length_append, List.length_drop, full.length_eq]
  omega

/-- A related list begins the whole when its items have the essence of the items at the front. -/
theorem begins_of_prefix {essence : α → ε} (respects : ∀ item other b, essence item = essence other →
    relates item b → relates other b) {shown : List α} {part : List β} (front : shown.map essence <+: whole.map essence)
    (related : List.Forall₂ relates shown part) : Begins relates whole part := by
  unfold Begins
  rw [← related.length_eq]
  induction related generalizing whole with
  | nil => exact .nil
  | cons here later ih =>
    cases whole with
    | nil => exact absurd (List.prefix_nil.mp front) (List.cons_ne_nil _ _)
    | cons item rest =>
      obtain ⟨same, front⟩ := List.cons_prefix_cons.mp front
      exact .cons (respects _ _ _ same here) (ih front)

end DarktableAgent.Foundation
