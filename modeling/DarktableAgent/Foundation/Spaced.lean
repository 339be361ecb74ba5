import Mathlib.Algebra.Order.Field.Basic
import Mathlib.Data.List.Basic
import Mathlib.Tactic.Linarith

/-! Lists whose keys keep a distance, and insertion at the place of a key.

The distance is between any two items. Between neighbours it is the same, for the keys
increase; the form over all pairs needs no transitivity.
-/

set_option autoImplicit false

namespace DarktableAgent.Foundation

variable {α K : Type} [LinearOrder K] {key : α → K} {gap place : K} {items : List α} {item : α}

/-- Where an item of the key goes: before the first greater one, or at the end. -/
def position (key : α → K) (place : K) (items : List α) : Nat := items.findIdx fun item => place < key item

theorem insertIdx_eq_append {index : Nat} (inside : index ≤ items.length) :
    items.insertIdx index item = items.take index ++ item :: items.drop index := by
  induction items generalizing index with
  | nil =>
    have atStart : index = 0 := by simpa using inside
    simp [atStart]
  | cons head tail ih =>
    cases index with
    | zero => rfl
    | succ index => simp [ih (Nat.le_of_succ_le_succ inside)]

theorem insertIdx_position : items.insertIdx (position key place items) item =
    items.take (position key place items) ++ item :: items.drop (position key place items) :=
  insertIdx_eq_append List.findIdx_le_length

theorem position_cons {head : α} {tail : List α} : position key place (head :: tail) =
    if place < key head then 0 else position key place tail + 1 := by
  simp [position, List.findIdx_cons, apply_ite, Bool.cond_decide]

theorem key_le_of_lt_position {i : Nat} (below : i < position key place items) (here : items[i]? = some item) :
    key item ≤ place := by
  obtain ⟨inside, rfl⟩ := List.getElem?_eq_some_iff.mp here
  have notGreater := List.not_of_lt_findIdx below
  exact not_lt.mp (of_decide_eq_false notGreater)

theorem lt_key_at_position (here : items[position key place items]? = some item) : place < key item := by
  obtain ⟨inside, rfl⟩ := List.getElem?_eq_some_iff.mp here
  have greater := @List.findIdx_getElem _ (fun item => decide (place < key item)) items inside
  exact of_decide_eq_true greater

theorem key_le_of_mem_take (member : item ∈ items.take (position key place items)) : key item ≤ place := by
  induction items with
  | nil => simp at member
  | cons head tail ih =>
    rw [position_cons] at member
    split at member
    · simp at member
    · rename_i notGreater
      rw [List.take_succ_cons, List.mem_cons] at member
      rcases member with rfl | later
      · exact not_lt.mp notGreater
      · exact ih later

variable [Field K]

def Spaced (key : α → K) (gap : K) (items : List α) : Prop :=
  items.Pairwise fun left right => gap < key right - key left

theorem Spaced.apart (spaced : Spaced key gap items) {i j : Nat} {left right : α} (inOrder : i < j)
    (isLeft : items[i]? = some left) (isRight : items[j]? = some right) : gap < key right - key left := by
  obtain ⟨leftInside, rfl⟩ := List.getElem?_eq_some_iff.mp isLeft
  obtain ⟨rightInside, rfl⟩ := List.getElem?_eq_some_iff.mp isRight
  exact List.pairwise_iff_getElem.mp spaced i j leftInside rightInside inOrder

variable [IsStrictOrderedRing K]

theorem Spaced.head_le (nonnegative : 0 ≤ gap) (spaced : Spaced key gap items) {first : α}
    (isFirst : first ∈ items.head?) (member : item ∈ items) : key first ≤ key item := by
  obtain ⟨tail, rfl⟩ := List.head?_eq_some_iff.mp isFirst
  rcases List.mem_cons.mp member with rfl | later
  · exact le_rfl
  · linarith [(List.pairwise_cons.mp spaced).1 item later]

theorem Spaced.le_last (nonnegative : 0 ≤ gap) (spaced : Spaced key gap items) {last : α}
    (isLast : last ∈ items.getLast?) (member : item ∈ items) : key item ≤ key last := by
  obtain ⟨front, rfl⟩ := List.getLast?_eq_some_iff.mp isLast
  rcases List.mem_append.mp member with earlier | here
  · linarith [(List.pairwise_append.mp spaced).2.2 item earlier last (by simp)]
  · rw [List.mem_singleton.mp here]

theorem lt_key_of_mem_drop (nonnegative : 0 ≤ gap) (spaced : Spaced key gap items)
    (member : item ∈ items.drop (position key place items)) : place < key item := by
  induction items with
  | nil => simp at member
  | cons head tail ih =>
    obtain ⟨apart, spacedTail⟩ := List.pairwise_cons.mp spaced
    rw [position_cons] at member
    split at member
    · rename_i greater
      rw [List.drop_zero, List.mem_cons] at member
      rcases member with rfl | later
      · exact greater
      · linarith [apart item later]
    · exact ih spacedTail member

/-- An item goes to its place when it keeps the distance from every other one. -/
theorem spaced_insert (nonnegative : 0 ≤ gap) (spaced : Spaced key gap items)
    (clear : ∀ other ∈ items, gap < |key other - key item|) :
    Spaced key gap (items.take (position key (key item) items) ++
      item :: items.drop (position key (key item) items)) := by
  have split := spaced
  rw [Spaced, ← List.take_append_drop (position key (key item) items) items, List.pairwise_append] at split
  obtain ⟨spacedBefore, spacedAfter, between⟩ := split
  have below : ∀ other ∈ items.take (position key (key item) items), gap < key item - key other := by
    intro other member
    have distance := clear other (List.mem_of_mem_take member)
    rw [abs_of_nonpos (sub_nonpos.mpr (key_le_of_mem_take member))] at distance
    linarith
  have above : ∀ other ∈ items.drop (position key (key item) items), gap < key other - key item := by
    intro other member
    have distance := clear other (List.mem_of_mem_drop member)
    rwa [abs_of_pos (sub_pos.mpr (lt_key_of_mem_drop nonnegative spaced member))] at distance
  rw [Spaced, List.pairwise_append, List.pairwise_cons]
  refine ⟨spacedBefore, ⟨above, spacedAfter⟩, fun left isLeft right isRight => ?_⟩
  rcases List.mem_cons.mp isRight with rfl | isAfter
  · exact below left isLeft
  · exact between left isLeft right isAfter

end DarktableAgent.Foundation
