import Mathlib.Data.List.Forall2
import Mathlib.Data.List.Nodup

/-! Readers that may fail: guards, lists read item by item, and lookup by a key that no two items share. -/

set_option autoImplicit false

namespace DarktableAgent.Foundation

theorem guard_eq_some_iff {condition : Prop} [Decidable condition] {found : Unit} :
    (guard condition : Option Unit) = some found ↔ condition := by
  by_cases holds : condition <;> simp [guard, holds, failure]

@[simp] theorem guard_true {condition : Prop} [Decidable condition] (holds : condition) :
    (guard condition : Option Unit) = some () := by
  simp [guard, holds]

/-- One member is read, then the rest. -/
theorem read_then {α β : Type} {read : Option α} {rest : α → Option β} {value : α} {result : β} (found : read = some value)
    (continued : rest value = some result) : (read >>= rest) = some result := by
  rw [found]
  exact continued

section ReadAll

variable {α β γ : Type} (write : α → β) (read : β → Option γ) (relation : α → γ → Prop)

/-- A list whose items are all read is read. -/
theorem mapM_read {items : List α} (each : ∀ item ∈ items, ∃ found, read (write item) = some found ∧ relation item found) :
    ∃ found, (items.map write).mapM read = some found ∧ List.Forall₂ relation items found := by
  induction items with
  | nil => exact ⟨[], rfl, .nil⟩
  | cons item rest ih =>
    rw [List.forall_mem_cons] at each
    obtain ⟨here, isHere, related⟩ := each.1
    obtain ⟨there, isThere, allRelated⟩ := ih each.2
    refine ⟨here :: there, ?_, .cons related allRelated⟩
    rw [List.map_cons, List.mapM_cons, isHere, isThere]
    rfl

end ReadAll

theorem exists_related {α β : Type} {relation : α → β → Prop} {left : List α} {right : List β}
    (related : List.Forall₂ relation left right) : ∀ first ∈ left, ∃ second ∈ right, relation first second := by
  induction related with
  | nil => simp
  | cons here _ ih =>
    rw [List.forall_mem_cons]
    refine ⟨⟨_, List.mem_cons_self, here⟩, fun first member => ?_⟩
    obtain ⟨second, inRest, holds⟩ := ih first member
    exact ⟨second, List.mem_cons_of_mem _ inRest, holds⟩

/-- Related lists have items at the same places. -/
theorem related_at {α β : Type} {relation : α → β → Prop} {left : List α} {right : List β}
    (related : List.Forall₂ relation left right) (index : Nat) :
    (left[index]? = none ∧ right[index]? = none) ∨
      ∃ first second, left[index]? = some first ∧ right[index]? = some second ∧ relation first second := by
  induction related generalizing index with
  | nil => simp
  | cons here _ ih =>
    cases index with
    | zero => exact .inr ⟨_, _, rfl, rfl, here⟩
    | succ index => simpa using ih index

/-- Where keys are distinct, an item is found by its key. -/
theorem find?_by_key {α κ : Type} [DecidableEq κ] (key : α → κ) {items : List α} (distinct : (items.map key).Nodup)
    {item : α} (member : item ∈ items) : (items.find? fun other => key other = key item) = some item := by
  induction items with
  | nil => cases member
  | cons head rest ih =>
    rw [List.map_cons, List.nodup_cons] at distinct
    rcases List.mem_cons.mp member with rfl | inRest
    · simp
    · have other : key head ≠ key item := fun same => distinct.1 (same ▸ List.mem_map_of_mem inRest)
      rw [List.find?_cons_of_neg (by simpa using other)]
      exact ih distinct.2 inRest

end DarktableAgent.Foundation
