import Mathlib.Data.List.Nodup
import Mathlib.Logic.Function.Basic

/-! The last item of every key: what is left of a history in which later items override earlier ones. -/

set_option autoImplicit false

namespace DarktableAgent.Foundation

variable {α κ ν : Type} [DecidableEq κ] (key : α → κ)

/-- The last item of one key. -/
def latest (wanted : κ) (items : List α) : Option α := items.findRev? fun item => key item = wanted

/-- The items that no later one of their key overrides. -/
def lastOfKey : List α → List α
  | [] => []
  | item :: rest => if key item ∈ rest.map key then lastOfKey rest else item :: lastOfKey rest

/-- Every item sets the entry of its key. -/
def replay (value : α → ν) (start : κ → ν) (items : List α) : κ → ν :=
  items.foldl (fun state item => Function.update state (key item) (value item)) start

variable {key} {items : List α} {item : α} {wanted : κ}

theorem latest_cons : latest key wanted (item :: items) =
    (latest key wanted items).or (if key item = wanted then some item else none) := by
  unfold latest
  rw [List.findRev?]
  cases items.findRev? fun item => key item = wanted <;> simp

theorem latest_eq_none : latest key wanted items = none ↔ wanted ∉ items.map key := by
  simp [latest]

theorem latest_some (found : latest key wanted items = some item) : item ∈ items ∧ key item = wanted := by
  rw [latest, List.findRev?_eq_find?_reverse] at found
  exact ⟨List.mem_reverse.mp (List.mem_of_find?_eq_some found), by simpa using List.find?_some found⟩

theorem latest_map {β : Type} {key : β → κ} (f : α → β) (items : List α) :
    latest key wanted (items.map f) = (latest (fun item => key (f item)) wanted items).map f := by
  induction items with
  | nil => rfl
  | cons item rest ih =>
    rw [List.map_cons, latest_cons, latest_cons, ih]
    cases latest (fun item => key (f item)) wanted rest with
    | some later => rfl
    | none => by_cases same : key (f item) = wanted <;> simp [same]

/-- Keys that single out the same items have the same last item. -/
theorem latest_congr {μ : Type} [DecidableEq μ] {key' : α → μ} {wanted' : μ}
    (alike : ∀ item, key item = wanted ↔ key' item = wanted') :
    latest key wanted items = latest key' wanted' items := by
  simp only [latest, alike]

theorem lastOfKey_sublist : (lastOfKey key items).Sublist items := by
  induction items with
  | nil => apply List.Sublist.refl
  | cons item rest ih =>
    unfold lastOfKey
    split_ifs
    · exact ih.cons item
    · exact ih.cons_cons item

theorem lastOfKey_nodup : ((lastOfKey key items).map key).Nodup := by
  induction items with
  | nil => apply List.nodup_nil
  | cons item rest ih =>
    unfold lastOfKey
    split_ifs with overridden
    · exact ih
    · rw [List.map_cons, List.nodup_cons]
      exact ⟨fun later => overridden ((lastOfKey_sublist.map key).subset later), ih⟩

/-- What is left are the last items of their keys. -/
theorem mem_lastOfKey : item ∈ lastOfKey key items ↔ latest key (key item) items = some item := by
  induction items with
  | nil => simp [lastOfKey, latest]
  | cons head rest ih =>
    rw [latest_cons]
    by_cases overridden : key head ∈ rest.map key
    · rw [lastOfKey, if_pos overridden, ih]
      by_cases same : key head = key item
      · -- a later item has the key, so the head is not asked
        cases found : latest key (key item) rest with
        | none => exact absurd (same ▸ overridden) (latest_eq_none.mp found)
        | some other => rfl
      · rw [if_neg same, Option.or_none]
    · rw [lastOfKey, if_neg overridden, List.mem_cons, ih]
      by_cases same : key head = key item
      · rw [same] at overridden
        rw [latest_eq_none.mpr overridden, if_pos same, Option.none_or]
        simp [eq_comm]
      · rw [if_neg same, Option.or_none, or_iff_right]
        rintro rfl
        exact same rfl

/-- Every key that occurs has its last item. -/
theorem latest_mem_lastOfKey (found : latest key wanted items = some item) : item ∈ lastOfKey key items := by
  rw [mem_lastOfKey, (latest_some found).2]
  exact found

section Selected

variable {selected : α → Bool}

/-- No selected item is overridden. -/
def NoneOverridden (key : α → κ) (selected : α → Bool) (items : List α) : Prop :=
  items.Pairwise fun item later => selected item → key later ≠ key item

theorem lastOfKey_filter_sublist : ((lastOfKey key items).filter selected).Sublist (items.filter selected) :=
  lastOfKey_sublist.filter selected

/-- The selected items are as many as the selected last ones exactly when none is overridden. -/
theorem filter_length_eq_iff : (items.filter selected).length = ((lastOfKey key items).filter selected).length ↔
    NoneOverridden key selected items := by
  induction items with
  | nil => simp [lastOfKey, NoneOverridden]
  | cons item rest ih =>
    have atMost : ((lastOfKey key rest).filter selected).length ≤ (rest.filter selected).length :=
      lastOfKey_filter_sublist.length_le
    rw [NoneOverridden, List.pairwise_cons, ← NoneOverridden, ← ih]
    by_cases isSelected : selected item
    · rw [List.filter_cons_of_pos isSelected, List.length_cons]
      by_cases overridden : key item ∈ rest.map key
      · rw [lastOfKey, if_pos overridden]
        obtain ⟨later, inRest, same⟩ := List.mem_map.mp overridden
        refine iff_of_false (by omega) fun none => none.1 later inRest isSelected same
      · have free : ∀ later ∈ rest, selected item → key later ≠ key item :=
          fun later inRest _ same => overridden (List.mem_map.mpr ⟨later, inRest, same⟩)
        rw [lastOfKey, if_neg overridden, List.filter_cons_of_pos isSelected, List.length_cons, Nat.add_right_cancel_iff,
          and_iff_right free]
    · have kept : ((lastOfKey key (item :: rest)).filter selected) = (lastOfKey key rest).filter selected := by
        rw [lastOfKey]
        split_ifs
        · rfl
        · rw [List.filter_cons_of_neg isSelected]
      rw [List.filter_cons_of_neg isSelected, kept, and_iff_right]
      intro later _ isSelected'
      exact absurd isSelected' isSelected

theorem filter_eq_of_noneOverridden (none : NoneOverridden key selected items) :
    items.filter selected = (lastOfKey key items).filter selected :=
  (lastOfKey_filter_sublist.eq_of_length (filter_length_eq_iff.mpr none).symm).symm

end Selected

/-- A replay leaves the value of the last item of the key. -/
theorem replay_apply (value : α → ν) (start : κ → ν) (items : List α) (wanted : κ) :
    replay key value start items wanted = ((latest key wanted items).map value).getD (start wanted) := by
  induction items generalizing start with
  | nil => rfl
  | cons item rest ih =>
    have step : replay key value start (item :: rest) =
        replay key value (Function.update start (key item) (value item)) rest := rfl
    rw [step, ih, latest_cons]
    cases latest key wanted rest with
    | some later => rfl
    | none =>
      by_cases same : key item = wanted
      · subst same
        simp
      · simp [same, Function.update_of_ne (Ne.symm same)]

end DarktableAgent.Foundation
