import DarktableAgent.Foundation.Dict

/-! Folding partial updates over a dictionary.

Every item updates the entry of its own key and may refuse to. The fold comes
apart into one fold per key, so two lists whose items agree key by key are
interchangeable, however the keys are interleaved.
-/

set_option autoImplicit false

namespace DarktableAgent.Foundation

variable {κ ν ω ε : Type} [DecidableEq κ] (key : ω → κ) (absent : ω → ε) (update : ν → ω → Except ε ν)

/-- Update the entry of the item's key. -/
def applyKeyed (dict : Dict κ ν) (item : ω) : Except ε (Dict κ ν) :=
  match dict.get? (key item) with
  | none => .error (absent item)
  | some value => (update value item).map (dict.set (key item))

variable {key absent update} {dict dict' : Dict κ ν}

theorem applyKeyed_ok {item : ω} :
    applyKeyed key absent update dict item = .ok dict' ↔
      ∃ value value', dict.get? (key item) = some value ∧ update value item = .ok value' ∧
        dict' = dict.set (key item) value' := by
  unfold applyKeyed
  cases found : dict.get? (key item) with
  | none => simp
  | some value => cases result : update value item <;> simp [Except.map, result, eq_comm]

theorem foldlM_cons_ok {α β : Type} {step : β → α → Except ε β} {start result : β} {item : α} {rest : List α} :
    (item :: rest).foldlM step start = .ok result ↔
      ∃ middle, step start item = .ok middle ∧ rest.foldlM step middle = .ok result := by
  rw [List.foldlM_cons]
  cases step start item <;> simp [bind, Except.bind]

/-- A fold that succeeds leaves each entry at the fold of the items of its key. -/
theorem foldlM_applyKeyed_get? {items : List ω}
    (succeeds : items.foldlM (applyKeyed key absent update) dict = .ok dict') (wanted : κ) :
    (dict.get? wanted = none ∧ dict'.get? wanted = none ∧ items.filter (key · = wanted) = []) ∨
      ∃ value value', dict.get? wanted = some value ∧ dict'.get? wanted = some value' ∧
        (items.filter (key · = wanted)).foldlM update value = .ok value' := by
  induction items generalizing dict with
  | nil =>
    cases succeeds
    cases found : dict'.get? wanted with
    | none => exact .inl ⟨rfl, rfl, rfl⟩
    | some value => exact .inr ⟨value, value, rfl, rfl, rfl⟩
  | cons item rest ih =>
    obtain ⟨middle, first, others⟩ := foldlM_cons_ok.mp succeeds
    obtain ⟨value, value', found, updated, rfl⟩ := applyKeyed_ok.mp first
    have later := ih others
    -- the first item is one of its own key, and passes by every other key
    by_cases own : key item = wanted
    · subst own
      rw [Dict.get?_set_self] at later
      rcases later with ⟨missing, -⟩ | ⟨value₁, value₂, same, final, folded⟩
      · simp at missing
      · obtain rfl : value' = value₁ := Option.some.inj same
        refine .inr ⟨value, value₂, found, final, ?_⟩
        rw [List.filter_cons_of_pos (by simp), foldlM_cons_ok]
        exact ⟨value', updated, folded⟩
    · rw [Dict.get?_set_ne (Ne.symm own)] at later
      rwa [List.filter_cons_of_neg (by simpa using own)]

/-- A fold succeeds as soon as the fold of every key does. -/
theorem foldlM_applyKeyed_succeeds (key : ω → κ) (absent : ω → ε) (update : ν → ω → Except ε ν)
    (dict : Dict κ ν) (items : List ω)
    (each : ∀ item ∈ items, ∃ value value', dict.get? (key item) = some value ∧
      (items.filter (key · = key item)).foldlM update value = .ok value') :
    ∃ dict', items.foldlM (applyKeyed key absent update) dict = .ok dict' := by
  induction items generalizing dict with
  | nil => exact ⟨dict, rfl⟩
  | cons item rest ih =>
    obtain ⟨value, value', found, folded⟩ := each item List.mem_cons_self
    rw [List.filter_cons_of_pos (by simp)] at folded
    obtain ⟨middle, updated, others⟩ := foldlM_cons_ok.mp folded
    have first : applyKeyed key absent update dict item = .ok (dict.set (key item) middle) :=
      applyKeyed_ok.mpr ⟨value, middle, found, updated, rfl⟩
    -- after the first item each key still folds: its own from the new value on, the others as before
    obtain ⟨dict', ends⟩ := ih (dict.set (key item) middle) fun other member => by
      by_cases own : key other = key item
      · exact ⟨middle, value', by rw [own, Dict.get?_set_self], by rw [own]; exact others⟩
      · obtain ⟨otherValue, otherFinal, otherFound, otherFolded⟩ := each other (List.mem_cons_of_mem _ member)
        rw [List.filter_cons_of_neg (by simpa using Ne.symm own)] at otherFolded
        exact ⟨otherValue, otherFinal, by rw [Dict.get?_set_ne own, otherFound], otherFolded⟩
    exact ⟨dict', foldlM_cons_ok.mpr ⟨_, first, ends⟩⟩

theorem foldlM_applyKeyed_keys {items : List ω}
    (succeeds : items.foldlM (applyKeyed key absent update) dict = .ok dict') : dict'.keys = dict.keys := by
  induction items generalizing dict with
  | nil => cases succeeds; rfl
  | cons item rest ih =>
    obtain ⟨middle, first, others⟩ := foldlM_cons_ok.mp succeeds
    obtain ⟨value, value', found, -, rfl⟩ := applyKeyed_ok.mp first
    rw [ih others, Dict.keys_set_of_mem (Dict.get?_isSome_iff.mp (by rw [found]; rfl))]

/-- Lists that agree key by key fold alike. -/
theorem foldlM_applyKeyed_congr {left right : List ω}
    (agree : ∀ wanted, left.filter (key · = wanted) = right.filter (key · = wanted))
    (succeeds : left.foldlM (applyKeyed key absent update) dict = .ok dict') :
    ∃ dict'', right.foldlM (applyKeyed key absent update) dict = .ok dict'' ∧
      ∀ wanted, dict''.get? wanted = dict'.get? wanted := by
  -- the left fold tells each key's own fold, and these make the right one succeed
  have split := foldlM_applyKeyed_get? succeeds
  obtain ⟨dict'', ends⟩ := foldlM_applyKeyed_succeeds key absent update dict right fun item member => by
      rcases split (key item) with ⟨-, -, none⟩ | ⟨value, value', found, -, folded⟩
      · have inOwn : item ∈ right.filter (key · = key item) := List.mem_filter.mpr ⟨member, by simp⟩
        rw [← agree, none] at inOwn
        exact absurd inOwn List.not_mem_nil
      · exact ⟨value, value', found, agree (key item) ▸ folded⟩
  refine ⟨dict'', ends, fun wanted => ?_⟩
  rcases split wanted with ⟨missing, missing', -⟩ | ⟨value, value', found, final, folded⟩
  · rcases foldlM_applyKeyed_get? ends wanted with ⟨-, gone, -⟩ | ⟨value, -, found, -⟩
    · rw [gone, missing']
    · rw [missing] at found
      exact absurd found (by simp)
  · rcases foldlM_applyKeyed_get? ends wanted with ⟨missing, -⟩ | ⟨value₁, value₂, found₁, final₁, folded₁⟩
    · rw [missing] at found
      exact absurd found (by simp)
    · obtain rfl : value = value₁ := Option.some.inj (found.symm.trans found₁)
      rw [← agree, folded] at folded₁
      rw [final₁, final, Except.ok.inj folded₁]

/-- Lists that agree key by key end in the same dictionary, its order of keys included. -/
theorem foldlM_applyKeyed_reorder {left right : List ω}
    (agree : ∀ wanted, left.filter (key · = wanted) = right.filter (key · = wanted))
    (succeeds : left.foldlM (applyKeyed key absent update) dict = .ok dict') :
    right.foldlM (applyKeyed key absent update) dict = .ok dict' := by
  obtain ⟨dict'', ends, values⟩ := foldlM_applyKeyed_congr agree succeeds
  have keys : dict''.keys = dict'.keys := (foldlM_applyKeyed_keys ends).trans (foldlM_applyKeyed_keys succeeds).symm
  rw [ends, Dict.ext_keys keys values]

end DarktableAgent.Foundation
