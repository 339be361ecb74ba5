import Mathlib.Data.List.Nodup

/-! Insertion-ordered dictionaries with distinct keys.

Assigning to a present key keeps its position; a new key goes to the end.
-/

set_option autoImplicit false

namespace DarktableAgent.Foundation

variable {κ ν : Type} [DecidableEq κ]

/-- Replace the value of every entry with the given key. -/
def replaceValue (key : κ) (value : ν) (entries : List (κ × ν)) : List (κ × ν) :=
  entries.map fun entry => if entry.1 = key then (key, value) else entry

theorem replaceValue_cons (key : κ) (value : ν) (entry : κ × ν) (rest : List (κ × ν)) :
    replaceValue key value (entry :: rest) =
      (if entry.1 = key then (key, value) else entry) :: replaceValue key value rest := rfl

/-- Looking a key up, one entry at a time. -/
theorem lookup_cons_if (key : κ) (entry : κ × ν) (rest : List (κ × ν)) :
    (entry :: rest).lookup key = if key = entry.1 then some entry.2 else rest.lookup key := by
  rw [List.lookup_cons]
  by_cases same : key = entry.1
  · simp [same]
  · simp [same, beq_false_of_ne same]

theorem replaceValue_keys (key : κ) (value : ν) (entries : List (κ × ν)) :
    (replaceValue key value entries).map (·.1) = entries.map (·.1) := by
  rw [replaceValue, List.map_map]
  apply List.map_congr_left
  intro entry _
  by_cases same : entry.1 = key <;> simp [same]

theorem lookup_isSome_iff_mem_keys (key : κ) (entries : List (κ × ν)) :
    (entries.lookup key).isSome ↔ key ∈ entries.map (·.1) := by
  induction entries with
  | nil => simp
  | cons entry rest ih =>
    rw [lookup_cons_if, List.map_cons, List.mem_cons]
    by_cases same : key = entry.1
    · simp [same]
    · simp [same, ih]

theorem lookup_replaceValue_self (key : κ) (value : ν) (entries : List (κ × ν))
    (present : key ∈ entries.map (·.1)) : (replaceValue key value entries).lookup key = some value := by
  induction entries with
  | nil => simp at present
  | cons entry rest ih =>
    rw [replaceValue_cons, lookup_cons_if]
    by_cases same : entry.1 = key
    · rw [if_pos same, if_pos rfl]
    · have later : key ∈ rest.map (·.1) := by
        rcases List.mem_cons.mp present with here | later
        · exact absurd here.symm same
        · exact later
      rw [if_neg same, if_neg (Ne.symm same)]
      exact ih later

theorem lookup_replaceValue_ne {key other : κ} (distinct : other ≠ key) (value : ν)
    (entries : List (κ × ν)) : (replaceValue key value entries).lookup other = entries.lookup other := by
  induction entries with
  | nil => rfl
  | cons entry rest ih =>
    rw [replaceValue_cons, lookup_cons_if, lookup_cons_if, ih]
    by_cases same : entry.1 = key
    · rw [if_pos same, if_neg distinct, if_neg (same ▸ distinct)]
    · rw [if_neg same]

structure Dict (κ ν : Type) [DecidableEq κ] where
  entries : List (κ × ν)
  distinct : (entries.map (·.1)).Nodup

namespace Dict

variable (dict : Dict κ ν)

def empty : Dict κ ν := ⟨[], List.nodup_nil⟩

def get? (key : κ) : Option ν := dict.entries.lookup key

def keys : List κ := dict.entries.map (·.1)

/-- `dict[key] = value` -/
def set (key : κ) (value : ν) : Dict κ ν :=
  if present : key ∈ dict.entries.map (·.1) then
    ⟨replaceValue key value dict.entries, by rw [replaceValue_keys]; exact dict.distinct⟩
  else
    ⟨dict.entries ++ [(key, value)], by
      rw [List.map_append, List.nodup_append]
      refine ⟨dict.distinct, by simp, ?_⟩
      rintro old member new inLast rfl
      obtain rfl := List.mem_singleton.mp inLast
      exact present member⟩

/-- `dict.pop(key, None)`, without the value. -/
def erase (key : κ) : Dict κ ν where
  entries := dict.entries.filter (·.1 ≠ key)
  distinct := dict.distinct.sublist (List.filter_sublist.map _)

/-- Build a dictionary by assigning the pairs in order; a later pair wins. -/
def ofPairs (pairs : List (κ × ν)) : Dict κ ν :=
  pairs.foldl (fun dict (key, value) => dict.set key value) empty

variable {dict} {key other : κ} {value : ν}

/-- The entries have distinct keys, so each is the one its key looks up. -/
theorem get?_of_mem (member : (key, value) ∈ dict.entries) : dict.get? key = some value := by
  obtain ⟨entries, distinct⟩ := dict
  unfold get?
  dsimp only at member ⊢
  induction entries with
  | nil => cases member
  | cons entry rest ih =>
    rw [List.map_cons, List.nodup_cons] at distinct
    rw [lookup_cons_if]
    rcases List.mem_cons.mp member with rfl | later
    · exact if_pos rfl
    · have other : key ≠ entry.1 := by
        rintro rfl
        exact distinct.1 (List.mem_map.mpr ⟨_, later, rfl⟩)
      rw [if_neg other]
      exact ih distinct.2 later

theorem mem_of_get? (found : dict.get? key = some value) : (key, value) ∈ dict.entries := by
  have present : key ∈ dict.entries.map (·.1) :=
    (lookup_isSome_iff_mem_keys key dict.entries).mp (Option.isSome_of_eq_some found)
  obtain ⟨⟨_, other⟩, member, rfl⟩ := List.mem_map.mp present
  obtain rfl : other = value := Option.some.inj ((get?_of_mem member).symm.trans found)
  exact member

theorem get?_isSome_iff : (dict.get? key).isSome ↔ key ∈ dict.keys :=
  lookup_isSome_iff_mem_keys key dict.entries

@[simp] theorem get?_empty : (empty : Dict κ ν).get? key = none := rfl

theorem lookup_append_last (entries : List (κ × ν)) (key other : κ) (value : ν) :
    (entries ++ [(key, value)]).lookup other =
      (entries.lookup other).or (if other = key then some value else none) := by
  induction entries with
  | nil => simp [lookup_cons_if]
  | cons entry rest ih =>
    rw [List.cons_append, lookup_cons_if, lookup_cons_if, ih]
    by_cases found : other = entry.1 <;> simp [found]

@[simp] theorem get?_set_self : (dict.set key value).get? key = some value := by
  unfold set get?
  split_ifs with present
  · exact lookup_replaceValue_self key value dict.entries present
  · have absent : dict.entries.lookup key = none := by
      rw [← Option.not_isSome_iff_eq_none, lookup_isSome_iff_mem_keys]
      exact present
    simp [lookup_append_last, absent]

theorem get?_set_ne (distinct : other ≠ key) : (dict.set key value).get? other = dict.get? other := by
  unfold set get?
  split_ifs with present
  · exact lookup_replaceValue_ne distinct value dict.entries
  · simp [lookup_append_last, distinct]

theorem get?_set (key other : κ) (value : ν) :
    (dict.set key value).get? other = if other = key then some value else dict.get? other := by
  by_cases same : other = key
  · rw [same, if_pos rfl, get?_set_self]
  · rw [if_neg same, get?_set_ne same]

theorem lookup_filter_ne (entries : List (κ × ν)) (key other : κ) :
    (entries.filter (·.1 ≠ key)).lookup other = if other = key then none else entries.lookup other := by
  induction entries with
  | nil => simp
  | cons entry rest ih =>
    by_cases removed : entry.1 = key
    · rw [List.filter_cons_of_neg (by simpa using removed), ih, lookup_cons_if, removed]
      by_cases same : other = key <;> simp [same]
    · rw [List.filter_cons_of_pos (by simpa using removed), lookup_cons_if, lookup_cons_if, ih]
      by_cases same : other = entry.1 <;> simp [same, removed]

theorem get?_erase (key other : κ) :
    (dict.erase key).get? other = if other = key then none else dict.get? other :=
  lookup_filter_ne dict.entries key other

/-- Dictionaries with the same keys, in the same order, and the same values are equal. -/
theorem ext_keys {left right : Dict κ ν} (keys : left.keys = right.keys)
    (values : ∀ key, left.get? key = right.get? key) : left = right := by
  -- the keys in their order and their values make up the entries
  have listed (dict : Dict κ ν) :
      dict.entries.map (fun entry => (entry.1, some entry.2)) = dict.keys.map fun key => (key, dict.get? key) := by
    rw [Dict.keys, List.map_map]
    refine List.map_congr_left fun entry member => ?_
    rw [Function.comp_apply, get?_of_mem member]
  have same : left.entries.map (fun entry => (entry.1, some entry.2)) =
      right.entries.map fun entry => (entry.1, some entry.2) := by
    rw [listed left, listed right, keys]
    exact List.map_congr_left fun key _ => by rw [values key]
  have injective : Function.Injective fun entry : κ × ν => (entry.1, some entry.2) := by
    rintro ⟨key, value⟩ ⟨key', value'⟩ equal
    simpa using equal
  cases left
  cases right
  congr 1
  exact List.map_injective_iff.mpr injective same

/-- Assigning to a present key adds no key. -/
theorem keys_set_of_mem (present : key ∈ dict.keys) : (dict.set key value).keys = dict.keys := by
  have inside : key ∈ dict.entries.map (·.1) := present
  unfold set keys
  rw [dif_pos inside]
  exact replaceValue_keys key value dict.entries

theorem mem_keys_set : other ∈ (dict.set key value).keys ↔ other = key ∨ other ∈ dict.keys := by
  rw [← get?_isSome_iff, get?_set, ← get?_isSome_iff]
  by_cases same : other = key <;> simp [same]

/-- A property of every assigned pair holds of every entry of the built dictionary. -/
theorem ofPairs_forall {pairs : List (κ × ν)} (property : κ → ν → Prop)
    (holds : ∀ pair ∈ pairs, property pair.1 pair.2) {key : κ} {value : ν}
    (found : (ofPairs pairs).get? key = some value) : property key value := by
  -- the fold starts anywhere, so that the induction can go through
  suffices invariant : ∀ (dict : Dict κ ν), (∀ key value, dict.get? key = some value → property key value) →
      ∀ key value, (pairs.foldl (fun dict (key, value) => dict.set key value) dict).get? key = some value →
        property key value from
    invariant empty (by simp) key value found
  clear found key value
  induction pairs with
  | nil => exact fun dict kept => kept
  | cons pair rest ih =>
    intro dict kept
    refine ih (fun other member => holds other (List.mem_cons_of_mem _ member)) _ ?_
    intro key value found
    rw [get?_set] at found
    split_ifs at found with same
    · cases found
      exact same ▸ holds pair (List.mem_cons_self)
    · exact kept key value found

theorem mem_keys_ofPairs {pairs : List (κ × ν)} {key : κ} :
    key ∈ (ofPairs pairs).keys ↔ key ∈ pairs.map (·.1) := by
  suffices grown : ∀ (dict : Dict κ ν),
      key ∈ (pairs.foldl (fun dict (key, value) => dict.set key value) dict).keys ↔
        key ∈ dict.keys ∨ key ∈ pairs.map (·.1) by
    exact (grown empty).trans (or_iff_right (List.not_mem_nil))
  induction pairs with
  | nil => simp
  | cons pair rest ih =>
    intro dict
    rw [List.foldl_cons, ih, mem_keys_set, List.map_cons, List.mem_cons]
    tauto

/-- Without repeated keys, the built dictionary answers with the pairs it was built from. -/
theorem get?_ofPairs_of_mem {pairs : List (κ × ν)} (distinct : (pairs.map (·.1)).Nodup) {key : κ} {value : ν}
    (member : (key, value) ∈ pairs) : (ofPairs pairs).get? key = some value := by
  suffices found : ∀ (dict : Dict κ ν),
      (pairs.foldl (fun dict (key, value) => dict.set key value) dict).get? key = some value from found empty
  -- no later pair has the key, so its value stays once it is assigned
  have untouched (rest : List (κ × ν)) (absent : key ∉ rest.map (·.1)) (dict : Dict κ ν) :
      (rest.foldl (fun dict (key, value) => dict.set key value) dict).get? key = dict.get? key := by
    induction rest generalizing dict with
    | nil => rfl
    | cons pair rest ih =>
      rw [List.map_cons, List.mem_cons, not_or] at absent
      rw [List.foldl_cons, ih absent.2, get?_set_ne absent.1]
  induction pairs with
  | nil => cases member
  | cons pair rest ih =>
    intro dict
    rw [List.map_cons, List.nodup_cons] at distinct
    rcases List.mem_cons.mp member with rfl | later
    · rw [List.foldl_cons, untouched rest distinct.1, get?_set_self]
    · exact ih distinct.2 later _

/-- Mapping the values of the pairs maps the values of the dictionary. -/
theorem get?_ofPairs_map {μ : Type} (change : ν → μ) (pairs : List (κ × ν)) (key : κ) :
    (ofPairs (pairs.map fun pair => (pair.1, change pair.2))).get? key = ((ofPairs pairs).get? key).map change := by
  -- both folds start from dictionaries that are related in this way
  suffices related : ∀ (left : Dict κ μ) (right : Dict κ ν),
      (∀ key, left.get? key = (right.get? key).map change) →
      ∀ key, ((pairs.map fun pair => (pair.1, change pair.2)).foldl (fun dict (key, value) => dict.set key value)
          left).get? key =
        ((pairs.foldl (fun dict (key, value) => dict.set key value) right).get? key).map change from
    related empty empty (fun _ => rfl) key
  induction pairs with
  | nil => exact fun _ _ same => same
  | cons pair rest ih =>
    intro left right same
    rw [List.map_cons, List.foldl_cons, List.foldl_cons]
    refine ih _ _ fun key => ?_
    rw [get?_set, get?_set, same]
    by_cases here : key = pair.1
    · rw [if_pos here, if_pos here, Option.map_some]
    · rw [if_neg here, if_neg here]

end Dict

end DarktableAgent.Foundation
