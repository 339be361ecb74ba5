import Mathlib.Data.List.Nodup

/-! Keeping the first item of every key.

What is kept names every item exactly when the key is as fine as the name.
-/

set_option autoImplicit false

namespace DarktableAgent.Foundation

variable {α κ ν : Type} [DecidableEq κ] (key : α → κ)

/-- The items whose key is not `seen`, and of several with one key the first. -/
def firstOfKey (seen : List κ) : List α → List α
  | [] => []
  | item :: rest =>
    if key item ∈ seen then firstOfKey seen rest else item :: firstOfKey (key item :: seen) rest

theorem firstOfKey_map {β : Type} (f : β → α) (seen : List κ) (items : List β) :
    firstOfKey key seen (items.map f) = (firstOfKey (fun item => key (f item)) seen items).map f := by
  induction items generalizing seen with
  | nil => rfl
  | cons item rest ih =>
    simp only [List.map_cons, firstOfKey]
    split_ifs
    · exact ih seen
    · rw [List.map_cons, ih]

theorem firstOfKey_sublist (seen : List κ) (items : List α) : (firstOfKey key seen items).Sublist items := by
  induction items generalizing seen with
  | nil => apply List.Sublist.refl
  | cons item rest ih =>
    unfold firstOfKey
    split_ifs
    · exact (ih seen).cons item
    · exact (ih _).cons_cons item

theorem key_not_mem_seen {seen : List κ} {items : List α} {kept : α} (member : kept ∈ firstOfKey key seen items) :
    key kept ∉ seen := by
  induction items generalizing seen with
  | nil => cases member
  | cons item rest ih =>
    unfold firstOfKey at member
    split_ifs at member with known
    · exact ih member
    · rcases List.mem_cons.mp member with rfl | later
      · exact known
      · exact fun inSeen => ih later (List.mem_cons_of_mem _ inSeen)

theorem firstOfKey_nodup (seen : List κ) (items : List α) : ((firstOfKey key seen items).map key).Nodup := by
  induction items generalizing seen with
  | nil => apply List.nodup_nil
  | cons item rest ih =>
    unfold firstOfKey
    split_ifs
    · exact ih seen
    · rw [List.map_cons, List.nodup_cons]
      constructor
      · intro repeated
        obtain ⟨kept, member, same⟩ := List.mem_map.mp repeated
        exact key_not_mem_seen key member (by rw [same]; exact List.mem_cons_self)
      · exact ih _

/-- Every item is covered by a kept one of its key. -/
theorem firstOfKey_covers {seen : List κ} {items : List α} {item : α} (member : item ∈ items)
    (unseen : key item ∉ seen) : ∃ kept ∈ firstOfKey key seen items, key kept = key item := by
  induction items generalizing seen with
  | nil => cases member
  | cons head rest ih =>
    unfold firstOfKey
    split_ifs with known
    · rcases List.mem_cons.mp member with rfl | later
      · exact absurd known unseen
      · exact ih later unseen
    -- the first item covers its own key, and what has another key is covered by the rest
    · by_cases same : key head = key item
      · exact ⟨head, List.mem_cons_self, same⟩
      · have later : item ∈ rest := (List.mem_cons.mp member).resolve_left fun here => same (by rw [here])
        have fresh : key item ∉ key head :: seen := by simp [unseen, Ne.symm same]
        obtain ⟨kept, inRest, sameKey⟩ := ih later fresh
        exact ⟨kept, List.mem_cons_of_mem _ inRest, sameKey⟩

omit [DecidableEq κ] in
/-- A list with distinct keys that names every item tells apart by its keys whatever has two names. -/
theorem name_eq_of_key_eq {name : α → ν} {items kept : List α} (sublist : kept.Sublist items)
    (distinct : (kept.map key).Nodup)
    (named : ∀ first ∈ items, ∀ second ∈ items, name first = name second → key first = key second)
    (covers : ∀ item ∈ items, ∃ same ∈ kept, name same = name item) :
    ∀ first ∈ items, ∀ second ∈ items, key first = key second → name first = name second := by
  intro first firstIn second secondIn sameKey
  obtain ⟨left, leftKept, leftName⟩ := covers first firstIn
  obtain ⟨right, rightKept, rightName⟩ := covers second secondIn
  have keys : key left = key right := by
    calc
      key left = key first := named left (sublist.subset leftKept) first firstIn leftName
      _ = key second := sameKey
      _ = key right := named second secondIn right (sublist.subset rightKept) rightName.symm
  rw [← leftName, List.inj_on_of_nodup_map distinct leftKept rightKept keys, rightName]

omit [DecidableEq κ] in
/-- A search that only one key can satisfy ends at the item of that key. -/
theorem find?_of_distinct {p : α → Bool} {items : List α} {wanted : α} (distinct : (items.map key).Nodup)
    (member : wanted ∈ items) (satisfied : p wanted = true)
    (only : ∀ item ∈ items, p item = true → key item = key wanted) : items.find? p = some wanted := by
  cases search : items.find? p with
  | none => exact absurd satisfied (List.find?_eq_none.mp search wanted member)
  | some first =>
    have inItems := List.mem_of_find?_eq_some search
    rw [List.inj_on_of_nodup_map distinct inItems member (only first inItems (List.find?_some search))]

end DarktableAgent.Foundation
