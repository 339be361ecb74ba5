import Mathlib.Data.List.Basic

/-! Sorting the selected elements of a list in place.

The elements that satisfy a predicate are sorted stably among the positions they
occupy; all others stay where they are. A subsequence whose elements are treated
alike keeps its order.
-/

set_option autoImplicit false

namespace DarktableAgent.Foundation

variable {α : Type} (selected : α → Bool) (le : α → α → Bool)

/-- Put the replacements, in order, at the positions of the selected elements. -/
def refill : List α → List α → List α
  | [], items => items
  | _, [] => []
  | replacement :: rest, item :: items =>
    if selected item then replacement :: refill rest items
    else item :: refill (replacement :: rest) items

def sortSelected (items : List α) : List α :=
  let chosen := items.filter selected
  if chosen.length < 2 then items else refill selected (chosen.mergeSort le) items

variable {selected le}

theorem refill_nil (replacements : List α) (none : replacements = []) (items : List α) :
    refill selected replacements items = items := by
  subst none
  cases items <;> rfl

theorem refill_cons_selected {item : α} (isSelected : selected item) (replacement : α)
    (rest items : List α) :
    refill selected (replacement :: rest) (item :: items) = replacement :: refill selected rest items := by
  rw [refill, if_pos isSelected]

theorem refill_cons_other {item : α} (other : ¬ selected item) (replacements items : List α) :
    refill selected replacements (item :: items) = item :: refill selected replacements items := by
  cases replacements with
  | nil => rw [refill_nil [] rfl, refill_nil [] rfl]
  | cons replacement rest => rw [refill, if_neg other]

/-- Refilling with as many replacements as there are selected elements exchanges just those. -/
theorem refill_perm (replacements items : List α)
    (count : replacements.length = (items.filter selected).length) :
    (refill selected replacements items).Perm (replacements ++ items.filter fun item => !selected item) := by
  induction items generalizing replacements with
  | nil =>
    obtain rfl : replacements = [] := List.length_eq_zero_iff.mp count
    exact .refl _
  | cons item items ih =>
    by_cases isSelected : selected item
    · rw [List.filter_cons_of_pos isSelected, List.length_cons] at count
      obtain ⟨replacement, rest, rfl⟩ := List.exists_cons_of_length_eq_add_one count
      rw [refill_cons_selected isSelected, List.filter_cons_of_neg (by simpa using isSelected)]
      exact (ih rest (by simpa using count)).cons replacement
    · rw [List.filter_cons_of_neg isSelected] at count
      rw [refill_cons_other isSelected, List.filter_cons_of_pos (by simpa using isSelected)]
      exact ((ih replacements count).cons item).trans List.perm_middle.symm

/-- The sorted list holds the same elements. -/
theorem sortSelected_perm (items : List α) : (sortSelected selected le items).Perm items := by
  simp only [sortSelected]
  split_ifs
  · exact .refl _
  · refine (refill_perm _ _ (List.length_mergeSort _)).trans ?_
    refine (List.Perm.append_right _ (List.mergeSort_perm _ le)).trans ?_
    exact List.filter_append_perm selected items

/-- Two selected elements are sorted by one comparison. -/
theorem sortSelected_pair {first second : α} (selectedFirst : selected first) (selectedSecond : selected second) :
    sortSelected selected le [first, second] = if le first second then [first, second] else [second, first] := by
  have chosen : [first, second].filter selected = [first, second] := by
    rw [List.filter_cons_of_pos selectedFirst, List.filter_cons_of_pos selectedSecond, List.filter_nil]
  have sorted : [first, second].mergeSort le = if le first second then [first, second] else [second, first] := by
    simp [List.mergeSort, List.merge]
  simp only [sortSelected, chosen, sorted, List.length_cons, List.length_nil]
  rw [if_neg (by decide)]
  split_ifs <;> simp [refill, selectedFirst, selectedSecond]

/-- Elements of a class that is never selected are not moved past each other. -/
theorem refill_filter_other {class' : α → Bool} (replacements items : List α)
    (others : ∀ item ∈ items, class' item → ¬ selected item)
    (outside : ∀ replacement ∈ replacements, ¬ class' replacement) :
    (refill selected replacements items).filter class' = items.filter class' := by
  induction items generalizing replacements with
  | nil => cases replacements <;> rfl
  | cons item items ih =>
    have tailOthers := fun other member => others other (List.mem_cons_of_mem item member)
    by_cases isSelected : selected item
    · have notMember : ¬ class' item := fun inClass => others item List.mem_cons_self inClass isSelected
      cases replacements with
      | nil => rfl
      | cons replacement rest =>
        rw [refill_cons_selected isSelected, List.filter_cons_of_neg (outside _ List.mem_cons_self),
          List.filter_cons_of_neg notMember]
        exact ih rest tailOthers fun other member => outside other (List.mem_cons_of_mem _ member)
    · rw [refill_cons_other isSelected]
      by_cases inClass : class' item
      · rw [List.filter_cons_of_pos inClass, List.filter_cons_of_pos inClass, ih _ tailOthers outside]
      · rw [List.filter_cons_of_neg inClass, List.filter_cons_of_neg inClass, ih _ tailOthers outside]

/-- Elements of a class that is always selected come in the order of the replacements. -/
theorem refill_filter_selected {class' : α → Bool} (replacements items : List α)
    (allSelected : ∀ item ∈ items, class' item → selected item)
    (count : replacements.length = (items.filter selected).length) :
    (refill selected replacements items).filter class' = replacements.filter class' := by
  induction items generalizing replacements with
  | nil =>
    obtain rfl : replacements = [] := List.length_eq_zero_iff.mp count
    rfl
  | cons item items ih =>
    have tailSelected := fun other member => allSelected other (List.mem_cons_of_mem item member)
    by_cases isSelected : selected item
    · rw [List.filter_cons_of_pos isSelected, List.length_cons] at count
      obtain ⟨replacement, rest, rfl⟩ := List.exists_cons_of_length_eq_add_one count
      rw [refill_cons_selected isSelected, List.filter_cons, List.filter_cons,
        ih rest tailSelected (by simpa using count)]
    · rw [List.filter_cons_of_neg isSelected] at count
      have notMember : ¬ class' item := fun inClass => isSelected (allSelected item List.mem_cons_self inClass)
      rw [refill_cons_other isSelected, List.filter_cons_of_neg notMember, ih _ tailSelected count]

/-- The sort keeps the order of any class whose elements compare equal and are either all selected
or all left alone. -/
theorem sortSelected_filter {class' : α → Bool} {items : List α}
    (trans : ∀ first second third, le first second → le second third → le first third)
    (total : ∀ first second, le first second || le second first)
    (alike : ∀ first ∈ items, ∀ second ∈ items, class' first → class' second → le first second)
    (uniform : (∀ item ∈ items, class' item → selected item) ∨ ∀ item ∈ items, class' item → ¬ selected item) :
    (sortSelected selected le items).filter class' = items.filter class' := by
  have chosenMem {item : α} (member : item ∈ (items.filter selected).mergeSort le) :
      item ∈ items ∧ selected item := by
    rwa [List.mem_mergeSort, List.mem_filter] at member
  simp only [sortSelected]
  split_ifs
  · rfl
  · rcases uniform with allSelected | noneSelected
    · rw [refill_filter_selected _ _ allSelected (List.length_mergeSort _)]
      have classChosen : (items.filter selected).filter class' = items.filter class' := by
        rw [List.filter_filter]
        refine List.filter_congr fun item member => ?_
        by_cases inClass : class' item
        · simp [inClass, allSelected item member inClass]
        · simp [inClass]
      -- the class is already ordered, so a stable sort keeps it as a subsequence
      have ordered : ((items.filter selected).filter class').Pairwise fun first second => le first second := by
        rw [classChosen]
        refine List.pairwise_of_forall_mem_list fun first inFirst second inSecond => ?_
        rw [List.mem_filter] at inFirst inSecond
        exact alike first inFirst.1 second inSecond.1 inFirst.2 inSecond.2
      have kept := (List.sublist_mergeSort trans total ordered List.filter_sublist).filter class'
      rw [List.filter_eq_self.mpr fun item member => (List.mem_filter.mp member).2] at kept
      have sameLength := ((List.mergeSort_perm (items.filter selected) le).filter class').length_eq
      rw [← kept.eq_of_length sameLength.symm, classChosen]
    · exact refill_filter_other _ _ noneSelected fun item member inClass =>
        noneSelected item (chosenMem member).1 inClass (chosenMem member).2

theorem refill_map {β : Type} (f : β → α) (replacements items : List β) :
    refill selected (replacements.map f) (items.map f) =
      (refill (fun item => selected (f item)) replacements items).map f := by
  induction items generalizing replacements with
  | nil => cases replacements <;> rfl
  | cons item items ih =>
    cases replacements with
    | nil => rfl
    | cons replacement rest =>
      simp only [List.map_cons, refill]
      split_ifs
      · rw [List.map_cons, ih]
      · rw [List.map_cons, ← ih, List.map_cons]

/-- Sorting images sorts by what the images are compared by. -/
theorem sortSelected_map {β : Type} (f : β → α) (items : List β) :
    sortSelected selected le (items.map f) =
      (sortSelected (fun item => selected (f item)) (fun first second => le (f first) (f second)) items).map f := by
  have chosen : (items.map f).filter selected = (items.filter fun item => selected (f item)).map f := by
    rw [List.filter_map]
    rfl
  simp only [sortSelected, chosen, List.length_map]
  split_ifs
  · rfl
  · rw [← refill_map]
    have sorted := List.map_mergeSort (s := le) (f := f)
      (r := fun first second => le (f first) (f second)) (l := items.filter fun item => selected (f item))
      fun _ _ _ _ => rfl
    rw [sorted]

end DarktableAgent.Foundation
