import DarktableAgent.Foundation.SelectedSort

/-! When two comparisons sort a list alike.

A stable sort is determined by how it compares each element with the elements
behind it, so two sorts agree exactly when the comparisons agree on those pairs.
What an observer sees of the elements is enough if both comparisons look at
nothing else.
-/

set_option autoImplicit false

namespace DarktableAgent.Foundation

variable {α β : Type} {selected : α → Bool} {le le' : α → α → Bool} {items : List α}

section Numbered

variable {left right : α × Nat}

theorem zipIdxLE_before (before : left.2 < right.2) : List.zipIdxLE le left right = le left.1 right.1 := by
  unfold List.zipIdxLE
  by_cases below : le left.1 right.1
  · by_cases above : le right.1 left.1
    · simp [below, above, Nat.le_of_lt before]
    · simp [below, above]
  · simp [below]

variable (total : ∀ first second, le first second || le second first)
include total

theorem zipIdxLE_behind (behind : right.2 < left.2) : List.zipIdxLE le left right = !le right.1 left.1 := by
  have either := total left.1 right.1
  unfold List.zipIdxLE
  by_cases below : le left.1 right.1
  · by_cases above : le right.1 left.1
    · simpa [below, above] using behind
    · simp [below, above]
  · simp only [below, Bool.false_or] at either
    simp [below, either]

theorem zipIdxLE_here (item : α) (position : Nat) : List.zipIdxLE le (item, position) (item, position) = true := by
  have reflexive := total item item
  rw [Bool.or_self] at reflexive
  simp [List.zipIdxLE, reflexive]

end Numbered

section Agreement

variable (total : ∀ first second, le first second || le second first)
  (total' : ∀ first second, le' first second || le' second first)
include total total'

/-- Comparisons that agree on each element and those behind it sort alike. -/
theorem mergeSort_congr_ordered (agree : items.Pairwise fun first second => le first second = le' first second) :
    items.mergeSort le = items.mergeSort le' := by
  have unnumbered (order : α → α → Bool) :
      (items.zipIdx.mergeSort (List.zipIdxLE order)).map (·.1) = items.mergeSort order := List.mergeSort_zipIdx
  rw [← unnumbered le, ← unnumbered le']
  -- numbering makes ties impossible, so both sorts of the numbered list compare alike
  have numbered : items.zipIdx.mergeSort (List.zipIdxLE le) = items.zipIdx.mergeSort (List.zipIdxLE le') := by
    have same := List.map_mergeSort (f := id) (l := items.zipIdx) (r := List.zipIdxLE le) (s := List.zipIdxLE le') ?_
    · simpa using same
    · rintro ⟨first, i⟩ inFirst ⟨second, j⟩ inSecond
      rw [List.mem_zipIdx_iff_getElem?] at inFirst inSecond
      dsimp only at inFirst inSecond
      obtain ⟨inRange, rfl⟩ := List.getElem?_eq_some_iff.mp inFirst
      obtain ⟨inRange', rfl⟩ := List.getElem?_eq_some_iff.mp inSecond
      rw [List.pairwise_iff_getElem] at agree
      rcases Nat.lt_trichotomy i j with before | rfl | behind
      · rw [zipIdxLE_before before, id, id, zipIdxLE_before before]
        exact agree i j inRange inRange' before
      · rw [zipIdxLE_here total, id, zipIdxLE_here total']
      · rw [zipIdxLE_behind total behind, id, id, zipIdxLE_behind total' behind]
        exact congrArg not (agree j i inRange' inRange behind)
  rw [numbered]

variable (trans : ∀ first second third, le first second → le second third → le first third)
  (trans' : ∀ first second third, le' first second → le' second third → le' first third)
include trans trans'

/-- An order of the elements that the other sort keeps, up to what `f` shows of them. -/
theorem le_of_map_mergeSort_eq {f : α → β} (seen : ∀ first second first' second', f first = f first' →
      f second = f second' → le' first second = le' first' second')
    (same : (items.mergeSort le).map f = (items.mergeSort le').map f) {first second : α}
    (behind : [first, second].Sublist items) (below : le first second) : le' first second := by
  have kept := (List.pair_sublist_mergeSort trans total below behind).map f
  rw [same, List.sublist_map_iff] at kept
  obtain ⟨images, inSorted, shown⟩ := kept
  obtain ⟨first', second', rfl⟩ : ∃ first' second', images = [first', second'] := by
    rw [← List.length_eq_two]
    simpa using (congrArg List.length shown).symm
  simp only [List.map_cons, List.map_nil, List.cons.injEq, and_true] at shown
  have ordered := List.pairwise_iff_forall_sublist.mp (List.pairwise_mergeSort trans' total' items) inSorted
  rw [seen first second first' second' shown.1 shown.2]
  exact ordered

/-- Two stable sorts show the same list exactly when they compare each element alike with those behind it. -/
theorem map_mergeSort_eq_iff {f : α → β}
    (seen : ∀ first second first' second', f first = f first' → f second = f second' →
      le first second = le first' second')
    (seen' : ∀ first second first' second', f first = f first' → f second = f second' →
      le' first second = le' first' second') :
    (items.mergeSort le).map f = (items.mergeSort le').map f ↔
      items.Pairwise fun first second => le first second = le' first second := by
  constructor
  · intro same
    refine List.pairwise_iff_forall_sublist.mpr fun behind => Bool.eq_iff_iff.mpr ⟨?_, ?_⟩
    · exact le_of_map_mergeSort_eq total total' trans trans' seen' same behind
    · exact le_of_map_mergeSort_eq total' total trans' trans seen same.symm behind
  · intro agree
    rw [mergeSort_congr_ordered total total' agree]

end Agreement

/-- The replacements can be read off a refilled list. -/
theorem refill_map_injective {f : α → β} {replacements replacements' : List α} {items : List α}
    (count : replacements.length = (items.filter selected).length)
    (count' : replacements'.length = (items.filter selected).length)
    (same : (refill selected replacements items).map f = (refill selected replacements' items).map f) :
    replacements.map f = replacements'.map f := by
  induction items generalizing replacements replacements' with
  | nil =>
    obtain rfl : replacements = [] := List.length_eq_zero_iff.mp count
    obtain rfl : replacements' = [] := List.length_eq_zero_iff.mp count'
    rfl
  | cons item items ih =>
    by_cases isSelected : selected item
    · rw [List.filter_cons_of_pos isSelected, List.length_cons] at count count'
      obtain ⟨replacement, rest, rfl⟩ := List.exists_cons_of_length_eq_add_one count
      obtain ⟨replacement', rest', rfl⟩ := List.exists_cons_of_length_eq_add_one count'
      rw [refill_cons_selected isSelected, refill_cons_selected isSelected, List.map_cons, List.map_cons,
        List.cons.injEq] at same
      rw [List.map_cons, List.map_cons, same.1, ih (by simpa using count) (by simpa using count') same.2]
    · rw [List.filter_cons_of_neg isSelected] at count count'
      rw [refill_cons_other isSelected, refill_cons_other isSelected, List.map_cons, List.map_cons,
        List.cons.injEq] at same
      exact ih count count' same.2

/-- Two sorts of the selected elements show the same list exactly when they compare each selected
element alike with the selected ones behind it. -/
theorem map_sortSelected_eq_iff {f : α → β}
    (total : ∀ first second, le first second || le second first)
    (total' : ∀ first second, le' first second || le' second first)
    (trans : ∀ first second third, le first second → le second third → le first third)
    (trans' : ∀ first second third, le' first second → le' second third → le' first third)
    (seen : ∀ first second first' second', f first = f first' → f second = f second' →
      le first second = le first' second')
    (seen' : ∀ first second first' second', f first = f first' → f second = f second' →
      le' first second = le' first' second') :
    (sortSelected selected le items).map f = (sortSelected selected le' items).map f ↔
      (items.filter selected).Pairwise fun first second => le first second = le' first second := by
  rw [← map_mergeSort_eq_iff total total' trans trans' seen seen']
  simp only [sortSelected]
  split_ifs with few
  · -- at most one element is selected
    have alone (order : α → α → Bool) : (items.filter selected).mergeSort order = items.filter selected := by
      apply List.mergeSort_of_pairwise
      cases chosen : items.filter selected with
      | nil => exact .nil
      | cons item rest =>
        rw [chosen] at few
        obtain rfl : rest = [] := by
          apply List.length_eq_zero_iff.mp
          simp only [List.length_cons] at few
          omega
        exact List.pairwise_singleton _ _
    rw [alone, alone]
    exact iff_of_true rfl rfl
  · constructor
    · exact refill_map_injective (List.length_mergeSort _) (List.length_mergeSort _)
    · intro same
      have whole : (items.filter selected).mergeSort le = (items.filter selected).mergeSort le' := by
        refine mergeSort_congr_ordered total total' ?_
        exact (map_mergeSort_eq_iff total total' trans trans' seen seen').mp same
      rw [whole]

section Positions

/-- Refilling leaves the elements that are not selected at their positions. -/
theorem refill_getElem?_other (replacements items : List α) {position : Nat} {item : α}
    (here : items[position]? = some item) (other : ¬ selected item) :
    (refill selected replacements items)[position]? = some item := by
  induction items generalizing replacements position with
  | nil => simp at here
  | cons head items ih =>
    by_cases isSelected : selected head
    · cases position with
      | zero =>
        obtain rfl : head = item := by simpa using here
        exact absurd isSelected other
      | succ position =>
        cases replacements with
        | nil => rwa [refill_nil [] rfl]
        | cons replacement rest =>
          rw [refill_cons_selected isSelected, List.getElem?_cons_succ]
          exact ih rest (by simpa using here)
    · rw [refill_cons_other isSelected]
      cases position with
      | zero => simpa using here
      | succ position =>
        rw [List.getElem?_cons_succ]
        exact ih replacements (by simpa using here)

theorem sortSelected_getElem?_other {position : Nat} {item : α} (here : items[position]? = some item)
    (other : ¬ selected item) : (sortSelected selected le items)[position]? = some item := by
  simp only [sortSelected]
  split_ifs
  · exact here
  · exact refill_getElem?_other _ items here other

end Positions

/-- `after` is `before` with selected elements exchanged, those that are alike in their old order. -/
structure Reordered (selected : α → Bool) (alike : α → α → Bool) (before after : List α) : Prop where
  permutation : after.Perm before
  others : ∀ (position : Nat) (item : α), before[position]? = some item → ¬ selected item → after[position]? = some item
  relative : ∀ item, after.filter (alike item) = before.filter (alike item)

/-- A sort of the selected elements reorders them, and keeps the order of those it cannot tell apart. -/
theorem sortSelected_reordered {alike : α → α → Bool}
    (total : ∀ first second, le first second || le second first)
    (trans : ∀ first second third, le first second → le second third → le first third)
    (selectedAlike : ∀ item first second, alike item first → alike item second → selected first = selected second)
    (leAlike : ∀ item first second, alike item first → alike item second → le first second) (items : List α) :
    Reordered selected alike items (sortSelected selected le items) := by
  refine ⟨sortSelected_perm items, fun _ _ here other => sortSelected_getElem?_other here other, fun item => ?_⟩
  refine sortSelected_filter trans total (fun first _ second _ => leAlike item first second) ?_
  -- one selected element of the class makes all of them selected
  by_cases some : ∃ chosen, alike item chosen ∧ selected chosen
  · obtain ⟨chosen, inClass, isSelected⟩ := some
    exact .inl fun other _ inClass' => (selectedAlike item other chosen inClass' inClass).trans isSelected
  · exact .inr fun other _ inClass isSelected => some ⟨other, inClass, isSelected⟩

section First

variable (total : ∀ first second, le first second || le second first)
  (trans : ∀ first second third, le first second → le second third → le first third)
include total trans

/-- The first element of a sorted list is a least one. -/
theorem head?_mergeSort_least {first : α} (found : (items.mergeSort le).head? = some first) :
    first ∈ items ∧ ∀ other ∈ items, le first other := by
  have ordered := List.pairwise_mergeSort trans total items
  have reflexive : le first first := by simpa using total first first
  cases sorted : items.mergeSort le with
  | nil => simp [sorted] at found
  | cons head rest =>
    obtain rfl : head = first := by simpa [sorted] using found
    rw [sorted] at ordered
    have member (other : α) : other ∈ items ↔ other = head ∨ other ∈ rest := by
      have same : other ∈ items.mergeSort le ↔ other ∈ items := List.mem_mergeSort
      rw [← same, sorted, List.mem_cons]
    constructor
    · exact (member head).mpr (.inl rfl)
    · intro other inItems
      rcases (member other).mp inItems with rfl | later
      · exact reflexive
      · exact List.rel_of_pairwise_cons ordered later

omit total trans in
theorem head?_mergeSort_none : (items.mergeSort le).head? = none ↔ items = [] := by
  rw [List.head?_eq_none_iff]
  constructor
  · intro empty
    have length : (items.mergeSort le).length = items.length := List.length_mergeSort items
    rw [empty] at length
    exact List.length_eq_zero_iff.mp length.symm
  · rintro rfl
    exact List.mergeSort_nil

omit total trans in
/-- Of two places in a list, one is before the other or they hold the same element. -/
theorem split_order {before after before' after' : List α} {first other : α}
    (same : before ++ first :: after = before' ++ other :: after') :
    first = other ∨ first ∈ before' ∨ other ∈ before := by
  rcases List.append_eq_append_iff.mp same with ⟨extra, rfl, tail⟩ | ⟨extra, rfl, tail⟩
  · cases extra with
    | nil => exact .inl (List.cons.inj tail).1
    | cons head extra => exact .inr (.inl (by simp [(List.cons.inj tail).1]))
  · cases extra with
    | nil => exact .inl (List.cons.inj tail).1.symm
    | cons head extra => exact .inr (.inr (by simp [(List.cons.inj tail).1]))

/-- The element is a least one, and the first of these. -/
def FirstLeast (le : α → α → Bool) (items : List α) (first : α) : Prop :=
  ∃ before after, items = before ++ first :: after ∧ (∀ other ∈ items, le first other) ∧
    ∀ other ∈ before, ¬ le other first

/-- A stable sort puts the first least element first. -/
theorem firstLeast_of_head?_mergeSort {first : α} (found : (items.mergeSort le).head? = some first) :
    FirstLeast le items first := by
  have least := (head?_mergeSort_least total trans found).2
  suffices split : ∃ before after, items = before ++ first :: after ∧ ∀ other ∈ before, ¬ le other first by
    obtain ⟨before, after, same, apart⟩ := split
    exact ⟨before, after, same, least, apart⟩
  clear least
  induction items with
  | nil => simp at found
  | cons item rest ih =>
    obtain ⟨smaller, others, sorted, sortedRest, apart⟩ := List.mergeSort_cons trans total item rest
    rw [sorted] at found
    cases smaller with
    | nil =>
      obtain rfl : item = first := by simpa using found
      exact ⟨[], rest, rfl, by simp⟩
    | cons head tail =>
      obtain rfl : head = first := by simpa using found
      obtain ⟨before, after, rfl, notBelow⟩ := ih (by rw [sortedRest]; rfl)
      refine ⟨item :: before, after, rfl, fun other member => ?_⟩
      rcases List.mem_cons.mp member with rfl | later
      · simpa using apart head List.mem_cons_self
      · exact notBelow other later

omit total trans in
/-- There is only one first least element. -/
theorem FirstLeast.unique {first other : α} (isFirst : FirstLeast le items first)
    (isOther : FirstLeast le items other) : first = other := by
  obtain ⟨before, after, same, least, apart⟩ := isFirst
  obtain ⟨before', after', same', least', apart'⟩ := isOther
  rcases split_order (same.symm.trans same') with here | earlier | later
  · exact here
  · exact absurd (least other (by simp [same'])) (apart' first earlier)
  · exact absurd (least' first (by simp [same])) (apart other later)

theorem head?_mergeSort_iff {first : α} : (items.mergeSort le).head? = some first ↔ FirstLeast le items first := by
  constructor
  · exact firstLeast_of_head?_mergeSort total trans
  · intro isFirst
    cases found : (items.mergeSort le).head? with
    | none =>
      obtain ⟨before, after, same, -⟩ := isFirst
      rw [head?_mergeSort_none.mp found] at same
      simp at same
    | some other => rw [FirstLeast.unique isFirst (firstLeast_of_head?_mergeSort total trans found)]

end First

end DarktableAgent.Foundation
