import Mathlib.Data.List.Basic
import Mathlib.Data.Int.Basic

/-! Decimal numerals, and texts that are cut at a separator. -/

set_option autoImplicit false

namespace DarktableAgent.Foundation

theorem toString_nat_injective {left right : Nat} (same : toString left = toString right) : left = right := by
  have digits : Nat.toDigits 10 left = Nat.toDigits 10 right := by
    rw [← Nat.toList_repr, ← Nat.toList_repr]
    exact congrArg String.toList same
  calc
    left = Nat.ofDigitChars 10 (Nat.toDigits 10 left) 0 := Nat.ofDigitChars_ten_toDigits.symm
    _ = Nat.ofDigitChars 10 (Nat.toDigits 10 right) 0 := by rw [digits]
    _ = right := Nat.ofDigitChars_ten_toDigits

/-- A numeral of a natural number holds no minus sign. -/
theorem minus_not_mem_toString (value : Nat) : '-' ∉ (toString value).toList := by
  intro member
  have digit : '-' ∈ Nat.toDigits 10 value := by
    rw [← Nat.toList_repr]
    exact member
  exact absurd (Nat.isDigit_of_mem_toDigits (by decide) (by decide) digit) (by decide)

theorem toList_toString_ofNat (value : Nat) : (toString (Int.ofNat value)).toList = (toString value).toList := by
  rw [Int.toString_eq_repr, Int.repr, Nat.toString_eq_repr]

theorem toList_toString_negSucc (value : Nat) :
    (toString (Int.negSucc value)).toList = '-' :: (toString (value + 1)).toList := by
  rw [Int.toString_eq_repr, Int.repr, Nat.toString_eq_repr, String.toList_append]
  rfl

theorem toString_int_injective {left right : Int} (same : toString left = toString right) : left = right := by
  have chars : (toString left).toList = (toString right).toList := congrArg String.toList same
  -- only the text of a negative number starts with a minus
  cases left with
  | ofNat left =>
    rw [toList_toString_ofNat] at chars
    cases right with
    | ofNat right =>
      rw [toList_toString_ofNat] at chars
      exact congrArg Int.ofNat (toString_nat_injective (String.toList_inj.mp chars))
    | negSucc right =>
      rw [toList_toString_negSucc] at chars
      exact absurd (by rw [chars]; exact List.mem_cons_self) (minus_not_mem_toString left)
  | negSucc left =>
    rw [toList_toString_negSucc] at chars
    cases right with
    | ofNat right =>
      rw [toList_toString_ofNat] at chars
      exact absurd (by rw [← chars]; exact List.mem_cons_self) (minus_not_mem_toString right)
    | negSucc right =>
      rw [toList_toString_negSucc] at chars
      have next := toString_nat_injective (String.toList_inj.mp (List.cons.inj chars).2)
      rw [Nat.succ.inj next]

section Cut

variable {α : Type} {separator : α} {first second rest later : List α}

/-- A text is cut at its first separator in one way. -/
theorem cut_injective (free : separator ∉ first) (clear : separator ∉ second)
    (same : first ++ separator :: rest = second ++ separator :: later) : first = second ∧ rest = later := by
  induction first generalizing second with
  | nil =>
    cases second with
    | nil => exact ⟨rfl, (List.cons.inj same).2⟩
    | cons char second =>
      have head : separator = char := (List.cons.inj same).1
      exact absurd (by rw [head]; exact List.mem_cons_self) clear
  | cons char first ih =>
    cases second with
    | nil =>
      have head : char = separator := (List.cons.inj same).1
      exact absurd (by rw [head]; exact List.mem_cons_self) free
    | cons other second =>
      obtain ⟨head, tails⟩ := List.cons.inj same
      have cut := ih (fun member => free (List.mem_cons_of_mem _ member))
        (fun member => clear (List.mem_cons_of_mem _ member)) tails
      rw [head, cut.1]
      exact ⟨rfl, cut.2⟩

/-- And at its last one. -/
theorem cut_last_injective (free : separator ∉ rest) (clear : separator ∉ later)
    (same : first ++ separator :: rest = second ++ separator :: later) : first = second ∧ rest = later := by
  have reversed : rest.reverse ++ separator :: first.reverse = later.reverse ++ separator :: second.reverse := by
    simpa using congrArg List.reverse same
  have cut := cut_injective (by simpa using free) (by simpa using clear) reversed
  exact ⟨List.reverse_injective cut.2, List.reverse_injective cut.1⟩

/-- A text is cut in one way after its last element of a class. -/
theorem cut_after_injective (inClass : α → Bool) {left right : α} (ends : inClass left = true)
    (stops : inClass right = true) (free : ∀ item ∈ rest, inClass item = false)
    (clear : ∀ item ∈ later, inClass item = false)
    (same : first ++ [left] ++ rest = second ++ [right] ++ later) :
    first ++ [left] = second ++ [right] ∧ rest = later := by
  -- the longer front would put its last element, which is in the class, into the other's rest
  rcases List.append_eq_append_iff.mp same with ⟨between, longer, split⟩ | ⟨between, longer, split⟩
  · rcases List.eq_nil_or_concat between with rfl | ⟨init, last, rfl⟩
    · exact ⟨by simpa using longer.symm, by simpa using split⟩
    · rw [List.concat_eq_append, ← List.append_assoc] at longer
      have isLast : right = last := by simpa using (List.append_inj' longer rfl).2
      have inRest : right ∈ rest := by rw [split, isLast]; simp
      exact absurd stops (by simp [free right inRest])
  · rcases List.eq_nil_or_concat between with rfl | ⟨init, last, rfl⟩
    · exact ⟨by simpa using longer, by simpa using split.symm⟩
    · rw [List.concat_eq_append, ← List.append_assoc] at longer
      have isLast : left = last := by simpa using (List.append_inj' longer rfl).2
      have inLater : left ∈ later := by rw [split, isLast]; simp
      exact absurd ends (by simp [clear left inLater])

end Cut

end DarktableAgent.Foundation
