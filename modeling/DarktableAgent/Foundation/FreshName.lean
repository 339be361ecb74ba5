import DarktableAgent.Foundation.Numerals
import Mathlib.Data.List.Nodup
import Mathlib.Data.List.Range
import Mathlib.Data.List.Perm.Subperm

/-! Names that avoid a list of taken names.

A taken name gets the first numbered suffix that is still free. There are more
candidates than taken names, so one of them is free.
-/

set_option autoImplicit false

namespace DarktableAgent.Foundation

/-- The candidates in the order they are tried: the name itself, then `-2`, `-3` and so on. -/
def nameCandidate (name : String) : Nat → String
  | 0 => name
  | count + 1 => name ++ "-" ++ toString (count + 2)

theorem ne_append_suffix (name suffix : String) : name ≠ name ++ "-" ++ suffix := by
  intro same
  have length := congrArg String.length same
  rw [String.length_append, String.length_append, show "-".length = 1 by decide] at length
  omega

theorem nameCandidate_injective (name : String) : Function.Injective (nameCandidate name) := by
  intro left right same
  cases left with
  | zero =>
    cases right with
    | zero => rfl
    | succ right => exact absurd same (ne_append_suffix name _)
  | succ left =>
    cases right with
    | zero => exact absurd same.symm (ne_append_suffix name _)
    | succ right =>
      have suffix := congrArg String.toList same
      simp only [nameCandidate, String.toList_append, List.append_assoc] at suffix
      have digits := List.append_cancel_left (List.append_cancel_left suffix)
      have count := toString_nat_injective (String.toList_inj.mp digits)
      omega

def freshName (taken : List String) (name : String) : String :=
  (((List.range (taken.length + 1)).map (nameCandidate name)).find? (· ∉ taken)).getD name

/-- A list of distinct candidates that is longer than the list of taken names is not exhausted by it. -/
theorem exists_free {α : Type} {candidates : List α} (taken : List α) (distinct : candidates.Nodup)
    (more : taken.length < candidates.length) : ∃ candidate ∈ candidates, candidate ∉ taken := by
  by_contra exhausted
  push Not at exhausted
  have bounded := (distinct.subperm exhausted).length_le
  omega

/-- The search of `freshName` succeeds, since it tries one candidate more than there are taken names. -/
theorem exists_find?_candidate (taken : List String) (name : String) : ∃ chosen,
    ((List.range (taken.length + 1)).map (nameCandidate name)).find? (· ∉ taken) = some chosen := by
  have distinct : ((List.range (taken.length + 1)).map (nameCandidate name)).Nodup :=
    List.nodup_range.map (nameCandidate_injective name)
  obtain ⟨free, isCandidate, notTaken⟩ := exists_free taken distinct (by simp)
  apply Option.isSome_iff_exists.mp
  exact List.find?_isSome.mpr ⟨free, isCandidate, by simpa using notTaken⟩

theorem freshName_found (taken : List String) (name : String) :
    ∃ count, freshName taken name = nameCandidate name count ∧ nameCandidate name count ∉ taken := by
  obtain ⟨chosen, found⟩ := exists_find?_candidate taken name
  obtain ⟨count, -, rfl⟩ := List.mem_map.mp (List.mem_of_find?_eq_some found)
  exact ⟨count, by rw [freshName, found]; rfl, by simpa using List.find?_some found⟩

theorem freshName_not_mem (taken : List String) (name : String) : freshName taken name ∉ taken := by
  obtain ⟨count, chosen, free⟩ := freshName_found taken name
  exact chosen ▸ free

theorem freshName_ne_empty {name : String} (present : name ≠ "") (taken : List String) :
    freshName taken name ≠ "" := by
  obtain ⟨count, chosen, -⟩ := freshName_found taken name
  rw [chosen]
  cases count with
  | zero => exact present
  | succ count =>
    intro empty
    exact present (String.append_eq_empty_iff.mp (String.append_eq_empty_iff.mp empty).1).1

/-- The loop that tries the candidates in turn, from a number of suffixes on and for a number of steps. -/
def renameLoop (taken : List String) (name : String) (count : Nat) : Nat → Option String
  | 0 => none
  | fuel + 1 =>
    if nameCandidate name count ∈ taken then renameLoop taken name (count + 1) fuel
    else some (nameCandidate name count)

theorem renameLoop_find? (taken : List String) (name : String) (count fuel : Nat) :
    renameLoop taken name count fuel =
      ((List.range' count fuel).map (nameCandidate name)).find? (· ∉ taken) := by
  induction fuel generalizing count with
  | zero => rfl
  | succ fuel ih =>
    rw [renameLoop, List.range'_succ, List.map_cons, List.find?_cons]
    by_cases isTaken : nameCandidate name count ∈ taken
    · simp [isTaken, ih]
    · simp [isTaken]

/-- The loop ends after at most one step more than there are taken names. -/
theorem renameLoop_terminates (taken : List String) (name : String) {fuel : Nat} (enough : taken.length < fuel) :
    renameLoop taken name 0 fuel = some (freshName taken name) := by
  obtain ⟨chosen, isChosen⟩ := exists_find?_candidate taken name
  -- the candidates past the bound are never reached, because one before it is free
  obtain ⟨more, rfl⟩ : ∃ more, fuel = taken.length + 1 + more := ⟨fuel - (taken.length + 1), by omega⟩
  rw [renameLoop_find?, ← List.range'_append, List.map_append, List.find?_append, ← List.range_eq_range', isChosen,
    Option.some_or, freshName, isChosen, Option.getD_some]

/-- A free name is kept. -/
theorem freshName_of_free {taken : List String} {name : String} (free : name ∉ taken) : freshName taken name = name := by
  have first := renameLoop_terminates taken name (Nat.lt_succ_self taken.length)
  rw [renameLoop, nameCandidate, if_neg free] at first
  exact (Option.some.inj first).symm

/-- Name a list one after the other; every name given is taken from then on. -/
def freshNames (taken : List String) : List String → List String
  | [] => []
  | name :: rest => freshName taken name :: freshNames (freshName taken name :: taken) rest

theorem freshNames_avoid (taken names : List String) :
    ∀ name ∈ freshNames taken names, name ∉ taken := by
  induction names generalizing taken with
  | nil => simp [freshNames]
  | cons name rest ih =>
    intro given member
    rcases List.mem_cons.mp member with rfl | later
    · exact freshName_not_mem taken name
    · exact fun inTaken => ih _ given later (List.mem_cons_of_mem _ inTaken)

theorem freshNames_nodup (taken names : List String) : (freshNames taken names).Nodup := by
  induction names generalizing taken with
  | nil => exact List.nodup_nil
  | cons name rest ih =>
    -- the later names avoid the first one because it counts as taken for them
    refine List.nodup_cons.mpr ⟨fun repeated => ?_, ih _⟩
    exact freshNames_avoid _ rest _ repeated List.mem_cons_self

end DarktableAgent.Foundation
