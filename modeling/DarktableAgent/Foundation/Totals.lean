import Mathlib.Algebra.Group.Basic
import DarktableAgent.Foundation.Dict

/-! The total of a measure over the values of a dictionary. -/

set_option autoImplicit false

namespace DarktableAgent.Foundation.Dict

variable {κ ν M : Type} [DecidableEq κ] [AddCommMonoid M] {measure : ν → M}
variable {dict : Dict κ ν} {key : κ} {old value : ν}

def total (measure : ν → M) (dict : Dict κ ν) : M := (dict.entries.map fun entry => measure entry.2).sum

theorem replaceValue_of_not_mem {entries : List (κ × ν)} (absent : key ∉ entries.map (·.1)) :
    replaceValue key value entries = entries := by
  induction entries with
  | nil => rfl
  | cons entry rest ih =>
    rw [List.map_cons, List.mem_cons, not_or] at absent
    rw [replaceValue_cons, if_neg (Ne.symm absent.1), ih absent.2]

theorem sum_replaceValue {entries : List (κ × ν)} (distinct : (entries.map (·.1)).Nodup)
    (found : entries.lookup key = some old) :
    ((replaceValue key value entries).map fun entry => measure entry.2).sum + measure old =
      (entries.map fun entry => measure entry.2).sum + measure value := by
  induction entries with
  | nil => cases found
  | cons entry rest ih =>
    rw [List.map_cons, List.nodup_cons] at distinct
    rw [lookup_cons_if] at found
    rw [replaceValue_cons, List.map_cons, List.map_cons, List.sum_cons, List.sum_cons]
    by_cases here : key = entry.1
    · subst here
      rw [if_pos rfl, Option.some.injEq] at found
      rw [if_pos rfl, replaceValue_of_not_mem distinct.1, found, add_comm (measure value), add_right_comm,
        add_comm (measure old)]
    · rw [if_neg here] at found
      rw [if_neg (Ne.symm here), add_assoc, ih distinct.2 found, add_assoc]

/-- An assignment changes the total by the new value less the one it replaces. -/
theorem total_set (found : dict.get? key = some old) :
    (dict.set key value).total measure + measure old = dict.total measure + measure value := by
  have present : key ∈ dict.entries.map (·.1) := get?_isSome_iff.mp (by rw [found]; rfl)
  unfold total set
  rw [dif_pos present]
  exact sum_replaceValue dict.distinct found

end DarktableAgent.Foundation.Dict
