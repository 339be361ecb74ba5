import DarktableAgent.Foundation.Dict
import DarktableAgent.Foundation.Json

/-! Places in JSON values, and assignments to the members of an object.

A path leads to at most one place. What stands there without what hangs below it is its outline.
-/

set_option autoImplicit false

namespace DarktableAgent.Foundation

/-- `object[name] = value`, for the members of an object. -/
def setMember (name : String) (value : Json) (members : JsonObject) : JsonObject :=
  if name ∈ members.map (·.1) then replaceValue name value members else members ++ [(name, value)]

/-- Change the value of each member, by its name. -/
def mapMembers (change : String → Json → Json) (members : JsonObject) : JsonObject :=
  members.map fun member => (member.1, change member.1 member.2)

section Members

variable {name other : String} {value : Json} {members : JsonObject} {change : String → Json → Json}

theorem lookup_setMember (name other : String) (value : Json) (members : JsonObject) :
    (setMember name value members).lookup other = if other = name then some value else members.lookup other := by
  unfold setMember
  by_cases present : name ∈ members.map (·.1)
  · rw [if_pos present]
    by_cases same : other = name
    · rw [same, lookup_replaceValue_self name value members present, if_pos rfl]
    · rw [lookup_replaceValue_ne same, if_neg same]
  · have absent : members.lookup name = none := by
      rw [← Option.not_isSome_iff_eq_none, lookup_isSome_iff_mem_keys]
      exact present
    rw [if_neg present, Dict.lookup_append_last]
    by_cases same : other = name
    · simp [same, absent]
    · simp [same]

theorem mem_setMember {member : String × Json} (isMember : member ∈ setMember name value members) :
    member = (name, value) ∨ member.1 ≠ name ∧ member ∈ members := by
  unfold setMember at isMember
  by_cases present : name ∈ members.map (·.1)
  · rw [if_pos present] at isMember
    obtain ⟨old, isOld, rfl⟩ := List.mem_map.mp isMember
    by_cases same : old.1 = name
    · exact .inl (if_pos same)
    · rw [if_neg same]
      exact .inr ⟨same, isOld⟩
  · rw [if_neg present] at isMember
    rcases List.mem_append.mp isMember with isOld | isNew
    · refine .inr ⟨?_, isOld⟩
      rintro rfl
      exact present (List.mem_map_of_mem isOld)
    · exact .inl (List.mem_singleton.mp isNew)

/-- Assigning what is there already. -/
theorem setMember_eq_self (present : name ∈ members.map (·.1)) (holds : ∀ member ∈ members, member.1 = name →
    member.2 = value) : setMember name value members = members := by
  rw [setMember, if_pos present, replaceValue]
  conv_rhs => rw [← List.map_id members]
  apply List.map_congr_left
  intro member isMember
  by_cases same : member.1 = name
  · rw [if_pos same, ← holds member isMember same, ← same]
    rfl
  · rw [if_neg same]
    rfl

@[simp] theorem mapMembers_keys (change : String → Json → Json) (members : JsonObject) :
    (mapMembers change members).map (·.1) = members.map (·.1) := by
  rw [mapMembers, List.map_map]
  rfl

theorem lookup_mapMembers (change : String → Json → Json) (members : JsonObject) (name : String) :
    (mapMembers change members).lookup name = (members.lookup name).map (change name) := by
  induction members with
  | nil => rfl
  | cons member rest ih =>
    rw [mapMembers, List.map_cons, lookup_cons_if, lookup_cons_if, ← mapMembers, ih]
    by_cases same : name = member.1
    · simp [same]
    · simp [same]

/-- A change that leaves the assigned value alone may be made before or after the assignment. -/
theorem mapMembers_setMember (fixed : change name value = value) (members : JsonObject) :
    mapMembers change (setMember name value members) = setMember name value (mapMembers change members) := by
  unfold setMember
  rw [mapMembers_keys]
  by_cases present : name ∈ members.map (·.1)
  · rw [if_pos present, if_pos present, mapMembers, mapMembers, replaceValue, replaceValue, List.map_map, List.map_map]
    apply List.map_congr_left
    intro member _
    by_cases same : member.1 = name
    · simp [same, fixed]
    · simp [same]
  · rw [if_neg present, if_neg present]
    simp [mapMembers, fixed]

end Members

/-- Induction over a value, by the items of its arrays and the values of its members. -/
@[elab_as_elim]
theorem Json.induction {motive : Json → Prop}
    (scalar : ∀ value, (∀ items, value ≠ .arr items) → (∀ members, value ≠ .obj members) → motive value)
    (arr : ∀ items, (∀ item ∈ items, motive item) → motive (.arr items))
    (obj : ∀ members, (∀ member ∈ members, motive member.2) → motive (.obj members)) (value : Json) : motive value :=
  @Json.rec motive (fun items => ∀ item ∈ items, motive item) (fun members => ∀ member ∈ members, motive member.2)
    (fun member => motive member.2)
    (scalar .null (by simp) (by simp)) (fun value => scalar (.bool value) (by simp) (by simp))
    (fun value => scalar (.int value) (by simp) (by simp)) (fun value => scalar (.real value) (by simp) (by simp))
    (fun value => scalar (.str value) (by simp) (by simp)) (fun items ih => arr items ih)
    (fun members ih => obj members ih) (by simp) (fun _ _ first rest => List.forall_mem_cons.mpr ⟨first, rest⟩)
    (by simp) (fun _ _ first rest => List.forall_mem_cons.mpr ⟨first, rest⟩) (fun _ _ ih => ih) value

inductive Segment where
  | member (name : String)
  | item (index : Nat)
  deriving DecidableEq, Repr

namespace Json

def child? : Json → Segment → Option Json
  | .obj members, .member name => members.lookup name
  | .arr items, .item index => items[index]?
  | _, _ => none

/-- What stands at the end of a path. -/
def at? (value : Json) : List Segment → Option Json
  | [] => some value
  | segment :: rest => (value.child? segment).bind fun child => child.at? rest

/-- A value without what hangs below it: a scalar, the length of an array, that it is an object. -/
def outline : Json → Json
  | .arr items => .arr (items.map fun _ => .null)
  | .obj _ => .obj []
  | scalar => scalar

end Json

end DarktableAgent.Foundation
