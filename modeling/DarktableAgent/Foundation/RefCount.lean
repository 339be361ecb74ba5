import Mathlib.Logic.Function.Basic

/-! Objects that are freed with their last reference.

A heap keeps a count beside each object. An operation on an object that was freed has no
result. When the count of each object is the number of its owners, an owner's operations
have one.
-/

set_option autoImplicit false

namespace DarktableAgent.Foundation

structure Counted (α : Type) where
  refs : Nat
  value : α

abbrev RefHeap (ι α : Type) : Type := ι → Option (Counted α)

namespace RefHeap

variable {ι α : Type}

def empty : RefHeap ι α := fun _ => none

variable [DecidableEq ι] (heap : RefHeap ι α) (object : ι)

/-- A new object, with the reference of its creator. -/
def create (value : α) : RefHeap ι α := Function.update heap object (some ⟨1, value⟩)

def ref : Option (RefHeap ι α) :=
  (heap object).map fun counted => Function.update heap object (some { counted with refs := counted.refs + 1 })

def unref : Option (RefHeap ι α) :=
  (heap object).map fun counted =>
    Function.update heap object (if counted.refs = 1 then none else some { counted with refs := counted.refs - 1 })

def modify (change : α → α) : Option (RefHeap ι α) :=
  (heap object).map fun counted => Function.update heap object (some { counted with value := change counted.value })

end RefHeap

section Owned

variable {ι α : Type}

/-- Each object is there as long as it has owners, and counts them. -/
def OwnedBy (heap : RefHeap ι α) (owners : ι → Nat) (value : ι → α) : Prop :=
  ∀ object, heap object = if owners object = 0 then none else some ⟨owners object, value object⟩

namespace OwnedBy

variable {heap : RefHeap ι α} {owners after : ι → Nat} {value changed : ι → α} {object : ι}

theorem empty (value : ι → α) : OwnedBy RefHeap.empty (fun _ => 0) value := fun _ => (if_pos rfl).symm

theorem congr (owned : OwnedBy heap owners value) (sameOwners : ∀ object, after object = owners object)
    (sameValue : ∀ object, changed object = value object) : OwnedBy heap after changed := by
  intro object
  rw [sameOwners, sameValue]
  exact owned object

theorem isSome_iff (owned : OwnedBy heap owners value) : (heap object).isSome ↔ 0 < owners object := by
  rw [owned object]
  by_cases none : owners object = 0
  · simp [none]
  · simp [none, Nat.pos_of_ne_zero none]

theorem get (owned : OwnedBy heap owners value) (alive : 0 < owners object) :
    heap object = some ⟨owners object, value object⟩ := by
  rw [owned object, if_neg (Nat.ne_of_gt alive)]

variable [DecidableEq ι]

/-- One object changes its owners or its value. -/
theorem update (owned : OwnedBy heap owners value) {counted : Option (Counted α)}
    (here : counted = if after object = 0 then none else some ⟨after object, changed object⟩)
    (sameOwners : ∀ other, other ≠ object → after other = owners other)
    (sameValue : ∀ other, other ≠ object → changed other = value other) :
    OwnedBy (Function.update heap object counted) after changed := by
  intro other
  by_cases same : other = object
  · subst same
    rw [Function.update_self]
    exact here
  · rw [Function.update_of_ne same, sameOwners other same, sameValue other same]
    exact owned other

theorem create (owned : OwnedBy heap owners value) (one : after object = 1)
    (sameOwners : ∀ other, other ≠ object → after other = owners other)
    (sameValue : ∀ other, other ≠ object → changed other = value other) :
    OwnedBy (heap.create object (changed object)) after changed :=
  owned.update (by rw [one]; rfl) sameOwners sameValue

theorem ref (owned : OwnedBy heap owners value) (alive : 0 < owners object)
    (more : after object = owners object + 1) (sameOwners : ∀ other, other ≠ object → after other = owners other) :
    ∃ heap', heap.ref object = some heap' ∧ OwnedBy heap' after value := by
  refine ⟨_, by rw [RefHeap.ref, owned.get alive]; rfl, ?_⟩
  exact owned.update (by simp [more]) sameOwners fun _ _ => rfl

theorem unref (owned : OwnedBy heap owners value) (less : owners object = after object + 1)
    (sameOwners : ∀ other, other ≠ object → after other = owners other) :
    ∃ heap', heap.unref object = some heap' ∧ OwnedBy heap' after value := by
  refine ⟨_, by rw [RefHeap.unref, owned.get (by omega)]; rfl, ?_⟩
  exact owned.update (by simp [less]) sameOwners fun _ _ => rfl

theorem modify (owned : OwnedBy heap owners value) (alive : 0 < owners object) {change : α → α}
    (here : changed object = change (value object))
    (sameValue : ∀ other, other ≠ object → changed other = value other) :
    ∃ heap', heap.modify object change = some heap' ∧ OwnedBy heap' owners changed := by
  refine ⟨_, by rw [RefHeap.modify, owned.get alive]; rfl, ?_⟩
  exact owned.update (by rw [if_neg (Nat.ne_of_gt alive), here]) (fun _ _ => rfl) sameValue

end OwnedBy

end Owned

end DarktableAgent.Foundation
