import Mathlib.Data.List.Basic

/-! Strings on a heap, and deep copies of what points to them.

A copy allocates its strings anew: whatever happens to the older ones, it can still be read. Reading
or copying a string that is not there has no result.
-/

set_option autoImplicit false

namespace DarktableAgent.Foundation

/-- A string on the heap, or `NULL`. -/
abbrev Pointer := Option Nat

/-- What a pointer stands for. -/
abbrev Text := Option String

/-- The strings that have been allocated, in order; of a freed one only its place is left. -/
structure Heap where
  cells : List (Option String)

namespace Heap

variable {heap middle later : Heap} {pointer : Pointer} {text : Text}

def size (heap : Heap) : Nat := heap.cells.length

def read (heap : Heap) : Pointer → Option Text
  | none => some none
  | some address => heap.cells[address]?.join.map some

/-- `g_strdup` -/
def strdup (pointer : Pointer) : StateT Heap Option Pointer := fun heap =>
  match heap.read pointer with
  | none => none
  | some none => some (none, heap)
  | some (some text) => some (some heap.size, ⟨heap.cells ++ [some text]⟩)

/-- `g_free`, for each of the addresses. -/
def freeAll (heap : Heap) (addresses : List Nat) : Heap :=
  ⟨addresses.foldl (fun cells address => cells.set address none) heap.cells⟩

/-- Nothing of the heap is lost. -/
def Grows (heap later : Heap) : Prop := heap.cells <+: later.cells

/-- What was allocated from some place on is still the same. -/
def Keeps (start : Nat) (heap later : Heap) : Prop :=
  ∀ address, start ≤ address → address < heap.size → later.cells[address]? = heap.cells[address]?

theorem Grows.refl (heap : Heap) : heap.Grows heap := List.prefix_refl _

theorem Grows.trans (first : heap.Grows middle) (second : middle.Grows later) : heap.Grows later :=
  List.IsPrefix.trans first second

theorem Grows.size_le (grows : heap.Grows later) : heap.size ≤ later.size := grows.length_le

theorem Grows.cell (grows : heap.Grows later) {address : Nat} (inside : address < heap.size) :
    later.cells[address]? = heap.cells[address]? := by
  obtain ⟨new, isLater⟩ := grows
  rw [← isLater]
  exact List.getElem?_append_left inside

theorem Keeps.refl (start : Nat) (heap : Heap) : Keeps start heap heap := fun _ _ _ => rfl

/-- Freeing what is older keeps what is newer. -/
theorem Keeps.freeAll {start : Nat} {addresses : List Nat} (older : ∀ address ∈ addresses, address < start) :
    Keeps start heap (heap.freeAll addresses) := by
  suffices unchanged : ∀ cells : List (Option String), ∀ place, start ≤ place →
      (addresses.foldl (fun cells address => cells.set address none) cells)[place]? = cells[place]? from
    fun place above _ => unchanged heap.cells place above
  induction addresses with
  | nil => exact fun _ _ _ => rfl
  | cons address rest ih =>
    rw [List.forall_mem_cons] at older
    intro cells place above
    rw [List.foldl_cons, ih older.2 _ place above]
    exact List.getElem?_set_ne (by omega)

theorem Grows.read (grows : heap.Grows later) (reads : heap.read pointer = some text) :
    later.read pointer = some text := by
  cases pointer with
  | none => exact reads
  | some address =>
    obtain ⟨string, isJoined, _⟩ := Option.map_eq_some_iff.mp reads
    have inside : address < heap.size := (List.getElem?_eq_some_iff.mp (Option.join_eq_some_iff.mp isJoined)).1
    rw [Heap.read, grows.cell inside]
    exact reads

/-- From the heap on, with whatever else allocated, the action has a result, for which the property
holds as long as what the action allocated is kept. -/
def Copies {α : Type} (heap : Heap) (action : StateT Heap Option α) (holds : Heap → α → Prop) : Prop :=
  ∀ current, heap.Grows current → ∃ result after, action current = some (result, after) ∧ current.Grows after ∧
    ∀ later, Keeps current.size after later → holds later result

section Rules

variable {α β : Type} {holds : Heap → α → Prop} {holds' : Heap → β → Prop}

theorem Copies.imp {stronger : Heap → α → Prop} {action : StateT Heap Option α} (copies : Copies heap action stronger)
    (implies : ∀ later result, stronger later result → holds later result) : Copies heap action holds := by
  intro current isCurrent
  obtain ⟨result, after, isResult, grows, kept⟩ := copies current isCurrent
  exact ⟨result, after, isResult, grows, fun later keeps => implies later result (kept later keeps)⟩

theorem copies_pure {result : α} (always : ∀ later, holds later result) : Copies heap (pure result) holds :=
  fun current _ => ⟨result, current, rfl, Grows.refl current, fun later _ => always later⟩

/-- What the first action allocated is not touched by the second. -/
theorem copies_bind {action : StateT Heap Option α} {next : α → StateT Heap Option β} (first : Copies heap action holds)
    (second : ∀ result, Copies heap (next result) fun later final => holds later result → holds' later final) :
    Copies heap (action >>= next) holds' := by
  intro current isCurrent
  obtain ⟨result, middle, isResult, grows, holdsFirst⟩ := first current isCurrent
  obtain ⟨final, after, isFinal, growsOn, holdsSecond⟩ := second result middle (isCurrent.trans grows)
  refine ⟨final, after, ?_, grows.trans growsOn, ?_⟩
  · exact (congrArg (fun step => step.bind fun (result, heap) => next result heap) isResult).trans isFinal
  · intro later kept
    apply holdsSecond later
    · intro address above inside
      exact kept address (Nat.le_trans grows.size_le above) inside
    · apply holdsFirst later
      intro address above inside
      rw [kept address above (Nat.lt_of_lt_of_le inside growsOn.size_le), growsOn.cell inside]

theorem copies_strdup (reads : heap.read pointer = some text) :
    Copies heap (strdup pointer) fun later copy => later.read copy = some text := by
  intro current isCurrent
  have readsNow := isCurrent.read reads
  cases text with
  | none =>
    refine ⟨none, current, ?_, Grows.refl current, fun _ _ => rfl⟩
    simp [strdup, readsNow]
  | some string =>
    refine ⟨some current.size, ⟨current.cells ++ [some string]⟩, ?_, List.prefix_append _ _, ?_⟩
    · simp [strdup, readsNow]
    · intro later kept
      have isNew : later.cells[current.size]? = some (some string) := by
        rw [kept current.size (Nat.le_refl _) (by simp [size])]
        simp [size]
      simp [Heap.read, isNew]

end Rules

/-- A copy stands for the same as the original, whatever happens to the strings of the original. -/
def DeepCopy {α γ : Type} (load : Heap → α → Option γ) (copy : α → StateT Heap Option α) : Prop :=
  ∀ {heap original contents}, load heap original = some contents →
    Copies heap (copy original) fun later result => load later result = some contents

theorem strdup_deepCopy : DeepCopy read strdup := copies_strdup

/-- A member that is read and copied before the others. -/
theorem DeepCopy.field {α β γ δ : Type} {load : Heap → α → Option γ} {copy : α → StateT Heap Option α}
    (deep : DeepCopy load copy) {original : α} {others : γ → Option δ} {contents : δ} {next : α → StateT Heap Option β}
    {holds : Heap → β → Prop} (loads : (load heap original >>= others) = some contents)
    (rest : ∀ part copied, others part = some contents →
      Copies heap (next copied) fun later final => load later copied = some part → holds later final) :
    Copies heap (copy original >>= next) holds := by
  obtain ⟨part, isPart, othersLoad⟩ := Option.bind_eq_some_iff.mp loads
  apply copies_bind (deep isPart)
  intro copied
  exact rest part copied othersLoad

section Arrays

variable {α γ : Type} {load : Heap → α → Option γ} {copy : α → StateT Heap Option α}

def loadList (load : Heap → α → Option γ) (heap : Heap) (items : List α) : Option (List γ) := items.mapM (load heap)

theorem loadList_cons {items : List α} {item : α} {contents : List γ} :
    loadList load heap (item :: items) = some contents ↔
      ∃ first rest, load heap item = some first ∧ loadList load heap items = some rest ∧ contents = first :: rest := by
  rw [loadList, List.mapM_cons]
  simp [Option.bind_eq_some_iff, loadList, @eq_comm _ contents]

/-- Item by item: what has been copied stays as it is. -/
theorem DeepCopy.list (deep : DeepCopy load copy) : DeepCopy (loadList load) (List.mapM copy) := by
  intro heap items contents loads
  induction items generalizing contents with
  | nil =>
    rw [List.mapM_nil]
    exact copies_pure fun _ => loads
  | cons item rest ih =>
    obtain ⟨first, others, isFirst, areOthers, rfl⟩ := loadList_cons.mp loads
    rw [List.mapM_cons]
    apply copies_bind (deep isFirst)
    intro copied
    apply copies_bind (ih areOthers)
    intro copiedRest
    apply copies_pure
    intro later restLoads firstLoads
    exact loadList_cons.mpr ⟨first, others, firstLoads, restLoads, rfl⟩

/-- What may be missing. -/
def loadOption (load : Heap → α → Option γ) (heap : Heap) : Option α → Option (Option γ)
  | none => some none
  | some value => (load heap value).map some

def copyOption (copy : α → StateT Heap Option α) : Option α → StateT Heap Option (Option α)
  | none => pure none
  | some value => do return some (← copy value)

/-- What has to be there: without it there is no result. -/
def loadPresent (load : Heap → α → Option γ) (heap : Heap) : Option α → Option (Option γ)
  | none => none
  | some value => (load heap value).map some

def copyPresent (copy : α → StateT Heap Option α) : Option α → StateT Heap Option (Option α)
  | none => failure
  | some value => do return some (← copy value)

theorem DeepCopy.some (deep : DeepCopy load copy) {value : α} {contents : γ}
    (loads : load heap value = Option.some contents) :
    Copies heap (do return Option.some (← copy value)) fun later result =>
      ∃ copied, result = Option.some copied ∧ load later copied = Option.some contents := by
  apply copies_bind (deep loads)
  intro copied
  apply copies_pure
  intro later copiedLoads
  exact ⟨copied, rfl, copiedLoads⟩

theorem DeepCopy.option (deep : DeepCopy load copy) : DeepCopy (loadOption load) (copyOption copy) := by
  intro heap original contents loads
  cases original with
  | none => exact copies_pure fun _ => loads
  | some value =>
    obtain ⟨loaded, isLoaded, rfl⟩ := Option.map_eq_some_iff.mp loads
    apply (deep.some isLoaded).imp
    rintro later _ ⟨copied, rfl, copiedLoads⟩
    simp [loadOption, copiedLoads]

theorem DeepCopy.present (deep : DeepCopy load copy) : DeepCopy (loadPresent load) (copyPresent copy) := by
  intro heap original contents loads
  cases original with
  | none => cases loads
  | some value =>
    obtain ⟨loaded, isLoaded, rfl⟩ := Option.map_eq_some_iff.mp loads
    apply (deep.some isLoaded).imp
    rintro later _ ⟨copied, rfl, copiedLoads⟩
    simp [loadPresent, copiedLoads]

end Arrays

end Heap

end DarktableAgent.Foundation
