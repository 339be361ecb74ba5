import DarktableAgent.Server.RequestState

/-! Ids and sequence numbers of the operations of a plan.

The binder and the end of a turn number a list alike. Both loops over it end, nothing but
the id and the number of an operation changes, and the result is always a valid plan.
-/

set_option autoImplicit false

namespace DarktableAgent.Server

open Foundation Protocol

/-- `validate_operation_ids` -/
def validateOperationIds (operations : List PlannedOperationDraft) : Except String Unit :=
  if ¬ (operations.map (·.operationId)).Nodup then .error "operationId values must be unique"
  else if ¬ (operations.map (·.sequence)).Nodup then .error "operation sequence values must be unique"
  else .ok ()

/-- The ids as the source's loops give them: a missing id gets a numbered default, and the inner loop may
take so many steps for each operation. -/
def uniqueIds (fuel : Nat) (defaultPrefix : String) (index : Nat) (seen : List String) :
    List String → Option (List String)
  | [] => some []
  | operationId :: rest => do
    let candidate := if operationId = "" then defaultPrefix ++ toString index else operationId
    let chosen ← renameLoop seen candidate 0 fuel
    let others ← uniqueIds fuel defaultPrefix (index + 1) (chosen :: seen) rest
    return chosen :: others

/-- The loops end when each may take one step more than there are operations, and the default is not
taken for operations that have an id. -/
theorem uniqueIds_terminates {fuel : Nat} (defaultPrefix : String) (index : Nat) {seen ids : List String}
    (present : ∀ operationId ∈ ids, operationId ≠ "") (enough : seen.length + ids.length ≤ fuel) :
    uniqueIds fuel defaultPrefix index seen ids = some (freshNames seen ids) := by
  induction ids generalizing index seen with
  | nil => rfl
  | cons operationId rest ih =>
    rw [List.length_cons] at enough
    have loop := renameLoop_terminates seen operationId (by omega : seen.length < fuel)
    have others := ih (index + 1) (fun other member => present other (List.mem_cons_of_mem _ member))
      (show (freshName seen operationId :: seen).length + rest.length ≤ fuel by rw [List.length_cons]; omega)
    simp only [uniqueIds, if_neg (present operationId List.mem_cons_self), loop, Option.bind_eq_bind,
      Option.bind_some, others, freshNames]
    rfl

section Renumber

variable {index : Nat} {seen : List String} {operations : List OperationDict}

theorem renumberFrom_forall₂ (index : Nat) (seen : List String) (operations : List OperationDict) :
    List.Forall₂ (fun operation numbered => editOf numbered = editOf operation) operations
      (renumberFrom index seen operations) := by
  induction operations generalizing index seen with
  | nil => exact .nil
  | cons operation rest ih => exact .cons rfl (ih (index + 1) _)

/-- An operation whose id was given to none before it keeps its id. -/
theorem renumberFrom_kept {position : Nat} {operation : OperationDict} (here : operations[position]? = some operation)
    (unseen : operation.operation.operationId ∉ seen)
    (unused : ∀ earlier ∈ (renumberFrom index seen operations).take position,
      earlier.operation.operationId ≠ operation.operation.operationId) :
    ∃ numbered, (renumberFrom index seen operations)[position]? = some numbered ∧
      numbered.operation.operationId = operation.operation.operationId := by
  induction operations generalizing index seen position with
  | nil => simp at here
  | cons first rest ih =>
    cases position with
    | zero =>
      obtain rfl : first = operation := by simpa using here
      exact ⟨_, rfl, freshName_of_free unseen⟩
    | succ position =>
      -- the id that the first operation is given is not the one that is followed, so that one stays unseen
      rw [renumberFrom, List.take_succ_cons] at unused
      have notFirst := unused _ List.mem_cons_self
      apply ih here
      · exact fun member => (List.mem_cons.mp member).elim (fun same => notFirst same.symm) unseen
      · exact fun earlier member => unused earlier (List.mem_cons_of_mem _ member)

/-- A list that has distinct ids and is numbered already stays as it is. -/
theorem renumberFrom_fixed (distinct : (operations.map (·.operation.operationId)).Nodup)
    (unseen : ∀ operation ∈ operations, operation.operation.operationId ∉ seen)
    (numbered : operations.map (·.operation.sequence) =
      (List.range' index operations.length).map fun place : Nat => (place : Int) + 1) :
    renumberFrom index seen operations = operations := by
  induction operations generalizing index seen with
  | nil => rfl
  | cons operation rest ih =>
    rw [List.map_cons, List.nodup_cons] at distinct
    rw [List.map_cons, List.length_cons, List.range'_succ, List.map_cons] at numbered
    obtain ⟨sequence, later⟩ := List.cons.inj numbered
    -- a free id is kept, and the sequence is the place already
    have kept := freshName_of_free (unseen operation List.mem_cons_self)
    have same : withIdentity operation (freshName seen operation.operation.operationId)
        (freshName_ne_empty operation.operation.operationIdPresent seen) index = operation := by
      obtain ⟨⟨operationId, number, kind, target, value, reason, _, _, _⟩, bound⟩ := operation
      simp only at kept sequence
      simp only [withIdentity, kept, ← sequence]
    rw [renumberFrom, same, kept]
    congr 1
    apply ih distinct.2 _ later
    intro other member inSeen
    rcases List.mem_cons.mp inSeen with here | earlier
    · exact distinct.1 (here ▸ List.mem_map.mpr ⟨other, member, rfl⟩)
    · exact unseen other (List.mem_cons_of_mem _ member) earlier

end Renumber

/-- Nothing is lost on the way to a valid plan: every operation keeps its edit and, while it is free, its id,
the loops end, and numbering once more changes nothing. -/
structure Renumbered (operations numbered : List OperationDict) : Prop where
  edits : List.Forall₂ (fun operation numbered => editOf numbered = editOf operation) operations numbered
  ids : (numbered.map (·.operation.operationId)).Nodup
  sequences : numbered.map (·.operation.sequence) =
    (List.range operations.length).map fun place : Nat => (place : Int) + 1
  kept : ∀ position operation, operations[position]? = some operation →
    (∀ earlier ∈ numbered.take position,
      earlier.operation.operationId ≠ operation.operation.operationId) →
    ∃ same, numbered[position]? = some same ∧
      same.operation.operationId = operation.operation.operationId
  loops : ∀ defaultPrefix fuel, operations.length ≤ fuel →
    uniqueIds fuel defaultPrefix 1 [] (operations.map (·.operation.operationId)) =
      some (numbered.map (·.operation.operationId))
  again : normalizeOperationsWithUniqueIds numbered = numbered
  valid : validateOperationIds (numbered.map (·.operation)) = .ok ()

theorem normalizeOperationsWithUniqueIds_places (operations : List OperationDict) :
    (normalizeOperationsWithUniqueIds operations).map (·.operation.sequence) =
      (List.range operations.length).map fun place : Nat => (place : Int) + 1 := by
  rw [normalizeOperationsWithUniqueIds, renumberFrom_sequences, List.range_eq_range']

theorem normalizeOperationsWithUniqueIds_renumbered (operations : List OperationDict) :
    Renumbered operations (normalizeOperationsWithUniqueIds operations) := by
  have ids := normalizeOperationsWithUniqueIds_ids operations
  have places := normalizeOperationsWithUniqueIds_places operations
  have distinct := normalizeOperationsWithUniqueIds_sequences operations
  refine ⟨renumberFrom_forall₂ 0 [] operations, ids, places, ?_, ?_, ?_, ?_⟩
  · intro position operation here unused
    exact renumberFrom_kept here List.not_mem_nil unused
  · intro defaultPrefix fuel enough
    -- an operation id is never empty, so no default id is made
    have present : ∀ operationId ∈ operations.map (·.operation.operationId), operationId ≠ "" := by
      intro operationId member
      obtain ⟨operation, -, rfl⟩ := List.mem_map.mp member
      exact operation.operation.operationIdPresent
    rw [uniqueIds_terminates defaultPrefix 1 present (by simpa using enough), normalizeOperationsWithUniqueIds,
      renumberFrom_ids]
  · apply renumberFrom_fixed ids
    · exact fun operation _ => List.not_mem_nil
    · rw [places, normalizeOperationsWithUniqueIds_length, List.range_eq_range']
  · simp only [validateOperationIds, List.map_map, Function.comp_def, ids, distinct, not_true, if_false]

/-- The operations a finished turn numbers: what was applied, and the plan's own unless live edits replace it. -/
def mergedOperations (plan : AgentPlan) (context : TurnContext) : List OperationDict :=
  if context.liveRunEnabled && !context.appliedOperations.isEmpty then context.appliedOperations
  else context.appliedOperations ++ plan.operations.map fun operation => ⟨operation, false⟩

theorem bindCanonicalPlan_operations (lower : String → String) (settings : List EditableSetting) (plan : AgentPlan) :
    (bindCanonicalPlan lower settings plan).operations =
      if plan.canonicalActions.getD [] = [] then plan.operations
      else (normalizeOperationsWithUniqueIds (plan.operations.map (⟨·, false⟩) ++
        (bindCanonicalActions lower settings (plan.canonicalActions.getD [])).operations)).map (·.operation) := by
  unfold bindCanonicalPlan
  cases plan.canonicalActions.getD [] with
  | nil => rfl
  | cons action rest =>
    simp only [reduceCtorEq, if_false]
    split_ifs <;> rfl

/-- The binder and the end of a turn renumber any list of operations without loss, and to a valid plan. -/
theorem renumbering_sound :
    (∀ operations, Renumbered operations (normalizeOperationsWithUniqueIds operations)) ∧
      (∀ (lower : String → String) (settings : List EditableSetting) (plan : AgentPlan),
        (bindCanonicalPlan lower settings plan).operations =
          if plan.canonicalActions.getD [] = [] then plan.operations
          else (normalizeOperationsWithUniqueIds (plan.operations.map (⟨·, false⟩) ++
            (bindCanonicalActions lower settings (plan.canonicalActions.getD [])).operations)).map (·.operation)) ∧
      ∀ (plan : AgentPlan) (context : TurnContext),
        (finalizePlanWithLiveContext plan (some context)).operations =
          (normalizeOperationsWithUniqueIds (mergedOperations plan context)).map (·.operation) := by
  refine ⟨normalizeOperationsWithUniqueIds_renumbered, bindCanonicalPlan_operations, fun plan context => ?_⟩
  rfl

end DarktableAgent.Server
