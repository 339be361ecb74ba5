import DarktableAgent.Client.Atomicity

/-! The execution report, as the loops over a batch build it result by result.

A result is appended, and the counter of its status goes up where the status is set.
The loops run over the whole batch; a flag makes the later rounds record a block.
-/

set_option autoImplicit false

namespace DarktableAgent.Client

open Foundation Protocol

namespace ExecutionReport

variable {ν : Type}

/-- `dt_agent_execution_report_init` -/
def empty : ExecutionReport ν := ⟨[], 0, 0, 0⟩

/-- A result is appended. `_execute_operation` counts an applied one, `_execution_result_set_failed` a
failed one; a blocked one is counted by `_execution_result_set_blocked` or by the loop that blocks it. -/
def record (report : ExecutionReport ν) (result : ExecutionResult ν) : ExecutionReport ν :=
  let results := report.results ++ [result]
  match result.status with
  | .applied => { report with results, appliedCount := report.appliedCount + 1 }
  | .blocked => { report with results, blockedCount := report.blockedCount + 1 }
  | .failed => { report with results, failedCount := report.failedCount + 1 }

@[simp] theorem record_results (report : ExecutionReport ν) (result : ExecutionResult ν) :
    (report.record result).results = report.results ++ [result] := by
  unfold record
  cases result.status <;> rfl

/-- The counters say how many results have each status. -/
theorem record_ofResults (results : List (ExecutionResult ν)) (result : ExecutionResult ν) :
    (ofResults results).record result = ofResults (results ++ [result]) := by
  unfold record ofResults
  cases status : result.status <;> simp [List.countP_append, status]

theorem foldl_record (results earlier : List (ExecutionResult ν)) :
    results.foldl record (ofResults earlier) = ofResults (earlier ++ results) := by
  induction results generalizing earlier with
  | nil => simp
  | cons result rest ih => simp [record_ofResults, ih]

theorem ofResults_total (results : List (ExecutionResult ν)) :
    (ofResults results).appliedCount + (ofResults results).blockedCount + (ofResults results).failedCount =
      results.length := by
  induction results with
  | nil => rfl
  | cons result rest ih =>
    simp only [ofResults, List.countP_cons, List.length_cons] at ih ⊢
    cases status : result.status <;> simp <;> omega

theorem record_appliedCount (report : ExecutionReport ν) (result : ExecutionResult ν) :
    (report.record result).appliedCount = report.appliedCount + if result.status = .applied then 1 else 0 := by
  unfold ExecutionReport.record
  cases status : result.status <;> simp

end ExecutionReport

/-- A call of a write primitive: the place of its operation in the batch, and the state before that
operation. -/
structure WriteEvent (σ ν : Type) where
  index : Nat
  before : σ
  write : ControlWrite ν

/-- The variables of `dt_agent_execute_response` between two rounds, and the calls made so far. -/
structure ExecutionLoop (σ ν : Type) where
  state : σ
  report : ExecutionReport ν
  allOk : Bool
  firstError : Option String
  events : List (WriteEvent σ ν)

theorem orderedOperationsForExecution_length {ν : Type} (operations : List (ChatOperation ν)) :
    (orderedOperationsForExecution operations).length = operations.length :=
  (sortSelected_perm operations).length_eq

section Stopped

variable {ν : Type} (failedIndex : Nat) (text : String)

/-- The result of an operation of a batch that the validation has stopped at an index. -/
def validationResult (operation : ChatOperation ν) (index : Nat) : ExecutionResult ν :=
  resultOf operation .blocked <|
    if index = failedIndex then text
    else if index < failedIndex then "blocked by batch validation failure"
    else "blocked by a previous operation failure"

def blockByValidation (report : ExecutionReport ν) (entry : ChatOperation ν × Nat) : ExecutionReport ν :=
  report.record (validationResult failedIndex text entry.1 entry.2)

/-- The report of a batch that the validation stopped has one blocked result for each operation. -/
theorem blockByValidation_fold (entries : List (ChatOperation ν × Nat)) :
    entries.foldl (blockByValidation failedIndex text) .empty =
      .ofResults (entries.map fun entry => validationResult failedIndex text entry.1 entry.2) := by
  have recorded := ExecutionReport.foldl_record
    (entries.map fun entry => validationResult failedIndex text entry.1 entry.2) []
  rw [List.foldl_map, List.nil_append] at recorded
  exact recorded

/-- Over a stretch of places at which a function does not look at the place, it is a plain map. -/
theorem map_zipIdx_of_same {α β : Type} {f : α × Nat → β} {g : α → β} {items : List α} {start : Nat}
    (same : ∀ item index, start ≤ index → index < start + items.length → f (item, index) = g item) :
    (items.zipIdx start).map f = items.map g := by
  induction items generalizing start with
  | nil => rfl
  | cons item rest ih =>
    rw [List.zipIdx_cons, List.map_cons, List.map_cons, same item start le_rfl (by simp)]
    congr 1
    apply ih
    intro other index lower upper
    apply same other index (by omega)
    rw [List.length_cons]
    omega

theorem validationResults_split (before behind : List (ChatOperation ν)) (operation : ChatOperation ν) :
    ((before ++ operation :: behind).zipIdx.map fun entry =>
        validationResult before.length text entry.1 entry.2) =
      before.map (resultOf · .blocked "blocked by batch validation failure") ++
        resultOf operation .blocked text :: behind.map blockedByPrevious := by
  rw [List.zipIdx_append, List.map_append, List.zipIdx_cons, List.map_cons]
  congr 1
  · apply map_zipIdx_of_same
    intro item index _ inside
    have other : index ≠ before.length := by omega
    have earlier : index < before.length := by omega
    simp [validationResult, other, earlier]
  · congr 1
    · simp [validationResult]
    · apply map_zipIdx_of_same
      intro item index later _
      have other : index ≠ before.length := by omega
      have notEarlier : ¬ index < before.length := by omega
      simp [validationResult, other, notEarlier, blockedByPrevious]

end Stopped

section Loops

variable {σ ν W : Type} [Numeric ν] (darkroom : Darkroom σ ν W) (state : σ)

/-- One round of the execution loop. -/
def executeNext (loop : ExecutionLoop σ ν) (operation : ChatOperation ν) : ExecutionLoop σ ν :=
  if loop.allOk then
    let executed := executeOperation darkroom loop.state operation
    let applied := decide (executed.result.status = .applied)
    { state := executed.state
      report := loop.report.record executed.result
      allOk := applied
      firstError := if applied then none else executed.error
      events := loop.events ++ executed.writes.map (⟨loop.report.results.length, loop.state, ·⟩) }
  else { loop with report := loop.report.record (blockedByPrevious operation) }

/-- The validation loop: the index of the first rejected operation, and its error if it has one. -/
def validationFailure (index : Nat) : List (ChatOperation ν) → Option (Nat × Option String)
  | [] => none
  | operation :: rest =>
    match validateOperation darkroom state operation with
    | .error error => some (index, error)
    | .ok () => validationFailure (index + 1) rest

/-- `dt_agent_execute_response`, loop by loop. -/
def reportResponse (operations : List (ChatOperation ν)) : ExecutionLoop σ ν :=
  if ¬ darkroom.isCurrentView state then
    ⟨state, .empty, false, some "agent edits require darkroom view", []⟩
  else
    let ordered := orderedOperationsForExecution operations
    match validationFailure darkroom state 0 ordered with
    | some (failedIndex, some text) =>
      ⟨state, ordered.zipIdx.foldl (blockByValidation failedIndex text) .empty, false, some text, []⟩
    | some (_, none) | none => ordered.foldl (executeNext darkroom) ⟨state, .empty, true, none, []⟩

end Loops

section Discrete

variable {σ ν W : Type} {darkroom : Darkroom σ ν W} {state : σ} {operation : ChatOperation ν}

/-- The two texts by which a result names its operation. -/
def resultName (result : ExecutionResult ν) : String × String := (result.operationId, result.actionPath)

def operationName (operation : ChatOperation ν) : String × String := (operation.operationId, operation.actionPath)

/-- What a choice or bool operation comes to: refused before anything is written, or reported as the write to a
control went. -/
inductive Attempted {ρ : Type} (state : σ) (operation : ChatOperation ν) (write : ActionDescriptor ν W → Written σ ν ρ) :
    ExecutedOperation σ ν → Prop where
  | refused (earlier : Option String) (message : String) :
    Attempted state operation write (setBlocked state operation earlier message)
  | failed (descriptor : ActionDescriptor ν W) (error : Option String) :
    Attempted state operation write (setFailed (write descriptor).state operation (write descriptor).writes error)
  | applied (descriptor : ActionDescriptor ν W) (message : String) :
    Attempted state operation write (setApplied (write descriptor).state operation (write descriptor).writes message)

section Attempted

variable {ρ : Type} {write : ActionDescriptor ν W → Written σ ν ρ} {executed : ExecutedOperation σ ν}

theorem Attempted.named (attempted : Attempted state operation write executed) :
    resultName executed.result = operationName operation := by
  cases attempted <;> rfl

theorem Attempted.called (attempted : Attempted state operation write executed) {call : ControlWrite ν}
    (member : call ∈ executed.writes) : ∃ descriptor, call ∈ (write descriptor).writes := by
  cases attempted with
  | refused earlier message => cases member
  | failed descriptor error => exact ⟨descriptor, member⟩
  | applied descriptor message => exact ⟨descriptor, member⟩

end Attempted

theorem executeSetChoiceOperation_attempted : Attempted state operation
    (fun descriptor => catalogWriteChoice darkroom state descriptor operation.choiceValue)
    (executeSetChoiceOperation darkroom state operation) := by
  unfold executeSetChoiceOperation
  cases catalogFindDescriptor darkroom state operation.actionPath operation.settingId with
  | error text => exact .refused _ _
  | ok descriptor =>
    dsimp only
    split
    · exact .refused _ _
    · split
      · exact .failed descriptor _
      · exact .applied descriptor _

theorem executeSetBoolOperation_attempted : Attempted state operation
    (fun descriptor => catalogWriteBool darkroom state descriptor operation.boolValue)
    (executeSetBoolOperation darkroom state operation) := by
  unfold executeSetBoolOperation
  cases catalogFindDescriptor darkroom state operation.actionPath operation.settingId with
  | error text => exact .refused _ _
  | ok descriptor =>
    dsimp only
    split
    · exact .refused _ _
    · split
      · exact .failed descriptor _
      · exact .applied descriptor _

theorem catalogWriteChoice_writes (darkroom : Darkroom σ ν W) (state : σ) (descriptor : ActionDescriptor ν W)
    (requested : Int) :
    ∀ write ∈ (catalogWriteChoice darkroom state descriptor requested).writes,
      write = .choice descriptor.settingId requested := by
  unfold catalogWriteChoice
  cases descriptor.widget with
  | none => simp
  | some widget =>
    dsimp only
    split
    · simp
    · cases darkroom.comboboxSetFromValue state widget requested <;> simp

theorem catalogWriteBool_writes (darkroom : Darkroom σ ν W) (state : σ) (descriptor : ActionDescriptor ν W)
    (requested : Bool) :
    ∀ write ∈ (catalogWriteBool darkroom state descriptor requested).writes,
      write = .bool descriptor.settingId requested := by
  unfold catalogWriteBool
  cases descriptor.widget with
  | none => simp
  | some widget =>
    dsimp only
    split
    · simp
    · split <;> simp

/-- A choice or bool operation writes no number. -/
theorem executeSetChoiceOperation_number {settingId : String} {value : ν} :
    .number settingId value ∉ (executeSetChoiceOperation darkroom state operation).writes := by
  intro member
  obtain ⟨descriptor, called⟩ := executeSetChoiceOperation_attempted.called member
  exact nomatch catalogWriteChoice_writes darkroom state descriptor operation.choiceValue _ called

theorem executeSetBoolOperation_number {settingId : String} {value : ν} :
    .number settingId value ∉ (executeSetBoolOperation darkroom state operation).writes := by
  intro member
  obtain ⟨descriptor, called⟩ := executeSetBoolOperation_attempted.called member
  exact nomatch catalogWriteBool_writes darkroom state descriptor operation.boolValue _ called

end Discrete

section Operations

variable {σ ν W : Type} [Numeric ν] {darkroom : Darkroom σ ν W} {state : σ} {operation : ChatOperation ν}

theorem executeSetFloatOperation_named :
    resultName (executeSetFloatOperation darkroom state operation).result = operationName operation := by
  unfold executeSetFloatOperation
  cases catalogFindDescriptor darkroom state operation.actionPath operation.settingId with
  | error text => rfl
  | ok descriptor =>
    dsimp only
    cases readDescriptorFloatValue darkroom state descriptor with
    | error error => rfl
    | ok before =>
      dsimp only
      cases operation.valueMode with
      | none => rfl
      | some mode =>
        dsimp only
        split
        · rfl
        · split <;> rfl

/-- Whatever happens to an operation, its result carries its names. -/
theorem executeOperation_named :
    resultName (executeOperation darkroom state operation).result = operationName operation := by
  unfold executeOperation
  split_ifs
  · rfl
  · rfl
  · cases operation.kind with
    | none => rfl
    | some kind =>
      cases kind with
      | setFloat => exact executeSetFloatOperation_named
      | setChoice => exact executeSetChoiceOperation_attempted.named
      | setBool => exact executeSetBoolOperation_attempted.named

/-- The number that a float operation asks for: an absolute one, or one relative to the value that was
read just before. -/
def RequestedTarget (darkroom : Darkroom σ ν W) (state : σ) (descriptor : ActionDescriptor ν W)
    (operation : ChatOperation ν) (target : ν) : Prop :=
  (operation.valueMode = some .set ∧ target = operation.number) ∨
    ∃ before, operation.valueMode = some .delta ∧
      catalogReadCurrentNumber darkroom state descriptor = .value before ∧
      target = Numeric.add before operation.number

theorem readDescriptorFloatValue_ok {descriptor : ActionDescriptor ν W} {before : ν}
    (read : readDescriptorFloatValue darkroom state descriptor = .ok before) :
    catalogReadCurrentNumber darkroom state descriptor = .value before := by
  unfold readDescriptorFloatValue at read
  cases reading : catalogReadCurrentNumber darkroom state descriptor with
  | failed error => simp [reading] at read
  | value number =>
    simp only [reading] at read
    split_ifs at read
    rw [Except.ok.inj read]

theorem catalogWriteNumber_writes (descriptor : ActionDescriptor ν W) (requested : ν) :
    ∀ write ∈ (catalogWriteNumber darkroom state descriptor requested).writes,
      write = .number descriptor.settingId (catalogClampNumber descriptor requested) := by
  unfold catalogWriteNumber
  split_ifs
  · simp
  · cases descriptor.binding with
    | widget => cases descriptor.widget <;> simp
    | rgblevelsHandle | colorzonesBand => simp

/-- A number that was handed to the writer of a control. -/
structure NumberWritten (darkroom : Darkroom σ ν W) (state : σ) (operation : ChatOperation ν) (settingId : String)
    (value : ν) (descriptor : ActionDescriptor ν W) (target : ν) : Prop where
  found : catalogFindDescriptor darkroom state operation.actionPath operation.settingId = .ok descriptor
  ofDescriptor : settingId = descriptor.settingId
  requested : RequestedTarget darkroom state descriptor operation target
  clamped : value = catalogClampNumber descriptor target

theorem executeSetFloatOperation_number {settingId : String} {value : ν}
    (written : .number settingId value ∈ (executeSetFloatOperation darkroom state operation).writes) :
    ∃ descriptor target, NumberWritten darkroom state operation settingId value descriptor target := by
  unfold executeSetFloatOperation at written
  cases found : catalogFindDescriptor darkroom state operation.actionPath operation.settingId with
  | error text =>
    rw [found] at written
    cases written
  | ok descriptor =>
    rw [found] at written
    dsimp only at written
    cases read : readDescriptorFloatValue darkroom state descriptor with
    | error error =>
      rw [read] at written
      cases written
    | ok before =>
      rw [read] at written
      dsimp only at written
      cases mode : operation.valueMode with
      | none =>
        rw [mode] at written
        cases written
      | some valueMode =>
        rw [mode] at written
        dsimp only at written
        split at written
        · cases written
        · -- both a failed and a successful write keep the calls that were made
          have clamped (target : ν) (requested : RequestedTarget darkroom state descriptor operation target)
              (called : .number settingId value ∈ (catalogWriteNumber darkroom state descriptor target).writes) :
              NumberWritten darkroom state operation settingId value descriptor target := by
            obtain ⟨sameId, sameValue⟩ :=
              ControlWrite.number.inj (catalogWriteNumber_writes descriptor target _ called)
            exact ⟨found, sameId, requested, sameValue⟩
          cases valueMode with
          | set =>
            refine ⟨descriptor, _, clamped operation.number (.inl ⟨mode, rfl⟩) ?_⟩
            dsimp only at written
            split at written <;> exact written
          | delta =>
            refine ⟨descriptor, _, clamped _ (.inr ⟨before, mode, readDescriptorFloatValue_ok read, rfl⟩) ?_⟩
            dsimp only at written
            split at written <;> exact written

/-- Every number that an operation writes is its target, clamped to the range of the control that it names. -/
theorem executeOperation_number {settingId : String} {value : ν}
    (written : .number settingId value ∈ (executeOperation darkroom state operation).writes) :
    ∃ descriptor target, NumberWritten darkroom state operation settingId value descriptor target := by
  unfold executeOperation at written
  split_ifs at written
  · cases written
  · cases written
  · cases kind : operation.kind with
    | none =>
      rw [kind] at written
      cases written
    | some known =>
      rw [kind] at written
      cases known with
      | setFloat => exact executeSetFloatOperation_number written
      | setChoice => exact absurd written executeSetChoiceOperation_number
      | setBool => exact absurd written executeSetBoolOperation_number

end Operations

section Invariant

variable {σ ν W : Type} [Numeric ν] {darkroom : Darkroom σ ν W} {done : List (ChatOperation ν)}
  {loop : ExecutionLoop σ ν}

/-- What holds of the variables of the execution loop behind the operations that are done. -/
structure LoopInvariant (darkroom : Darkroom σ ν W) (done : List (ChatOperation ν)) (loop : ExecutionLoop σ ν) :
    Prop where
  counted : loop.report = .ofResults loop.report.results
  named : loop.report.results.map resultName = done.map operationName
  -- the applied results come first, and there are as many as were counted
  applied : ∀ index result, loop.report.results[index]? = some result →
    (result.status = .applied ↔ index < loop.report.appliedCount)
  ok : loop.allOk = decide (loop.report.appliedCount = done.length)
  events : ∀ event ∈ loop.events, event.index ≤ loop.report.appliedCount ∧
    ∃ operation, done[event.index]? = some operation ∧
      event.write ∈ (executeOperation darkroom event.before operation).writes

theorem LoopInvariant.length (holds : LoopInvariant darkroom done loop) :
    loop.report.results.length = done.length := by
  have same := congrArg List.length holds.named
  simpa using same

theorem LoopInvariant.applied_le (holds : LoopInvariant darkroom done loop) :
    loop.report.appliedCount ≤ done.length := by
  rw [holds.counted, ← holds.length]
  exact List.countP_le_length

/-- A result is recorded behind the others: an applied one only while all results are applied. -/
theorem LoopInvariant.record (holds : LoopInvariant darkroom done loop) {operation : ChatOperation ν}
    {result : ExecutionResult ν} (names : resultName result = operationName operation)
    (inOrder : result.status = .applied → loop.report.appliedCount = done.length)
    {state : σ} {allOk : Bool} {firstError : Option String} {events : List (WriteEvent σ ν)}
    (ok : allOk = decide (result.status = .applied))
    (written : ∀ event ∈ events, event ∈ loop.events ∨ (loop.report.appliedCount = done.length ∧
      event.index = done.length ∧ event.write ∈ (executeOperation darkroom event.before operation).writes)) :
    LoopInvariant darkroom (done ++ [operation]) ⟨state, loop.report.record result, allOk, firstError, events⟩ := by
  have count := loop.report.record_appliedCount result
  have length := holds.length
  have atMost := holds.applied_le
  constructor
  · dsimp only
    rw [ExecutionReport.record_results, ← ExecutionReport.record_ofResults, ← holds.counted]
  · simp [holds.named, names]
  · intro index other placed
    dsimp only at placed ⊢
    rw [ExecutionReport.record_results, List.getElem?_append] at placed
    rw [count]
    split_ifs at placed with earlier
    · rw [holds.applied index other placed]
      split_ifs with isApplied
      · have full := inOrder isApplied
        omega
      · rfl
    · obtain ⟨isLast, rfl⟩ : index = done.length ∧ result = other := by
        rw [List.getElem?_singleton] at placed
        split_ifs at placed with first
        exact ⟨by omega, Option.some.inj placed⟩
      by_cases isApplied : result.status = .applied
      · have full := inOrder isApplied
        simp only [isApplied, if_true, true_iff]
        omega
      · simp only [isApplied, if_false, false_iff]
        omega
  · dsimp only
    rw [ok, count, List.length_append, List.length_singleton]
    by_cases isApplied : result.status = .applied
    · simp [isApplied, inOrder isApplied]
    · simp only [isApplied, decide_false, if_false]
      symm
      apply decide_eq_false
      omega
  · intro event member
    dsimp only at member ⊢
    rw [count]
    rcases written event member with earlier | ⟨full, isLast, called⟩
    · obtain ⟨early, other, placed, called⟩ := holds.events event earlier
      have inside : event.index < done.length := (List.getElem?_eq_some_iff.mp placed).1
      refine ⟨by omega, other, ?_, called⟩
      rw [List.getElem?_append_left inside]
      exact placed
    · refine ⟨by omega, operation, ?_, called⟩
      rw [isLast]
      exact List.getElem?_concat_length

theorem LoopInvariant.next (holds : LoopInvariant darkroom done loop) (operation : ChatOperation ν) :
    LoopInvariant darkroom (done ++ [operation]) (executeNext darkroom loop operation) := by
  have isOk := holds.ok
  unfold executeNext
  split_ifs with going
  · have full : loop.report.appliedCount = done.length := by
      rw [going] at isOk
      exact of_decide_eq_true isOk.symm
    apply holds.record executeOperation_named (fun _ => full) rfl
    intro event member
    rcases List.mem_append.mp member with earlier | new
    · exact .inl earlier
    · obtain ⟨write, called, rfl⟩ := List.mem_map.mp new
      exact .inr ⟨full, holds.length, called⟩
  · apply holds.record rfl
    · intro isApplied
      cases isApplied
    · rw [Bool.not_eq_true] at going
      rw [going]
      rfl
    · exact fun event member => .inl member

theorem LoopInvariant.run (holds : LoopInvariant darkroom done loop) (operations : List (ChatOperation ν)) :
    LoopInvariant darkroom (done ++ operations) (operations.foldl (executeNext darkroom) loop) := by
  induction operations generalizing done loop with
  | nil => simpa using holds
  | cons operation rest ih =>
    rw [List.foldl_cons, List.append_cons]
    exact ih (holds.next operation)

end Invariant

section Refinement

variable {σ ν W : Type} [Numeric ν] {darkroom : Darkroom σ ν W} {loop : ExecutionLoop σ ν}

/-- The loops end as the recursion over the batch says. -/
structure Refines (ended : ExecutionLoop σ ν) (execution : Execution σ ν) : Prop where
  state : ended.state = execution.state
  report : ended.report = execution.report
  ok : ended.allOk = execution.ok
  error : ended.firstError = execution.error
  writes : ended.events.map (·.write) = execution.writes

theorem foldl_executeNext_stopped (stopped : loop.allOk = false) (operations : List (ChatOperation ν)) :
    operations.foldl (executeNext darkroom) loop =
      { loop with report := (operations.map blockedByPrevious).foldl ExecutionReport.record loop.report } := by
  induction operations generalizing loop with
  | nil => rfl
  | cons operation rest ih =>
    have next : executeNext darkroom loop operation =
        { loop with report := loop.report.record (blockedByPrevious operation) } := by
      simp [executeNext, stopped]
    rw [List.foldl_cons, next, List.map_cons, List.foldl_cons]
    exact ih stopped

theorem executeAll_counted (darkroom : Darkroom σ ν W) (state : σ) (operations : List (ChatOperation ν)) :
    (executeAll darkroom state operations).report =
      .ofResults (executeAll darkroom state operations).report.results := by
  cases operations with
  | nil => rfl
  | cons operation rest =>
    unfold executeAll
    dsimp only
    split <;> rfl

/-- The rounds on the rest of a batch, behind operations that were all applied. -/
theorem foldl_executeNext (going : loop.allOk = true) (quiet : loop.firstError = none)
    {earlier : List (ExecutionResult ν)} (counted : loop.report = .ofResults earlier)
    (operations : List (ChatOperation ν)) :
    Refines (operations.foldl (executeNext darkroom) loop)
      { executeAll darkroom loop.state operations with
        report := .ofResults (earlier ++ (executeAll darkroom loop.state operations).report.results)
        writes := loop.events.map (·.write) ++ (executeAll darkroom loop.state operations).writes } := by
  induction operations generalizing loop earlier with
  | nil =>
    constructor <;> simp [executeAll, counted, going, quiet, ExecutionReport.ofResults]
  | cons operation rest ih =>
    obtain ⟨executed, isExecuted⟩ : ∃ executed, executeOperation darkroom loop.state operation = executed := ⟨_, rfl⟩
    have next : executeNext darkroom loop operation =
        { state := executed.state
          report := .ofResults (earlier ++ [executed.result])
          allOk := decide (executed.result.status = .applied)
          firstError := if executed.result.status = .applied then none else executed.error
          events := loop.events ++ executed.writes.map (⟨loop.report.results.length, loop.state, ·⟩) } := by
      simp [executeNext, going, isExecuted, counted, ExecutionReport.record_ofResults]
    rw [List.foldl_cons, next, executeAll, isExecuted]
    dsimp only
    by_cases applied : executed.result.status = .applied
    · let moved : ExecutionLoop σ ν := ⟨executed.state, .ofResults (earlier ++ [executed.result]), true, none,
        loop.events ++ executed.writes.map (⟨loop.report.results.length, loop.state, ·⟩)⟩
      have later := @ih moved rfl rfl _ rfl
      simp only [applied, decide_true, if_true]
      constructor
      · exact later.state
      · rw [later.report, List.append_assoc]
        rfl
      · exact later.ok
      · exact later.error
      · rw [later.writes]
        simp [moved, Function.comp_def]
    · rw [foldl_executeNext_stopped (by simp [applied])]
      simp only [applied, decide_false, if_false]
      constructor
      · rfl
      · dsimp only
        rw [ExecutionReport.foldl_record, List.append_assoc]
        rfl
      · rfl
      · rfl
      · simp [Function.comp_def]

theorem validationFailure_eq (darkroom : Darkroom σ ν W) (state : σ) (index : Nat)
    (operations : List (ChatOperation ν)) :
    validationFailure darkroom state index operations =
      (firstRejection darkroom state operations).map fun rejection =>
        (index + rejection.before.length, rejection.error) := by
  induction operations generalizing index with
  | nil => rfl
  | cons operation rest ih =>
    rw [validationFailure, firstRejection]
    cases validateOperation darkroom state operation with
    | error error => rfl
    | ok accepted =>
      dsimp only
      rw [ih, Option.map_map]
      congr 1
      funext rejection
      simp only [Function.comp_apply, List.length_cons]
      rw [Nat.add_assoc, Nat.add_comm 1]

/-- The report of the loops is the one that the recursion over the batch gives. -/
theorem reportResponse_refines (darkroom : Darkroom σ ν W) (state : σ) (operations : List (ChatOperation ν)) :
    Refines (reportResponse darkroom state operations) (executeResponse darkroom state operations) := by
  have executed : Refines
      ((orderedOperationsForExecution operations).foldl (executeNext darkroom) ⟨state, .empty, true, none, []⟩)
      (executeAll darkroom state (orderedOperationsForExecution operations)) := by
    have counted : (ExecutionReport.empty : ExecutionReport ν) = .ofResults [] := rfl
    have ran := @foldl_executeNext _ _ _ _ darkroom ⟨state, .empty, true, none, []⟩ rfl rfl [] counted
      (orderedOperationsForExecution operations)
    refine ⟨ran.state, ?_, ran.ok, ran.error, ran.writes⟩
    rw [executeAll_counted]
    exact ran.report
  unfold reportResponse executeResponse
  split_ifs with inView
  · dsimp only
    rw [validationFailure_eq]
    cases rejected : firstRejection darkroom state (orderedOperationsForExecution operations) with
    | none => exact executed
    | some rejection =>
      obtain ⟨split, -, -⟩ := firstRejection_some rejected
      obtain ⟨before, operation, error, behind⟩ := rejection
      cases error with
      | none => exact executed
      | some text =>
        refine ⟨rfl, ?_, rfl, rfl, rfl⟩
        dsimp only [Option.map_some] at split ⊢
        rw [split, blockByValidation_fold, Nat.zero_add, validationResults_split]
        rfl
  · constructor <;> rfl

end Refinement

section Truthful

variable {σ ν W : Type} [Numeric ν] {darkroom : Darkroom σ ν W} {state : σ}

/-- A report that says what happened to every operation of a batch, and calls of writers that stop at
the first operation that is not applied. -/
structure Truthful (darkroom : Darkroom σ ν W) (operations : List (ChatOperation ν)) (ended : ExecutionLoop σ ν) :
    Prop where
  oneResultEach : ended.report.results.map resultName =
    (orderedOperationsForExecution operations).map operationName
  appliedCount : ended.report.appliedCount = ended.report.results.countP (·.status = .applied)
  blockedCount : ended.report.blockedCount = ended.report.results.countP (·.status = .blocked)
  failedCount : ended.report.failedCount = ended.report.results.countP (·.status = .failed)
  total : ended.report.appliedCount + ended.report.blockedCount + ended.report.failedCount = operations.length
  appliedFirst : ∀ index result, ended.report.results[index]? = some result →
    (result.status = .applied ↔ index < ended.report.appliedCount)
  success : ended.allOk = true ↔ ∀ result ∈ ended.report.results, result.status = .applied
  -- nothing is written for an operation behind one that is not applied
  stopped : ∀ event ∈ ended.events, ∀ earlier result, earlier < event.index →
    ended.report.results[earlier]? = some result → result.status = .applied
  numbers : ∀ event ∈ ended.events, ∀ settingId value, event.write = .number settingId value →
    ∃ operation descriptor target, (orderedOperationsForExecution operations)[event.index]? = some operation ∧
      NumberWritten darkroom event.before operation settingId value descriptor target

theorem LoopInvariant.truthful {operations : List (ChatOperation ν)} {ended : ExecutionLoop σ ν}
    (holds : LoopInvariant darkroom (orderedOperationsForExecution operations) ended) :
    Truthful darkroom operations ended := by
  have length := holds.length
  have total := ExecutionReport.ofResults_total ended.report.results
  rw [← holds.counted] at total
  constructor
  · exact holds.named
  · exact congrArg ExecutionReport.appliedCount holds.counted
  · exact congrArg ExecutionReport.blockedCount holds.counted
  · exact congrArg ExecutionReport.failedCount holds.counted
  · rw [total, length, orderedOperationsForExecution_length]
  · exact holds.applied
  · rw [holds.ok, decide_eq_true_eq, ← length, holds.counted]
    simp only [ExecutionReport.ofResults]
    rw [List.countP_eq_length]
    simp
  · intro event member earlier result before placed
    obtain ⟨atMost, -⟩ := holds.events event member
    rw [holds.applied earlier result placed]
    omega
  · intro event member settingId value isNumber
    obtain ⟨-, operation, placed, called⟩ := holds.events event member
    rw [isNumber] at called
    obtain ⟨descriptor, target, written⟩ := executeOperation_number called
    exact ⟨operation, descriptor, target, placed, written⟩

theorem validationFailure_some {index : Nat} {operations : List (ChatOperation ν)} {failure : Nat × Option String}
    (found : validationFailure darkroom state index operations = some failure) : operations ≠ [] := by
  rintro rfl
  cases found

theorem blockedBatch_invariant {ordered : List (ChatOperation ν)} (present : ordered ≠ []) (failedIndex : Nat)
    (text : String) :
    LoopInvariant darkroom ordered
      ⟨state, ordered.zipIdx.foldl (blockByValidation failedIndex text) .empty, false, some text, []⟩ := by
  rw [blockByValidation_fold]
  have noneApplied : (ExecutionReport.ofResults (ordered.zipIdx.map fun entry =>
      validationResult failedIndex text entry.1 entry.2)).appliedCount = 0 := by
    simp [ExecutionReport.ofResults, List.countP_eq_zero, validationResult, resultOf]
  constructor
  · rfl
  · simp only [ExecutionReport.ofResults, List.map_map]
    conv_rhs => rw [← List.zipIdx_map_fst 0 ordered, List.map_map]
    rfl
  · intro index result placed
    obtain ⟨entry, -, rfl⟩ := List.mem_map.mp (List.mem_of_getElem? placed)
    dsimp only
    rw [noneApplied]
    simp [validationResult, resultOf]
  · dsimp only
    rw [noneApplied]
    symm
    apply decide_eq_false
    intro empty
    exact present (List.eq_nil_of_length_eq_zero empty.symm)
  · simp

/-- The report of a batch in the darkroom is complete and truthful, whatever the catalog holds and
whatever fails. -/
theorem reportResponse_truthful (inView : darkroom.isCurrentView state) (operations : List (ChatOperation ν)) :
    Truthful darkroom operations (reportResponse darkroom state operations) := by
  have started : LoopInvariant darkroom [] (⟨state, .empty, true, none, []⟩ : ExecutionLoop σ ν) :=
    ⟨rfl, rfl, by simp [ExecutionReport.empty], rfl, by simp⟩
  have executed := started.run (orderedOperationsForExecution operations)
  unfold reportResponse
  rw [if_neg (by simpa using inView)]
  dsimp only
  cases validated : validationFailure darkroom state 0 (orderedOperationsForExecution operations) with
  | none => exact executed.truthful
  | some failure =>
    obtain ⟨failedIndex, error⟩ := failure
    cases error with
    | none => exact executed.truthful
    | some text => exact (blockedBatch_invariant (validationFailure_some validated) failedIndex text).truthful

end Truthful

/-- The slider takes the first number, clamped; the band behind it cannot be read. -/
theorem reportResponse_truthful_slider :
    Truthful
      (sliderRoom [sampleDescriptor "exposure" "iop/exposure/exposure" .widget,
        sampleDescriptor "band" "iop/colorzones/graph" .colorzonesBand])
      [setNumber "exposure" "iop/exposure/exposure" 9, setNumber "band" "iop/colorzones/graph" 0]
      (reportResponse
        (sliderRoom [sampleDescriptor "exposure" "iop/exposure/exposure" .widget,
          sampleDescriptor "band" "iop/colorzones/graph" .colorzonesBand])
        0 [setNumber "exposure" "iop/exposure/exposure" 9, setNumber "band" "iop/colorzones/graph" 0]) :=
  reportResponse_truthful rfl _

end DarktableAgent.Client
