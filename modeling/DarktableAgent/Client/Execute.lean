import Mathlib.Algebra.Order.Ring.Rat
import DarktableAgent.Client.Catalog
import DarktableAgent.Foundation.SelectedSort

/-! The client's execution of a batch of operations.

The whole batch is validated before anything is written. A validator answers
through its result and through an error, and the two do not always agree: a
float operation on an unreadable control is rejected without an error.
-/

set_option autoImplicit false

namespace DarktableAgent.Client

open Foundation Protocol

inductive ExecutionStatus where
  | applied
  | blocked
  | failed
  deriving DecidableEq, Repr

structure ExecutionResult (ν : Type) where
  operationId : String
  actionPath : String
  status : ExecutionStatus
  message : String
  valueBefore : Option ν := none
  valueAfter : Option ν := none
  deriving DecidableEq, Repr

structure ExecutionReport (ν : Type) where
  results : List (ExecutionResult ν)
  appliedCount : Nat
  blockedCount : Nat
  failedCount : Nat
  deriving DecidableEq, Repr

/-- The report over results that were added one by one. -/
def ExecutionReport.ofResults {ν : Type} (results : List (ExecutionResult ν)) : ExecutionReport ν where
  results := results
  appliedCount := results.countP (·.status = .applied)
  blockedCount := results.countP (·.status = .blocked)
  failedCount := results.countP (·.status = .failed)

structure Execution (σ ν : Type) where
  state : σ
  writes : List (ControlWrite ν)
  report : ExecutionReport ν
  ok : Bool
  error : Option String

section Order

variable {ν : Type}

def isWhiteBalanceOperation (operation : ChatOperation ν) : Bool :=
  "iop/temperature/".toList.isPrefixOf operation.actionPath.toList

/-- `_white_balance_operation_rank` of a white-balance operation. -/
def whiteBalanceRank (operation : ChatOperation ν) : Nat :=
  match operation.kind with
  | some .setBool => 0
  | some .setChoice => 1
  | some .setFloat =>
    let order := [("finetune", 2), ("temperature", 3), ("tint", 4), ("red", 5), ("green", 6), ("blue", 7),
      ("emerald", 8), ("yellow", 9), ("various", 9)]
    (order.lookup (pathLeaf operation.actionPath)).getD 10
  | none => 11

/-- `_ordered_operations_for_execution`; equal ranks are ordered by their original index. -/
def orderedOperationsForExecution (operations : List (ChatOperation ν)) : List (ChatOperation ν) :=
  sortSelected isWhiteBalanceOperation
    (fun left right => decide (whiteBalanceRank left ≤ whiteBalanceRank right)) operations

end Order

section Validate

variable {σ ν W : Type} [Numeric ν] (darkroom : Darkroom σ ν W) (state : σ)

/-- `_read_descriptor_float_value`: the current number, or NaN with or without an error. -/
def readDescriptorFloatValue (descriptor : ActionDescriptor ν W) : Except (Option String) ν :=
  match catalogReadCurrentNumber darkroom state descriptor with
  | .value number => if Numeric.isNan number then .error none else .ok number
  | .failed error => .error error

def choiceOptionForValue (descriptor : ActionDescriptor ν W) (requested : Int) : Option DescriptorChoice :=
  descriptor.choices.find? (·.choiceValue = requested)

def numericConflict : String :=
  "white-balance numeric adjustments conflict with active chromatic adaptation; set white balance to camera "
    ++ "reference or as shot to reference, or disable chromatic adaptation, then retry"

def disableConflict : String :=
  "disabling white balance conflicts with active chromatic adaptation; keep white balance enabled or disable "
    ++ "chromatic adaptation, then retry"

def choiceConflict (label : String) : String :=
  "white-balance choice '" ++ label ++ "' conflicts with active chromatic adaptation; use camera reference or "
    ++ "as shot to reference, or disable chromatic adaptation, then retry"

/-- `_validate_white_balance_operation` -/
def validateWhiteBalanceOperation (operation : ChatOperation ν) (descriptor : ActionDescriptor ν W) :
    Except (Option String) Unit :=
  if ¬ "iop/temperature/".toList.isPrefixOf descriptor.actionPath.toList then .ok ()
  else if ¬ darkroom.chromaAdaptation state then .ok ()
  else match operation.kind with
    | some .setFloat => .error (some numericConflict)
    | some .setBool =>
      if operation.hasBoolValue && !operation.boolValue then .error (some disableConflict) else .ok ()
    | some .setChoice =>
      if ¬ operation.hasChoiceValue then .ok ()
      else if operation.choiceValue = 3 ∨ operation.choiceValue = 4 then .ok ()
      else
        let option := choiceOptionForValue descriptor operation.choiceValue
        .error (some (choiceConflict ((option.map (·.label)).getD "unknown")))
    | none => .ok ()

/-- Finding the descriptor, with the error in the form the validators use. -/
def findDescriptor (operation : ChatOperation ν) : Except (Option String) (ActionDescriptor ν W) :=
  (catalogFindDescriptor darkroom state operation.actionPath operation.settingId).mapError some

def validateFloatOperation (operation : ChatOperation ν) : Except (Option String) Unit := do
  let descriptor ← findDescriptor darkroom state operation
  validateWhiteBalanceOperation darkroom state operation descriptor
  let _ ← readDescriptorFloatValue darkroom state descriptor
  match operation.valueMode with
  | none => .error (some "unsupported numeric value mode")
  | some mode =>
    if descriptor.supportsMode (some mode) then .ok ()
    else .error (some ("unsupported value mode for action path: " ++ descriptor.actionPath))

def validateChoiceOperation (operation : ChatOperation ν) : Except (Option String) Unit := do
  let descriptor ← findDescriptor darkroom state operation
  validateWhiteBalanceOperation darkroom state operation descriptor
  if operation.valueMode ≠ some .set ∨ ¬ operation.hasChoiceValue then
    .error (some "unsupported choice value mode")
  else match choiceOptionForValue descriptor operation.choiceValue with
    | none => .error (some ("unsupported choice value for action path: " ++ descriptor.actionPath))
    | some option =>
      if operation.choiceId.any fun choiceId => choiceId != "" && choiceId != option.choiceId then
        .error (some ("choice id mismatch for action path: " ++ descriptor.actionPath))
      else .ok ()

def validateBoolOperation (operation : ChatOperation ν) : Except (Option String) Unit := do
  let descriptor ← findDescriptor darkroom state operation
  validateWhiteBalanceOperation darkroom state operation descriptor
  if operation.valueMode ≠ some .set ∨ ¬ operation.hasBoolValue then .error (some "unsupported bool value mode")
  else .ok ()

/-- `_validate_operation`. `.error none` is a FALSE that set no error. -/
def validateOperation (operation : ChatOperation ν) : Except (Option String) Unit :=
  if operation.status ≠ "planned" then .error (some ("unsupported operation status: " ++ operation.status))
  else if operation.targetType ≠ darktableAction then
    .error (some ("unsupported target type: " ++ operation.targetType))
  else match operation.kind with
    | some .setFloat => validateFloatOperation darkroom state operation
    | some .setChoice => validateChoiceOperation darkroom state operation
    | some .setBool => validateBoolOperation darkroom state operation
    | none => .error (some ("unsupported operation kind: " ++ operation.kindName))

end Validate

section Execute

variable {σ ν W : Type} [Numeric ν] (darkroom : Darkroom σ ν W)

/-- One executed operation: the state behind it, its writes, its result and its error. -/
structure ExecutedOperation (σ ν : Type) where
  state : σ
  writes : List (ControlWrite ν)
  result : ExecutionResult ν
  error : Option String

section Results

variable (state : σ) (operation : ChatOperation ν)

def resultOf (status : ExecutionStatus) (message : String) : ExecutionResult ν :=
  { operationId := operation.operationId, actionPath := operation.actionPath, status, message }

/-- `_execution_result_set_blocked`; an error that is already set stays. -/
def setBlocked (earlier : Option String) (message : String) : ExecutedOperation σ ν :=
  ⟨state, [], resultOf operation .blocked message, earlier.or (some message)⟩

/-- `_execution_result_set_failed` -/
def setFailed (writes : List (ControlWrite ν)) (error : Option String) : ExecutedOperation σ ν :=
  ⟨state, writes, resultOf operation .failed (error.getD "operation failed"), error⟩

def setApplied (writes : List (ControlWrite ν)) (message : String) : ExecutedOperation σ ν :=
  ⟨state, writes, resultOf operation .applied message, none⟩

end Results

variable (state : σ) (operation : ChatOperation ν)

def executeSetFloatOperation : ExecutedOperation σ ν :=
  match catalogFindDescriptor darkroom state operation.actionPath operation.settingId with
  | .error text => setBlocked state operation (some text) ("unsupported action path: " ++ operation.actionPath)
  | .ok descriptor =>
    match readDescriptorFloatValue darkroom state descriptor with
    | .error error => setFailed state operation [] error
    | .ok before =>
      -- a block that follows the reading still reports the value that was read
      let blocked (message : String) : ExecutedOperation σ ν :=
        let executed := setBlocked state operation none message
        { executed with result := { executed.result with valueBefore := some before } }
      match operation.valueMode with
      | none => blocked "unsupported numeric value mode"
      | some mode =>
        if ¬ descriptor.supportsMode (some mode) then
          blocked ("unsupported value mode for action path: " ++ descriptor.actionPath)
        else
          let target := match mode with
            | .delta => Numeric.add before operation.number
            | .set => operation.number
          let written := catalogWriteNumber darkroom state descriptor target
          let executed := match written.result with
            | .error error => setFailed written.state operation written.writes error
            | .ok _ => setApplied written.state operation written.writes "applied"
          { executed with result := { executed.result with
              valueBefore := some before
              valueAfter := written.result.toOption } }

def executeSetChoiceOperation : ExecutedOperation σ ν :=
  match catalogFindDescriptor darkroom state operation.actionPath operation.settingId with
  | .error text => setBlocked state operation (some text) ("unsupported action path: " ++ operation.actionPath)
  | .ok descriptor =>
    if operation.valueMode ≠ some .set ∨ ¬ operation.hasChoiceValue then
      setBlocked state operation none "unsupported choice value mode"
    else
      let written := catalogWriteChoice darkroom state descriptor operation.choiceValue
      match written.result with
      | .error error => setFailed written.state operation written.writes error
      | .ok applied => setApplied written.state operation written.writes ("applied choice " ++ toString applied)

def executeSetBoolOperation : ExecutedOperation σ ν :=
  match catalogFindDescriptor darkroom state operation.actionPath operation.settingId with
  | .error text => setBlocked state operation (some text) ("unsupported action path: " ++ operation.actionPath)
  | .ok descriptor =>
    if operation.valueMode ≠ some .set ∨ ¬ operation.hasBoolValue then
      setBlocked state operation none "unsupported bool value mode"
    else
      let written := catalogWriteBool darkroom state descriptor operation.boolValue
      match written.result with
      | .error error => setFailed written.state operation written.writes error
      | .ok applied => setApplied written.state operation written.writes (if applied then "applied on" else "applied off")

/-- `_execute_operation` -/
def executeOperation : ExecutedOperation σ ν :=
  if operation.status ≠ "planned" then
    setBlocked state operation none ("unsupported operation status: " ++ operation.status)
  else if operation.targetType ≠ darktableAction then
    setBlocked state operation none ("unsupported target type: " ++ operation.targetType)
  else match operation.kind with
    | some .setFloat => executeSetFloatOperation darkroom state operation
    | some .setChoice => executeSetChoiceOperation darkroom state operation
    | some .setBool => executeSetBoolOperation darkroom state operation
    | none => setBlocked state operation none ("unsupported operation kind: " ++ operation.kindName)

def blockedByPrevious (operation : ChatOperation ν) : ExecutionResult ν :=
  resultOf operation .blocked "blocked by a previous operation failure"

/-- The execution loop over validated operations: after the first one that is not applied, the rest is
blocked. -/
def executeAll (state : σ) : List (ChatOperation ν) → Execution σ ν
  | [] => ⟨state, [], .ofResults [], true, none⟩
  | operation :: rest =>
    let executed := executeOperation darkroom state operation
    if executed.result.status = .applied then
      let later := executeAll executed.state rest
      { later with
        writes := executed.writes ++ later.writes
        report := .ofResults (executed.result :: later.report.results) }
    else ⟨executed.state, executed.writes, .ofResults (executed.result :: rest.map blockedByPrevious), false,
      executed.error⟩

/-- The first rejected operation: those before it, the operation, its error, and those behind it. -/
structure Rejection (ν : Type) where
  before : List (ChatOperation ν)
  operation : ChatOperation ν
  error : Option String
  behind : List (ChatOperation ν)

/-- The validation loop. -/
def firstRejection : List (ChatOperation ν) → Option (Rejection ν)
  | [] => none
  | operation :: rest =>
    match validateOperation darkroom state operation with
    | .error error => some ⟨[], operation, error, rest⟩
    | .ok () => (firstRejection rest).map fun rejection =>
        { rejection with before := operation :: rejection.before }

/-- The report when the validation set an error. -/
def blockedReport (rejection : Rejection ν) (text : String) : ExecutionReport ν :=
  .ofResults (rejection.before.map (resultOf · .blocked "blocked by batch validation failure")
    ++ resultOf rejection.operation .blocked text :: rejection.behind.map blockedByPrevious)

/-- `dt_agent_execute_response`. The batch is stopped by the validation error, not by the index of the
rejected operation. -/
def executeResponse (operations : List (ChatOperation ν)) : Execution σ ν :=
  if ¬ darkroom.isCurrentView state then
    ⟨state, [], .ofResults [], false, some "agent edits require darkroom view"⟩
  else
    let ordered := orderedOperationsForExecution operations
    match firstRejection darkroom state ordered with
    | some ⟨before, operation, some text, behind⟩ =>
      ⟨state, [], blockedReport ⟨before, operation, some text, behind⟩ text, false, some text⟩
    -- a rejection without an error does not stop the batch
    | some ⟨_, _, none, _⟩ | none => executeAll darkroom state ordered

end Execute

end DarktableAgent.Client
