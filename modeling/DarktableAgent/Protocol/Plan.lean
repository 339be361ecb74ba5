import Mathlib.Data.Rat.Defs
import Mathlib.Data.List.Nodup
import DarktableAgent.Foundation.Json
import DarktableAgent.Protocol.CanonicalPlan

/-! Planned operations and agent plans.

The validators of the schema are the proof fields of the structures, so a value
of one of these types is a value that the server accepted.
-/

set_option autoImplicit false

namespace DarktableAgent.Protocol

open Foundation

inductive OperationKind where
  | setFloat
  | setChoice
  | setBool
  deriving DecidableEq, Repr

def OperationKind.name : OperationKind → String
  | .setFloat => "set-float"
  | .setChoice => "set-choice"
  | .setBool => "set-bool"

inductive OperationMode where
  | delta
  | set
  deriving DecidableEq, Repr

def OperationMode.name : OperationMode → String
  | .delta => "delta"
  | .set => "set"

/-- The only target type of the protocol. -/
def darktableAction : String := "darktable-action"

/-- The part of an action path behind its last slash. -/
def pathLeaf (actionPath : String) : String :=
  String.ofList (actionPath.toList.reverse.takeWhile (· ≠ '/')).reverse

/-- A text that was read with `min_length=1`. -/
theorem text_present (text : { text : String // text ≠ "" }) : text.1 ≠ "" := text.2

theorem one_positive : (1 : Int) ≤ 1 := le_refl 1

theorem two_positive : (1 : Int) ≤ 2 := by decide

structure OperationTarget where
  actionPath : String
  settingId : String
  actionPathPresent : actionPath ≠ ""
  settingIdPresent : settingId ≠ ""
  deriving DecidableEq

structure OperationValue where
  mode : OperationMode
  number : Option ℚ := none
  choiceValue : Option Int := none
  choiceId : Option String := none
  boolValue : Option Bool := none
  deriving DecidableEq, Repr

/-- `validate_kind_and_value` -/
def validateKindAndValue (kind : OperationKind) (value : OperationValue) : Except String Unit :=
  match kind with
  | .setFloat =>
    if value.number.isNone then .error "set-float operation requires value.number"
    else if value.choiceValue.isSome ∨ value.boolValue.isSome then
      .error "set-float operation must not define choice/bool values"
    else .ok ()
  | .setChoice =>
    if value.mode ≠ .set then .error "set-choice operation must use mode \"set\""
    else if value.choiceValue.isNone then .error "set-choice operation requires value.choiceValue"
    else if value.number.isSome ∨ value.boolValue.isSome then
      .error "set-choice operation must not define number/bool values"
    else .ok ()
  | .setBool =>
    if value.mode ≠ .set then .error "set-bool operation must use mode \"set\""
    else if value.boolValue.isNone then .error "set-bool operation requires value.boolValue"
    else if value.number.isSome ∨ value.choiceValue.isSome then
      .error "set-bool operation must not define number/choice values"
    else .ok ()

/-- `PlannedOperationDraft`. Its constraints have a single legal value and are written on output. -/
structure PlannedOperationDraft where
  operationId : String
  sequence : Int
  kind : OperationKind
  target : OperationTarget
  value : OperationValue
  reason : Option String
  operationIdPresent : operationId ≠ ""
  sequencePositive : 1 ≤ sequence
  valid : validateKindAndValue kind value = .ok ()
  deriving DecidableEq

/-- The value members an accepted operation carries, by kind. -/
inductive ValueShape : OperationKind → OperationValue → Prop where
  | float (mode : OperationMode) (number : ℚ) (choiceId : Option String) :
      ValueShape .setFloat { mode, number := some number, choiceId }
  | choice (choiceValue : Int) (choiceId : Option String) :
      ValueShape .setChoice { mode := .set, choiceValue := some choiceValue, choiceId }
  | bool (boolValue : Bool) (choiceId : Option String) :
      ValueShape .setBool { mode := .set, boolValue := some boolValue, choiceId }

/-- The validator accepts exactly the three shapes. A stray choice id is tolerated by all of them. -/
theorem validateKindAndValue_float (mode : OperationMode) (number : ℚ) :
    validateKindAndValue .setFloat { mode, number := some number } = .ok () := rfl

theorem validateKindAndValue_ok {kind : OperationKind} {value : OperationValue} :
    validateKindAndValue kind value = .ok () ↔ ValueShape kind value := by
  constructor
  · intro accepted
    obtain ⟨mode, number, choiceValue, choiceId, boolValue⟩ := value
    cases kind with
    | setFloat =>
      cases number <;> cases choiceValue <;> cases boolValue <;>
        simp [validateKindAndValue] at accepted
      exact .float mode _ choiceId
    | setChoice =>
      cases mode <;> cases number <;> cases choiceValue <;> cases boolValue <;>
        simp [validateKindAndValue] at accepted
      exact .choice _ choiceId
    | setBool =>
      cases mode <;> cases number <;> cases choiceValue <;> cases boolValue <;>
        simp [validateKindAndValue] at accepted
      exact .bool _ choiceId
  · intro shape
    cases shape <;> rfl

theorem PlannedOperationDraft.shape (operation : PlannedOperationDraft) :
    ValueShape operation.kind operation.value :=
  validateKindAndValue_ok.mp operation.valid

/-- A choice or bool operation is absolute. -/
theorem ValueShape.mode_set {kind : OperationKind} {value : OperationValue} (shape : ValueShape kind value)
    (discrete : kind ≠ .setFloat) : value.mode = .set := by
  cases shape with
  | float => exact absurd rfl discrete
  | choice => rfl
  | bool => rfl

namespace PlannedOperationDraft

variable {operation : PlannedOperationDraft}

theorem number_of_float (float : operation.kind = .setFloat) :
    ∃ number, operation.value.number = some number := by
  have shape := float ▸ operation.shape
  generalize operation.value = value at shape
  cases shape
  exact ⟨_, rfl⟩

theorem choiceValue_of_choice (choice : operation.kind = .setChoice) :
    ∃ choiceValue, operation.value.choiceValue = some choiceValue := by
  have shape := choice ▸ operation.shape
  generalize operation.value = value at shape
  cases shape
  exact ⟨_, rfl⟩

theorem boolValue_of_bool (bool : operation.kind = .setBool) :
    ∃ boolValue, operation.value.boolValue = some boolValue := by
  have shape := bool ▸ operation.shape
  generalize operation.value = value at shape
  cases shape
  exact ⟨_, rfl⟩

end PlannedOperationDraft

/-- `AgentPlan`: what the planner returns, or what the bridge makes of it. -/
structure AgentPlan where
  assistantText : String
  continueRefining : Bool
  operations : List PlannedOperationDraft
  canonicalActions : Option (List CanonicalEditAction)
  assistantTextPresent : assistantText ≠ ""
  operationIdsUnique : (operations.map (·.operationId)).Nodup
  sequencesUnique : (operations.map (·.sequence)).Nodup
  deriving DecidableEq

/-- An operation as a JSON object inside the server. The binder writes only the value members of
the operation's kind; a dumped model carries every member, absent ones as null. -/
structure OperationDict where
  operation : PlannedOperationDraft
  bound : Bool
  deriving DecidableEq

namespace OperationDict

variable (dict : OperationDict)

def kind : OperationKind := dict.operation.kind
def actionPath : String := dict.operation.target.actionPath
def settingId : String := dict.operation.target.settingId
def value : OperationValue := dict.operation.value

end OperationDict

def optionalJson {α : Type} (toJson : α → Json) : Option α → Json
  | none => .null
  | some value => toJson value

/-- The members of `OperationValue.model_dump(mode="json")`. -/
def OperationValue.members (value : OperationValue) : List (String × Json) :=
  [("mode", .str value.mode.name), ("number", optionalJson .real value.number),
    ("choiceValue", optionalJson .int value.choiceValue), ("choiceId", optionalJson .str value.choiceId),
    ("boolValue", optionalJson .bool value.boolValue)]

/-- The value object as `_float_operation` and `_choice_operation` write it. -/
def OperationValue.boundMembers (kind : OperationKind) (value : OperationValue) : List (String × Json) :=
  match kind with
  | .setFloat => [("mode", .str value.mode.name), ("number", optionalJson .real value.number)]
  | .setChoice => [("mode", .str value.mode.name), ("choiceValue", optionalJson .int value.choiceValue),
      ("choiceId", optionalJson .str value.choiceId)]
  | .setBool => [("mode", .str value.mode.name), ("boolValue", optionalJson .bool value.boolValue)]

def OperationTarget.modelDump (target : OperationTarget) : Json :=
  .obj [("type", .str darktableAction), ("actionPath", .str target.actionPath),
    ("settingId", .str target.settingId)]

def constraintsJson : Json := .obj [("onOutOfRange", .str "clamp"), ("onRevisionMismatch", .str "fail")]

def PlannedOperationDraft.members (operation : PlannedOperationDraft) (value : List (String × Json)) :
    List (String × Json) :=
  [("operationId", .str operation.operationId), ("sequence", .int operation.sequence),
    ("kind", .str operation.kind.name), ("target", operation.target.modelDump), ("value", .obj value),
    ("reason", optionalJson .str operation.reason), ("constraints", constraintsJson)]

def PlannedOperationDraft.modelDump (operation : PlannedOperationDraft) : Json :=
  .obj (operation.members operation.value.members)

def OperationDict.json (dict : OperationDict) : Json :=
  .obj (dict.operation.members
    (if dict.bound then dict.value.boundMembers dict.kind else dict.value.members))

end DarktableAgent.Protocol
