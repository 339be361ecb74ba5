import DarktableAgent.Server.CanonicalBinder
import DarktableAgent.Server.Schema

/-! The turn context, and how the arguments of `apply_operations` become a batch.

A batch is checked against the schema and bound to known settings before anything
is applied. Preparing it reads the context and changes nothing.
-/

set_option autoImplicit false

namespace DarktableAgent.Server

open Foundation Protocol

abbrev Bytes := List UInt8

structure VerifierResult where
  status : String
  summary : String
  feedbackText : String

structure Playbook where
  title : String
  document : String

/-- What the tools take from elsewhere: the schema library, lower-casing, number formats, base64 and
JSON texts, the playbook files, the image metrics behind the verifier, and the two limits that the
environment may set. -/
structure ToolLibrary where
  schema : SchemaLibrary
  lower : String → String
  fixed3 : ℚ → String
  signed3 : ℚ → String
  dataUrl : Bytes → String → String
  verify : Bytes → Bytes → List OperationDict → VerifierResult
  loadPlaybook : String → Except String Playbook
  stateText : String → SettingMap → String
  maxToolCallsWithoutApply : Int
  maxConsecutiveReadOnlyToolCalls : Int

/-- `TurnContext`. The settings are the ones of the state payload, and `imageRevisionId` is the
revision id in there; `baseRequest` and the base previews never change. -/
structure TurnContext where
  baseRequest : RequestEnvelope
  previewDataUrl : String
  basePreviewBytes : Bytes
  currentPreviewBytes : Bytes
  previewMimeType : String
  baseImageRevisionId : String
  imageRevisionId : String
  settingById : SettingMap
  liveRunEnabled : Bool
  maxToolCalls : Nat
  toolCallsUsed : Nat := 0
  consecutiveReadOnlyToolCalls : Nat := 0
  appliedOperations : List OperationDict := []
  nextOperationSequence : Nat := 1
  renderedPreviewBytes : Option Bytes := none
  requiresRenderCallback : Bool := false
  lastAppliedBatch : List OperationDict := []
  lastAppliedSummary : Option String := none
  lastVerifierStatus : Option String := none
  lastVerifierSummary : Option String := none

/-- `_effective_tool_budget` -/
def effectiveToolBudget (request : RequestEnvelope) : Nat :=
  if request.refinement.enabled then max (request.refinement.maxPasses * 3).toNat 15 else 1

/-- The context `_register_turn_context` creates, for the decoded preview of the request. -/
def registerTurnContext (request : RequestEnvelope) (previewDataUrl previewMimeType : String)
    (previewBytes : Bytes) : TurnContext where
  baseRequest := request
  previewDataUrl := previewDataUrl
  basePreviewBytes := previewBytes
  currentPreviewBytes := previewBytes
  previewMimeType := previewMimeType
  baseImageRevisionId := request.imageSnapshot.imageRevisionId
  imageRevisionId := request.imageSnapshot.imageRevisionId
  settingById := settingById request
  liveRunEnabled := request.refinement.enabled
  maxToolCalls := effectiveToolBudget request

structure PreparedApplyBatch where
  normalizedBatch : List OperationDict
  renderWarnings : List String

/-- `_setting_ids_for_action_path` -/
def settingIdsForActionPath (settings : SettingMap) (actionPath : String) : List String :=
  (settings.entries.filter (·.2.actionPath = actionPath)).map (·.1)

/-- The operation with the settingId that its path stands for. -/
def retarget (operation : PlannedOperationDraft) (settingId : String) (present : settingId ≠ "") :
    PlannedOperationDraft :=
  { operation with target := { operation.target with settingId := settingId, settingIdPresent := present } }

section Prepare

variable (library : ToolLibrary) (context : TurnContext)

def unknownSetting {α : Type} (settingId : String) : Except String α :=
  .error ("operation targets unknown settingId '" ++ settingId ++ "'")

/-- An unknown settingId is replaced when the action path belongs to exactly one setting. -/
def resolveSettingId (operation : PlannedOperationDraft) : Except String PlannedOperationDraft :=
  if (context.settingById.get? operation.target.settingId).isSome then .ok operation
  else match settingIdsForActionPath context.settingById operation.target.actionPath with
    | [settingId] =>
      -- the ids of reported settings are never empty
      if present : settingId ≠ "" then .ok (retarget operation settingId present)
      else unknownSetting operation.target.settingId
    | _ => unknownSetting operation.target.settingId

/-- The candidate object that is validated: a missing id is numbered, the sequence is always set. -/
def operationCandidate (raw : JsonObject) (sequenceNumber : Nat) : Json :=
  let operationId := match raw.lookup "operationId" with
    | some (.str text) => if text ≠ "" then text else "tool-op-" ++ toString sequenceNumber
    | _ => "tool-op-" ++ toString sequenceNumber
  .obj [("operationId", .str operationId), ("sequence", .int sequenceNumber),
    ("kind", (raw.lookup "kind").getD .null), ("target", (raw.lookup "target").getD .null),
    ("value", (raw.lookup "value").getD .null), ("reason", (raw.lookup "reason").getD .null),
    ("constraints", (raw.lookup "constraints").getD constraintsJson)]

/-- `_normalize_tool_operation` -/
def normalizeToolOperation (raw : JsonObject) (sequenceNumber : Nat) : Except String OperationDict :=
  match ["kind", "target", "value"].find? fun key => (raw.lookup key).isNone with
  | some key => .error ("operation is missing required member '" ++ key ++ "'")
  | none =>
    let candidate := operationCandidate raw sequenceNumber
    match validateOperationDraft library.schema candidate with
    | none => .error ("operation failed schema validation: " ++ library.schema.explain candidate)
    | some operation => (resolveSettingId context operation).map fun resolved => ⟨resolved, false⟩

def prepareRawBatch (sequenceNumber : Nat) : List Json → Except String (List OperationDict)
  | [] => .ok []
  | .obj raw :: rest => do
    let operation ← normalizeToolOperation library context raw sequenceNumber
    let operations ← prepareRawBatch (sequenceNumber + 1) rest
    return operation :: operations
  | _ :: _ => .error "Every apply_operations entry must be an object."

def validateCanonicalActions : List Json → Except String (List CanonicalEditAction)
  | [] => .ok []
  | raw :: rest =>
    match validateCanonicalAction library.schema raw with
    | none => .error ("canonicalActions entry failed schema validation: " ++ library.schema.explain raw)
    | some action => (validateCanonicalActions rest).map (action :: ·)

def prepareCanonicalBatch (rawActions : List Json) : Except String PreparedApplyBatch := do
  let actions ← validateCanonicalActions library rawActions
  let bound := bindCanonicalActions library.lower context.baseRequest.imageSnapshot.editableSettings actions
  let notes := String.intercalate "; " bound.failures
  if bound.failures ≠ [] ∧ bound.operations = [] then .error notes
  else if bound.operations = [] then
    .error "apply_operations could not bind any supported operations from canonicalActions."
  else return ⟨bound.operations, if bound.failures ≠ [] then ["Binding notes: " ++ notes] else []⟩

/-- A list argument; a missing one and a null are an empty list. -/
def listArgument (arguments : JsonObject) (member : String) : Except String (List Json) :=
  match arguments.lookup member with
  | none | some .null => .ok []
  | some (.arr items) => .ok items
  | some _ => .error ("apply_operations " ++ member ++ " must be an array.")

/-- `prepare_apply_batch` -/
def prepareApplyBatch (arguments : JsonObject) : Except String PreparedApplyBatch := do
  let rawOperations ← listArgument arguments "operations"
  let rawCanonicalActions ← listArgument arguments "canonicalActions"
  if rawOperations = [] ∧ rawCanonicalActions = [] then
    .error "apply_operations requires operations and/or canonicalActions."
  else if rawOperations ≠ [] ∧ rawCanonicalActions ≠ [] then
    .error "apply_operations accepts raw operations or canonicalActions, not both in the same call."
  else if rawCanonicalActions ≠ [] then prepareCanonicalBatch library context rawCanonicalActions
  else return ⟨← prepareRawBatch library context context.nextOperationSequence rawOperations, []⟩

end Prepare

end DarktableAgent.Server
