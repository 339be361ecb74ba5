import Mathlib.Data.List.TakeWhile
import DarktableAgent.Foundation.Dict
import DarktableAgent.Protocol.Parse

/-! Producer and consumer of chat results agree on the format.

Both sides are compared member by member: a parsed operation or response agrees
with the one it was dumped from.
-/

set_option autoImplicit false

namespace DarktableAgent.Protocol

open Foundation

def NulFree (text : String) : Prop := '\x00' ∉ text.toList

theorem cString_of_nulFree {text : String} (plain : NulFree text) : cString text = text := by
  have kept : text.toList.takeWhile (· ≠ '\x00') = text.toList := by
    rw [List.takeWhile_eq_self_iff]
    intro char member
    have other : char ≠ '\x00' := fun same => plain (same ▸ member)
    simpa using other
  rw [cString, kept, String.ofList_toList]

theorem toGuint_of_fits (value : Int) (positive : 0 ≤ value) (fits : value < 2 ^ 32) :
    (toGuint value : Int) = value := by
  rw [toGuint, Int.emod_eq_of_lt positive fits, Int.toNat_of_nonneg positive]

theorem toGint_of_fits {value : Int} (lower : -2 ^ 31 ≤ value) (upper : value < 2 ^ 31) :
    toGint value = value := by
  rw [toGint]
  exact Int.bmod_eq_of_le (by omega) (by omega)

section Members

variable (object : JsonObject) (member : String)

theorem requireMember_found {node : Json} (found : object.lookup member = some node) :
    requireMember object member = .ok node := by
  rw [requireMember, found]

theorem requireStringMember_found (value : String) (found : object.lookup member = some (.str value))
    (plain : NulFree value) (present : value ≠ "") : requireStringMember object member = .ok value := by
  rw [requireStringMember, requireMember_found object member found]
  simp [bind, Except.bind, cString_of_nulFree plain, present]

theorem requireNumberMember_found {value : ℚ} (found : object.lookup member = some (.real value)) :
    requireNumberMember object member = .ok value := by
  rw [requireNumberMember, requireMember_found object member found]
  rfl

theorem requireUintMember_found {value : Int} (found : object.lookup member = some (.int value))
    (positive : 0 ≤ value) : requireUintMember object member = .ok (toGuint value) := by
  rw [requireUintMember, requireMember_found object member found]
  simp [bind, Except.bind, Int.not_lt.mpr positive]

theorem requireBooleanMember_found {value : Bool} (found : object.lookup member = some (.bool value)) :
    requireBooleanMember object member = .ok value := by
  rw [requireBooleanMember, requireMember_found object member found]
  rfl

theorem requireObjectMember_found {members : JsonObject} (found : object.lookup member = some (.obj members)) :
    requireObjectMember object member = .ok members := by
  rw [requireObjectMember, requireMember_found object member found]
  rfl

theorem parseOptionalStringMember_found {value : String} (found : object.lookup member = some (.str value))
    (plain : NulFree value) : parseOptionalStringMember object member = .ok (some value) := by
  rw [parseOptionalStringMember, found]
  simp [cString_of_nulFree plain]

end Members

theorem operationKindFromString_name (kind : OperationKind) : operationKindFromString kind.name = some kind := by
  cases kind <;> decide

theorem valueModeFromString_name (mode : OperationMode) : valueModeFromString mode.name = some mode := by
  cases mode <;> decide

theorem refinementModeFromString_name (mode : RefinementMode) :
    refinementModeFromString mode.name = some mode := by
  cases mode <;> decide

theorem OperationKind.name_plain (kind : OperationKind) : NulFree kind.name ∧ kind.name ≠ "" := by
  cases kind <;> exact ⟨by unfold NulFree; decide, by decide⟩

theorem OperationMode.name_plain (mode : OperationMode) : NulFree mode.name ∧ mode.name ≠ "" := by
  cases mode <;> exact ⟨by unfold NulFree; decide, by decide⟩

theorem RefinementMode.name_plain (mode : RefinementMode) : NulFree mode.name ∧ mode.name ≠ "" := by
  cases mode <;> exact ⟨by unfold NulFree; decide, by decide⟩

theorem StopReason.name_plain (reason : StopReason) : NulFree reason.name := by
  cases reason <;> unfold NulFree <;> decide

/-- The operation carries no NUL in a text the client keeps, and its integers fit the C types. -/
structure OperationFits (operation : PlannedOperationDraft) : Prop where
  texts : ∀ text ∈ [operation.operationId, operation.target.actionPath, operation.target.settingId],
    NulFree text
  choiceId : ∀ choiceId, operation.value.choiceId = some choiceId → NulFree choiceId
  choiceValue : ∀ value, operation.value.choiceValue = some value → -2 ^ 31 ≤ value ∧ value < 2 ^ 31
  sequence : operation.sequence < 2 ^ 31

/-- Kind, target, mode and the value member of the kind are the same on both sides. -/
structure OperationAgrees (planned : PlannedOperationDraft) (parsed : ChatOperation ℚ) : Prop where
  operationId : parsed.operationId = planned.operationId
  sequence : parsed.sequence = planned.sequence
  kind : parsed.kind = some planned.kind
  targetType : parsed.targetType = darktableAction
  actionPath : parsed.actionPath = planned.target.actionPath
  settingId : parsed.settingId = planned.target.settingId
  mode : parsed.valueMode = some planned.value.mode
  number : planned.kind = .setFloat → planned.value.number = some parsed.number
  choice : planned.kind = .setChoice → parsed.hasChoiceValue = true ∧
    planned.value.choiceValue = some parsed.choiceValue ∧
    parsed.choiceId = planned.value.choiceId.filter (· ≠ "")
  bool : planned.kind = .setBool → parsed.hasBoolValue = true ∧
    planned.value.boolValue = some parsed.boolValue

/-- What a value object must answer when the members of the operation's kind are looked up. -/
structure ValueReads (operation : PlannedOperationDraft) (object : JsonObject) : Prop where
  mode : object.lookup "mode" = some (.str operation.value.mode.name)
  number : operation.kind = .setFloat →
    object.lookup "number" = some (optionalJson .real operation.value.number)
  choiceValue : operation.kind = .setChoice →
    object.lookup "choiceValue" = some (optionalJson .int operation.value.choiceValue)
  choiceId : operation.kind = .setChoice →
    object.lookup "choiceId" = some (optionalJson .str operation.value.choiceId)
  boolValue : operation.kind = .setBool →
    object.lookup "boolValue" = some (optionalJson .bool operation.value.boolValue)

theorem valueReads_members (operation : PlannedOperationDraft) :
    ValueReads operation operation.value.members :=
  ⟨rfl, fun _ => rfl, fun _ => rfl, fun _ => rfl, fun _ => rfl⟩

theorem valueReads_boundMembers (operation : PlannedOperationDraft) :
    ValueReads operation (operation.value.boundMembers operation.kind) := by
  cases kind : operation.kind with
  | setFloat => exact ⟨rfl, fun _ => rfl, by simp [kind], by simp [kind], by simp [kind]⟩
  | setChoice => exact ⟨rfl, by simp [kind], fun _ => rfl, fun _ => rfl, by simp [kind]⟩
  | setBool => exact ⟨rfl, by simp [kind], by simp [kind], by simp [kind], fun _ => rfl⟩

section Operation

variable {operation : PlannedOperationDraft}

/-- What `_parse_operation` has filled in before it turns to the value of the kind. -/
def parsedHead (operation : PlannedOperationDraft) : ChatOperation ℚ where
  operationId := operation.operationId
  sequence := toGint operation.sequence
  kind := some operation.kind
  kindName := operation.kind.name
  status := "planned"
  targetType := darktableAction
  actionPath := operation.target.actionPath
  settingId := operation.target.settingId
  valueMode := some operation.value.mode
  number := 0
  hasChoiceValue := false
  choiceValue := 0
  choiceId := none
  hasBoolValue := false
  boolValue := false

theorem parseTarget_modelDump (fits : OperationFits operation) :
    parseTarget [("type", .str darktableAction), ("actionPath", .str operation.target.actionPath),
        ("settingId", .str operation.target.settingId)] =
      .ok (darktableAction, operation.target.actionPath, operation.target.settingId) := by
  rw [parseTarget,
    requireStringMember_found _ _ darktableAction rfl (by unfold NulFree; decide) (by decide),
    requireStringMember_found _ _ operation.target.actionPath rfl (fits.texts _ (by simp))
      operation.target.actionPathPresent,
    requireStringMember_found _ _ operation.target.settingId rfl (fits.texts _ (by simp))
      operation.target.settingIdPresent]
  rfl

/-- Everything around the value is read back; the value is left to `parseValue`. -/
theorem parseOperation_members (fits : OperationFits operation) {value : JsonObject}
    (reads : ValueReads operation value) :
    parseOperation (operation.members value) = parseValue (some operation.kind) value (parsedHead operation) := by
  have kindText := operation.kind.name_plain
  have modeText := operation.value.mode.name_plain
  rw [parseOperation,
    requireStringMember_found _ _ operation.operationId rfl (fits.texts _ (by simp))
      operation.operationIdPresent,
    requireStringMember_found _ _ operation.kind.name rfl kindText.1 kindText.2]
  have target : (operation.members value).lookup "target" = some (.obj [("type", .str darktableAction),
    ("actionPath", .str operation.target.actionPath), ("settingId", .str operation.target.settingId)]) := rfl
  have valueNode : (operation.members value).lookup "value" = some (.obj value) := rfl
  have sequence : (operation.members value).lookup "sequence" = some (.int operation.sequence) := rfl
  simp only [bind, Except.bind, operationKindFromString_name, target, valueNode, sequence,
    parseTarget_modelDump fits, requireStringMember_found _ _ _ reads.mode modeText.1 modeText.2,
    valueModeFromString_name]
  rfl

/-- The operation as the client holds it once it is read exactly. -/
def clientOperation (operation : PlannedOperationDraft) : ChatOperation ℚ :=
  let head := { parsedHead operation with sequence := operation.sequence }
  let value := operation.value
  match operation.kind with
  | .setFloat => { head with number := value.number.getD 0 }
  | .setChoice => { head with
      hasChoiceValue := true
      choiceValue := value.choiceValue.getD 0
      choiceId := value.choiceId.filter (· ≠ "") }
  | .setBool => { head with hasBoolValue := true, boolValue := value.boolValue.getD false }

theorem clientOperation_agrees (operation : PlannedOperationDraft) :
    OperationAgrees operation (clientOperation operation) := by
  unfold clientOperation
  cases kind : operation.kind with
  | setFloat =>
    obtain ⟨number, carried⟩ := operation.number_of_float kind
    exact ⟨rfl, rfl, rfl, rfl, rfl, rfl, rfl, fun _ => by simp [carried], by simp [kind], by simp [kind]⟩
  | setChoice =>
    obtain ⟨choiceValue, carried⟩ := operation.choiceValue_of_choice kind
    exact ⟨rfl, rfl, rfl, rfl, rfl, rfl, rfl, by simp [kind], fun _ => ⟨rfl, by simp [carried], rfl⟩,
      by simp [kind]⟩
  | setBool =>
    obtain ⟨boolValue, carried⟩ := operation.boolValue_of_bool kind
    exact ⟨rfl, rfl, rfl, rfl, rfl, rfl, rfl, by simp [kind], by simp [kind], fun _ => ⟨rfl, by simp [carried]⟩⟩

theorem parseValue_clientOperation (fits : OperationFits operation) {value : JsonObject}
    (reads : ValueReads operation value) :
    parseValue (some operation.kind) value (parsedHead operation) = .ok (clientOperation operation) := by
  have sequence : toGint operation.sequence = operation.sequence :=
    toGint_of_fits (by have := operation.sequencePositive; omega) fits.sequence
  have head : { parsedHead operation with sequence := operation.sequence } = parsedHead operation := by
    rw [parsedHead, sequence]
  unfold parseValue clientOperation
  rw [head]
  cases kind : operation.kind with
  | setFloat =>
    obtain ⟨number, carried⟩ := operation.number_of_float kind
    have found := reads.number kind
    rw [carried] at found
    simp only [requireNumberMember_found _ _ found, carried]
    rfl
  | setChoice =>
    obtain ⟨choiceValue, carried⟩ := operation.choiceValue_of_choice kind
    have found := reads.choiceValue kind
    rw [carried] at found
    obtain ⟨lower, upper⟩ := fits.choiceValue choiceValue carried
    simp only [found, optionalJson, toGint_of_fits lower upper, reads.choiceId kind, carried]
    -- an absent id is written as null, an empty one is dropped by the parser
    cases id : operation.value.choiceId with
    | none => rfl
    | some choiceId =>
      simp only [cString_of_nulFree (fits.choiceId choiceId id), Option.filter]
      by_cases empty : choiceId = "" <;> simp [empty]
  | setBool =>
    obtain ⟨boolValue, carried⟩ := operation.boolValue_of_bool kind
    have found := reads.boolValue kind
    rw [carried] at found
    simp only [found, optionalJson, carried]
    rfl

end Operation

/-- A list of operation objects, each with a value object of either style, is read back in order. -/
theorem parseOperations_clientOperation (index : Nat) (operations : List (PlannedOperationDraft × JsonObject))
    (fits : ∀ entry ∈ operations, OperationFits entry.1)
    (reads : ∀ entry ∈ operations, ValueReads entry.1 entry.2) :
    parseOperations index (operations.map fun (operation, value) => .obj (operation.members value)) =
      .ok ((operations.map (·.1)).map clientOperation) := by
  induction operations generalizing index with
  | nil => rfl
  | cons entry rest ih =>
    have first : parseOperation (entry.1.members entry.2) = .ok (clientOperation entry.1) := by
      rw [parseOperation_members (fits entry (by simp)) (reads entry (by simp))]
      exact parseValue_clientOperation (fits entry (by simp)) (reads entry (by simp))
    have others := ih (index + 1) (fun other member => fits other (by simp [member]))
      fun other member => reads other (by simp [member])
    simp only [List.map_cons, parseOperations, first, others]
    rfl

theorem clientOperations_agree (operations : List PlannedOperationDraft) :
    List.Forall₂ OperationAgrees operations (operations.map clientOperation) := by
  induction operations with
  | nil => exact .nil
  | cons operation rest ih => exact .cons (clientOperation_agrees operation) ih

/-- A refinement status reads back as it was written, wherever it stands. -/
theorem parseRefinement_found {object : JsonObject} {refinement : RefinementStatus}
    (found : object.lookup "refinement" = some (.obj refinement.members))
    (ordered : refinement.passIndex ≤ refinement.maxPasses) (fits : refinement.maxPasses < 2 ^ 32) :
    parseRefinement object "refinement" true = .ok {
      mode := some refinement.mode
      enabled := refinement.enabled
      passIndex := toGuint refinement.passIndex
      maxPasses := toGuint refinement.maxPasses
      continueRefining := refinement.continueRefining
      stopReason := some refinement.stopReason.name } := by
  have modeText := refinement.mode.name_plain
  have passIndexPositive := refinement.passIndexPositive
  have maxPassesPositive := refinement.maxPassesPositive
  have passIndex := toGuint_of_fits refinement.passIndex (by omega) (by omega)
  have maxPasses := toGuint_of_fits refinement.maxPasses (by omega) fits
  have inRange : ¬ (toGuint refinement.passIndex = 0 ∨ toGuint refinement.maxPasses = 0 ∨
      toGuint refinement.maxPasses < toGuint refinement.passIndex) := by omega
  have members : requireObjectMember object "refinement" = .ok refinement.members :=
    requireObjectMember_found _ _ found
  have modeRead := requireStringMember_found refinement.members "mode" _ rfl modeText.1 modeText.2
  have enabledRead := requireBooleanMember_found refinement.members "enabled" rfl
  have passIndexRead := requireUintMember_found refinement.members "passIndex" rfl (by omega)
  have maxPassesRead := requireUintMember_found refinement.members "maxPasses" rfl (by omega)
  have continueRead := requireBooleanMember_found refinement.members "continueRefining" rfl
  have reasonRead := parseOptionalStringMember_found refinement.members "stopReason" rfl refinement.stopReason.name_plain
  simp only [parseRefinement, members, modeRead, enabledRead, passIndexRead, maxPassesRead, continueRead,
    reasonRead, refinementModeFromString_name, inRange, bind, Except.bind, pure, Except.pure, if_true, if_false,
    Option.isNone_some, Bool.false_eq_true]

/-- The texts and numbers of an ok response, whichever program wrote the document. -/
structure OkDocument where
  requestId : String
  session : ResponseSession
  messageText : String
  refinement : RefinementStatus
  planId : String
  baseImageRevisionId : String
  operations : List Json
  operationResults : List Json

namespace OkDocument

variable (document : OkDocument)

def members : JsonObject :=
  [("schemaVersion", .str schemaVersion), ("requestId", .str document.requestId),
    ("session", .obj document.session.members), ("status", .str "ok"),
    ("assistantMessage", .obj [("role", .str "assistant"), ("text", .str document.messageText)]),
    ("refinement", .obj document.refinement.members),
    ("plan", .obj [("planId", .str document.planId), ("baseImageRevisionId", .str document.baseImageRevisionId),
      ("operations", .arr document.operations)]),
    ("operationResults", .arr document.operationResults), ("error", .null)]

structure Readable : Prop where
  texts : ∀ text ∈ [document.requestId, document.session.appSessionId, document.session.imageSessionId,
    document.session.conversationId, document.session.turnId, document.messageText, document.planId,
    document.baseImageRevisionId], NulFree text ∧ text ≠ ""
  ordered : document.refinement.passIndex ≤ document.refinement.maxPasses
  fits : document.refinement.maxPasses < 2 ^ 32

/-- The response the parser fills in from the document. -/
def response (operations : List (ChatOperation ℚ)) : ChatResponse ℚ where
  schemaVersion := schemaVersion
  requestId := document.requestId
  appSessionId := document.session.appSessionId
  imageSessionId := document.session.imageSessionId
  conversationId := document.session.conversationId
  turnId := document.session.turnId
  planId := some document.planId
  baseImageRevisionId := some document.baseImageRevisionId
  status := "ok"
  messageRole := "assistant"
  messageText := document.messageText
  operations := operations
  refinementMode := some document.refinement.mode
  refinementEnabled := document.refinement.enabled
  refinementPassIndex := toGuint document.refinement.passIndex
  refinementMaxPasses := toGuint document.refinement.maxPasses
  refinementContinue := document.refinement.continueRefining
  refinementStopReason := some document.refinement.stopReason.name
  errorCode := none
  errorMessage := none

variable {document}

theorem parseSession_members (readable : document.Readable) :
    parseSession document.members = .ok (document.session.appSessionId, document.session.imageSessionId,
      document.session.conversationId, document.session.turnId) := by
  have text (value : String) (member : value ∈ [document.session.appSessionId,
      document.session.imageSessionId, document.session.conversationId, document.session.turnId]) :=
    readable.texts value (by simp only [List.mem_cons] at member ⊢; tauto)
  have read (member value : String) (found : document.session.members.lookup member = some (.str value))
      (inside : value ∈ [document.session.appSessionId, document.session.imageSessionId,
        document.session.conversationId, document.session.turnId]) :
      requireStringMember document.session.members member = .ok value :=
    requireStringMember_found _ _ _ found (text value inside).1 (text value inside).2
  have session : requireObjectMember document.members "session" = .ok document.session.members :=
    requireObjectMember_found _ _ rfl
  have app := read "appSessionId" _ rfl (by simp)
  have image := read "imageSessionId" _ rfl (by simp)
  have conversation := read "conversationId" _ rfl (by simp)
  have turn := read "turnId" _ rfl (by simp)
  simp only [parseSession, session, app, image, conversation, turn, bind, Except.bind, pure, Except.pure]

theorem parseRefinement_members (readable : document.Readable) :
    parseRefinement document.members "refinement" true = .ok {
      mode := some document.refinement.mode
      enabled := document.refinement.enabled
      passIndex := toGuint document.refinement.passIndex
      maxPasses := toGuint document.refinement.maxPasses
      continueRefining := document.refinement.continueRefining
      stopReason := some document.refinement.stopReason.name } :=
  parseRefinement_found rfl readable.ordered readable.fits

theorem parsePlan_members (readable : document.Readable) {parsed : List (ChatOperation ℚ)}
    (operations : parseOperations 0 document.operations = .ok parsed) :
    parsePlan document.members =
      .ok ⟨some document.planId, some document.baseImageRevisionId, parsed⟩ := by
  let members : JsonObject := [("planId", .str document.planId),
    ("baseImageRevisionId", .str document.baseImageRevisionId), ("operations", .arr document.operations)]
  have planText := readable.texts document.planId (by simp)
  have baseText := readable.texts document.baseImageRevisionId (by simp)
  have plan : requireObjectMember document.members "plan" = .ok members := requireObjectMember_found _ _ rfl
  have planRead := requireStringMember_found members "planId" _ rfl planText.1 planText.2
  have baseRead := requireStringMember_found members "baseImageRevisionId" _
    rfl baseText.1 baseText.2
  have operationsRead : members.lookup "operations" = some (.arr document.operations) := rfl
  simp only [parsePlan, plan, planRead, baseRead, operationsRead, operations, bind, Except.bind, pure, Except.pure]

/-- An ok document is accepted as soon as its operations are. -/
theorem chatResponseParseData_members (readable : document.Readable) {parsed : List (ChatOperation ℚ)}
    (operations : parseOperations 0 document.operations = .ok parsed) :
    chatResponseParseData (.obj document.members) = .ok (document.response parsed) := by
  have requestText := readable.texts document.requestId (by simp)
  have messageText := readable.texts document.messageText (by simp)
  have version := requireStringMember_found document.members "schemaVersion" schemaVersion rfl
    (by unfold NulFree; decide) (by decide)
  have request := requireStringMember_found document.members "requestId" _
    rfl requestText.1 requestText.2
  have status := requireStringMember_found document.members "status" "ok" rfl (by unfold NulFree; decide) (by decide)
  have message : parseMessage document.members "assistantMessage" = .ok ("assistant", document.messageText) := by
    let members : JsonObject := [("role", .str "assistant"), ("text", .str document.messageText)]
    have found : requireObjectMember document.members "assistantMessage" = .ok members :=
      requireObjectMember_found _ _ rfl
    have role := requireStringMember_found members "role" "assistant"
      rfl (by unfold NulFree; decide) (by decide)
    have text := requireStringMember_found members "text" _ rfl messageText.1 messageText.2
    simp only [parseMessage, found, role, text, bind, Except.bind, pure, Except.pure]
  have error : parseError document.members = .ok (none, none) := rfl
  have refinement := parseRefinement_members readable
  have plan := parsePlan_members readable operations
  simp [chatResponseParseData, version, request, parseSession_members readable, status, message, error,
    refinement, plan, bind, Except.bind, pure, Except.pure, response]

end OkDocument

structure RequestFits (request : RequestEnvelope) : Prop where
  texts : ∀ text ∈ [request.requestId, request.session.appSessionId, request.session.imageSessionId,
    request.session.conversationId, request.session.turnId, request.imageSnapshot.imageRevisionId], NulFree text
  maxPasses : request.refinement.maxPasses < 2 ^ 32

structure PlanFits (plan : AgentPlan) : Prop where
  assistantText : NulFree plan.assistantText
  operations : ∀ operation ∈ plan.operations, OperationFits operation

/-- Ids, status, message, refinement and operations are the same on both sides. -/
structure ResponseAgrees (response : ResponseEnvelope) (parsed : ChatResponse ℚ) : Prop where
  requestId : parsed.requestId = response.requestId
  appSessionId : parsed.appSessionId = response.session.appSessionId
  imageSessionId : parsed.imageSessionId = response.session.imageSessionId
  conversationId : parsed.conversationId = response.session.conversationId
  turnId : parsed.turnId = response.session.turnId
  status : parsed.status = response.status.name
  messageRole : parsed.messageRole = "assistant"
  messageText : parsed.messageText = response.assistantMessage.text
  refinementMode : parsed.refinementMode = some response.refinement.mode
  refinementEnabled : parsed.refinementEnabled = response.refinement.enabled
  passIndex : (parsed.refinementPassIndex : Int) = response.refinement.passIndex
  maxPasses : (parsed.refinementMaxPasses : Int) = response.refinement.maxPasses
  continueRefining : parsed.refinementContinue = response.refinement.continueRefining
  stopReason : parsed.refinementStopReason = some response.refinement.stopReason.name
  planId : parsed.planId = response.plan.map (·.planId)
  baseImageRevisionId : parsed.baseImageRevisionId = response.plan.map (·.baseImageRevisionId)
  errorCode : parsed.errorCode = response.error.map (·.code)
  errorMessage : parsed.errorMessage = response.error.map (·.message)
  operations : List.Forall₂ OperationAgrees (response.plan.elim [] (·.operations)) parsed.operations

theorem nulFree_append {left right : String} (leftFree : NulFree left) (rightFree : NulFree right) :
    NulFree (left ++ right) := by
  intro member
  rw [String.toList_append, List.mem_append] at member
  exact member.elim leftFree rightFree

/-- The response document of a plan, in the terms of the parser. -/
def responseDocument (request : RequestEnvelope) (plan : AgentPlan) : OkDocument where
  requestId := request.requestId
  session := request.session.toResponseSession
  messageText := plan.assistantText
  refinement := buildRefinementStatus request plan
  planId := "plan-" ++ request.session.turnId
  baseImageRevisionId := request.imageSnapshot.imageRevisionId
  operations := plan.operations.map PlannedOperationDraft.modelDump
  operationResults := (buildResponseFromPlan request plan).operationResults.map OperationResult.modelDump

theorem responseDocument_readable {request : RequestEnvelope} {plan : AgentPlan}
    (requestFits : RequestFits request) (planFits : PlanFits plan) :
    (responseDocument request plan).Readable := by
  refine ⟨?_, request.refinement.passIndex_le, requestFits.maxPasses⟩
  have texts := requestFits.texts
  have present := request.session.present
  simp only [List.forall_mem_cons] at texts present ⊢
  obtain ⟨requestId, app, image, conversation, turn, revision, -⟩ := texts
  obtain ⟨appPresent, imagePresent, conversationPresent, turnPresent, -⟩ := present
  have planId : NulFree ("plan-" ++ request.session.turnId) :=
    nulFree_append (by unfold NulFree; decide) turn
  exact ⟨⟨requestId, request.requestIdPresent⟩, ⟨app, appPresent⟩, ⟨image, imagePresent⟩,
    ⟨conversation, conversationPresent⟩, ⟨turn, turnPresent⟩,
    ⟨planFits.assistantText, plan.assistantTextPresent⟩, ⟨planId, planId_ne_empty _⟩,
    ⟨revision, request.imageSnapshot.imageRevisionIdPresent⟩, by simp⟩

/-- The response that the client makes of a plan. -/
def planRead (request : RequestEnvelope) (plan : AgentPlan) : ChatResponse ℚ :=
  (responseDocument request plan).response (plan.operations.map clientOperation)

theorem chatResponseParseData_planRead {request : RequestEnvelope} {plan : AgentPlan}
    (requestFits : RequestFits request) (planFits : PlanFits plan) :
    chatResponseParseData (buildResponseFromPlan request plan).modelDump = .ok (planRead request plan) := by
  let entries := plan.operations.map fun operation => (operation, operation.value.members)
  have parsedOperations := parseOperations_clientOperation 0 entries
    (by simpa [entries] using planFits.operations)
    (by
      intro entry member
      obtain ⟨operation, -, rfl⟩ := List.mem_map.mp member
      exact valueReads_members operation)
  have document : (responseDocument request plan).operations =
      entries.map fun (operation, value) => .obj (operation.members value) := by
    rw [List.map_map]
    rfl
  have readable := responseDocument_readable requestFits planFits
  have sameOperations : entries.map (·.1) = plan.operations := by simp [entries, Function.comp_def]
  rw [sameOperations] at parsedOperations
  exact OkDocument.chatResponseParseData_members readable (document ▸ parsedOperations)

/-- The client reads back what the server built from a plan. -/
theorem chatResponseParseData_buildResponseFromPlan {request : RequestEnvelope} {plan : AgentPlan}
    (requestFits : RequestFits request) (planFits : PlanFits plan) :
    ∃ parsed, chatResponseParseData (buildResponseFromPlan request plan).modelDump = .ok parsed ∧
      ResponseAgrees (buildResponseFromPlan request plan) parsed := by
  have readable := responseDocument_readable requestFits planFits
  have positive := request.refinement.passIndexPositive
  have ordered := readable.ordered
  refine ⟨planRead request plan, chatResponseParseData_planRead requestFits planFits, ?_⟩
  have passIndex := toGuint_of_fits request.refinement.passIndex (by omega)
    (lt_of_le_of_lt ordered readable.fits)
  have maxPasses := toGuint_of_fits request.refinement.maxPasses
    (by have := request.refinement.maxPassesPositive; omega) requestFits.maxPasses
  exact ⟨rfl, rfl, rfl, rfl, rfl, rfl, rfl, rfl, rfl, rfl, passIndex, maxPasses, rfl, rfl, rfl, rfl, rfl, rfl,
    clientOperations_agree plan.operations⟩

/-- The identifiers a client keeps with the request it has sent. -/
def RequestEnvelope.clientRequest (request : RequestEnvelope) : ClientRequest where
  requestId := some request.requestId
  appSessionId := some request.session.appSessionId
  imageSessionId := some request.session.imageSessionId
  conversationId := some request.session.conversationId
  turnId := some request.session.turnId

structure PayloadFits (payload : RequestProgressPayload) : Prop where
  status : NulFree payload.status
  message : NulFree payload.message
  lastToolName : ∀ name, payload.lastToolName = some name → NulFree name
  toolCallsUsed : payload.toolCallsUsed < 2 ^ 32
  maxToolCalls : payload.maxToolCalls < 2 ^ 32
  appliedOperationCount : payload.appliedOperationCount < 2 ^ 32
  operations : ∀ dict ∈ payload.operations, OperationFits dict.operation

/-- Counters, texts and operations of a snapshot are the same on both sides. -/
structure ProgressAgrees (payload : RequestProgressPayload) (parsed : ClientProgress ℚ) : Prop where
  transportError : parsed.transportError = none
  found : parsed.found = payload.found
  status : parsed.status = some payload.status
  cancelled : parsed.cancelled = decide (payload.status = "cancelled")
  message : parsed.message = some payload.message
  lastToolName : parsed.lastToolName = payload.lastToolName
  toolCallsUsed : parsed.toolCallsUsed = payload.toolCallsUsed
  toolCallsMax : parsed.toolCallsMax = payload.maxToolCalls
  appliedOperationCount : parsed.appliedOperationCount = payload.appliedOperationCount
  requiresRenderCallback : parsed.requiresRenderCallback = payload.requiresRenderCallback
  operations : ∃ response, parsed.response = some response ∧
    List.Forall₂ OperationAgrees (payload.operations.map (·.operation)) response.operations

/-- The wrapped response around the operations of a snapshot. -/
def progressDocument (request : RequestEnvelope) (operations : List Json) : OkDocument where
  requestId := request.requestId
  session := request.session.toResponseSession
  messageText := "Live progress update."
  refinement := ⟨.multiTurn, true, 1, 1, false, .continue, one_positive, one_positive⟩
  planId := "live-progress"
  baseImageRevisionId := "live-progress"
  operations := operations
  operationResults := []

theorem progressDocument_readable {request : RequestEnvelope} (requestFits : RequestFits request)
    (operations : List Json) : (progressDocument request operations).Readable := by
  refine ⟨?_, show (1 : Int) ≤ 1 by decide, show (1 : Int) < 2 ^ 32 by decide⟩
  have texts := requestFits.texts
  have present := request.session.present
  simp only [List.forall_mem_cons] at texts present ⊢
  obtain ⟨requestId, app, image, conversation, turn, -⟩ := texts
  obtain ⟨appPresent, imagePresent, conversationPresent, turnPresent, -⟩ := present
  have message : NulFree "Live progress update." ∧ "Live progress update." ≠ "" :=
    ⟨by unfold NulFree; decide, by decide⟩
  have plan : NulFree "live-progress" ∧ "live-progress" ≠ "" := ⟨by unfold NulFree; decide, by decide⟩
  exact ⟨⟨requestId, request.requestIdPresent⟩, ⟨app, appPresent⟩, ⟨image, imagePresent⟩,
    ⟨conversation, conversationPresent⟩, ⟨turn, turnPresent⟩,
    message, plan, plan, by simp⟩

theorem optionalCount_found (object : JsonObject) (member : String) {count : Nat}
    (found : object.lookup member = some (.int count)) (fits : count < 2 ^ 32) :
    optionalCount object member = count := by
  have exact : (toGuint count : Int) = count := toGuint_of_fits _ (by omega) (by omega)
  rw [optionalCount, found]
  simp only [Int.natCast_nonneg, max_eq_right]
  omega

theorem optionalStr_found (object : JsonObject) (member : String) {value : String}
    (found : object.lookup member = some (.str value)) (plain : NulFree value) :
    optionalStr object member = some value := by
  rw [optionalStr, found]
  simp only [cString_of_nulFree plain]

/-- The snapshot as the client holds it. Operations are read of a snapshot that was found. -/
def progressRead (request : RequestEnvelope) (payload : RequestProgressPayload) : ClientProgress ℚ where
  cancelled := decide (payload.status = "cancelled")
  found := payload.found
  response :=
    if payload.found then
      some ((progressDocument request (payload.operations.map OperationDict.json)).response
        ((payload.operations.map (·.operation)).map clientOperation))
    else none
  status := some payload.status
  message := some payload.message
  lastToolName := payload.lastToolName
  toolCallsUsed := payload.toolCallsUsed
  toolCallsMax := payload.maxToolCalls
  appliedOperationCount := payload.appliedOperationCount
  requiresRenderCallback := payload.requiresRenderCallback

theorem progressRead_agrees (request : RequestEnvelope) {payload : RequestProgressPayload}
    (found : payload.found = true) : ProgressAgrees payload (progressRead request payload) := by
  have response : (progressRead request payload).response = some _ := if_pos found
  exact ⟨rfl, rfl, rfl, rfl, rfl, rfl, rfl, rfl, rfl, rfl, _, response, clientOperations_agree _⟩

/-- A snapshot is accepted as it is, unless it counts none of the operations it lists. -/
theorem parseProgressPayload_read {request : RequestEnvelope} (requestFits : RequestFits request)
    {payload : RequestProgressPayload} (payloadFits : PayloadFits payload)
    (counted : payload.appliedOperationCount = 0 → payload.operations = []) :
    parseProgressPayload request.clientRequest payload.json = .ok (progressRead request payload) := by
  let entries := payload.operations.map fun dict =>
    (dict.operation, if dict.bound then dict.value.boundMembers dict.kind else dict.value.members)
  let operations := (payload.operations.map (·.operation)).map clientOperation
  have parsedOperations := parseOperations_clientOperation 0 entries
    (by simpa [entries] using payloadFits.operations)
    (by
      intro entry member
      obtain ⟨dict, -, rfl⟩ := List.mem_map.mp member
      by_cases style : dict.bound
      · simp only [style, if_true]
        exact valueReads_boundMembers dict.operation
      · simp only [style, if_false, Bool.false_eq_true]
        exact valueReads_members dict.operation)
  have document : payload.operations.map OperationDict.json =
      entries.map fun (operation, value) => .obj (operation.members value) := by
    rw [List.map_map]
    rfl
  have sameOperations : entries.map (·.1) = payload.operations.map (·.operation) := by
    rw [List.map_map]
    rfl
  rw [sameOperations] at parsedOperations
  have wrapped : chatResponseParseData (buildProgressResponseJson request.clientRequest
      (some (.arr (payload.operations.map OperationDict.json)))) =
      .ok ((progressDocument request (payload.operations.map OperationDict.json)).response operations) :=
    OkDocument.chatResponseParseData_members (progressDocument_readable requestFits _) (document ▸ parsedOperations)
  have used := optionalCount_found payload.members "toolCallsUsed" rfl
    payloadFits.toolCallsUsed
  have limit := optionalCount_found payload.members "maxToolCalls" rfl
    payloadFits.maxToolCalls
  have applied := optionalCount_found payload.members "appliedOperationCount" rfl
    payloadFits.appliedOperationCount
  have status := optionalStr_found payload.members "status" rfl payloadFits.status
  have message := optionalStr_found payload.members "message" rfl payloadFits.message
  have tool : optionalStr payload.members "lastToolName" = payload.lastToolName := by
    cases name : payload.lastToolName with
    | none => simp [optionalStr, RequestProgressPayload.members, lookup_cons_if, name, optionalJson]
    | some text =>
      exact optionalStr_found _ _ (by simp [RequestProgressPayload.members, lookup_cons_if, name, optionalJson])
        (payloadFits.lastToolName text name)
  have isFound : optionalBool payload.members "found" = payload.found := rfl
  have render : optionalBool payload.members "requiresRenderCallback" = payload.requiresRenderCallback := rfl
  have node : payload.members.lookup "operations" = some (.arr (payload.operations.map OperationDict.json)) := rfl
  let response := (progressDocument request (payload.operations.map OperationDict.json)).response operations
  -- a count of zero is replaced by the length of the list, which is zero as well
  have count : (if payload.appliedOperationCount = 0 then response.operations.length
      else payload.appliedOperationCount) = payload.appliedOperationCount := by
    split_ifs with zero
    · have length : response.operations.length = payload.operations.length := by
        simp [response, OkDocument.response, operations]
      rw [length, counted zero, zero]
      rfl
    · rfl
  have cancelled : (some payload.status == some "cancelled") = decide (payload.status = "cancelled") := by
    by_cases same : payload.status = "cancelled" <;> simp [same]
  rw [RequestProgressPayload.json, parseProgressPayload, progressRead]
  cases found : payload.found with
  | true =>
    simp only [node, isFound, found, if_true, wrapped, Except.map, bind, Except.bind, pure, Except.pure, used, limit,
      applied, status, message, tool, render, count, cancelled, response, operations]
  | false =>
    simp only [node, isFound, found, if_false, Bool.false_eq_true, bind, Except.bind, pure, Except.pure, used, limit,
      applied, status, message, tool, render, cancelled]

/-- A found snapshot that counts its operations is accepted as it is. -/
theorem parseProgressPayload_json {request : RequestEnvelope} (requestFits : RequestFits request)
    {payload : RequestProgressPayload} (payloadFits : PayloadFits payload) (found : payload.found = true)
    (counted : payload.appliedOperationCount = payload.operations.length) :
    ∃ parsed, parseProgressPayload request.clientRequest payload.json = .ok parsed ∧
      ProgressAgrees payload parsed := by
  refine ⟨_, parseProgressPayload_read requestFits payloadFits fun zero => ?_, progressRead_agrees request found⟩
  exact List.length_eq_zero_iff.mp (counted.symm.trans zero)

end DarktableAgent.Protocol
