import DarktableAgent.Foundation.PyJson
import DarktableAgent.Protocol.Request

/-! The chat response and how the server builds it.

Constructors that receive unvalidated text return the validation error the schema
raises. `buildResponseFromPlan` only receives validated values and is total.
-/

set_option autoImplicit false

namespace DarktableAgent.Protocol

open Foundation

structure ValidationError where
  field : String
  text : String
  deriving DecidableEq, Repr

/-- A text field with `min_length=1`. -/
def requireText (field text : String) : Except ValidationError { text : String // text ≠ "" } :=
  if present : text ≠ "" then .ok ⟨text, present⟩
  else .error ⟨field, "String should have at least 1 character"⟩

/-- The same field, given any value. A text is taken over when it can be encoded. -/
def requireTextValue (field : String) : PyJson → Except ValidationError { text : String // text ≠ "" }
  | .str text =>
    match text.encode? with
    | some text => requireText field text
    | none => .error ⟨field, "Input should be a valid string, unable to parse raw data as a unicode string"⟩
  | _ => .error ⟨field, "Input should be a valid string"⟩

/-- The field takes exactly the texts that can be encoded and are not empty. -/
theorem requireTextValue_cases (field : String) (value : PyJson) :
    (∃ text, ∃ present : text ≠ "", value.text? = some text ∧ requireTextValue field value = .ok ⟨text, present⟩) ∨
      value.text?.getD "" = "" ∧ ∃ raised, requireTextValue field value = .error raised := by
  cases value with
  | str text =>
    have encoded : (PyJson.str text).text? = text.encode? := rfl
    cases encodes : text.encode? with
    | none => exact .inr ⟨by rw [encoded, encodes]; rfl, by simp [requireTextValue, encodes]⟩
    | some written =>
      rw [encoded, encodes]
      by_cases present : written = ""
      · exact .inr ⟨present, by simp [requireTextValue, requireText, encodes, present]⟩
      · exact .inl ⟨written, present, rfl, by simp [requireTextValue, requireText, encodes, present]⟩
  | null | bool | int | real | arr | obj => exact .inr ⟨rfl, _, rfl⟩

inductive ResponseStatus where
  | ok
  | error
  deriving DecidableEq, Repr

def ResponseStatus.name : ResponseStatus → String
  | .ok => "ok"
  | .error => "error"

inductive StopReason where
  | singleTurn
  | continue
  | plannerComplete
  | noOperations
  | maxPasses
  deriving DecidableEq, Repr

def StopReason.name : StopReason → String
  | .singleTurn => "single-turn"
  | .continue => "continue"
  | .plannerComplete => "planner-complete"
  | .noOperations => "no-operations"
  | .maxPasses => "max-passes"

@[ext] structure AssistantMessage where
  text : String
  present : text ≠ ""

instance : DecidableEq AssistantMessage := fun _ _ => decidable_of_iff _ AssistantMessage.ext_iff.symm

@[ext] structure ErrorInfo where
  code : String
  message : String
  codePresent : code ≠ ""
  messagePresent : message ≠ ""

instance : DecidableEq ErrorInfo := fun _ _ => decidable_of_iff _ ErrorInfo.ext_iff.symm

inductive OperationStatus where
  | planned
  | applied
  | blocked
  | failed
  deriving DecidableEq, Repr

def OperationStatus.name : OperationStatus → String
  | .planned => "planned"
  | .applied => "applied"
  | .blocked => "blocked"
  | .failed => "failed"

@[ext] structure OperationResult where
  operationId : String
  status : OperationStatus
  error : Option ErrorInfo
  operationIdPresent : operationId ≠ ""

instance : DecidableEq OperationResult := fun _ _ => decidable_of_iff _ OperationResult.ext_iff.symm

@[ext] structure PlanEnvelope where
  planId : String
  baseImageRevisionId : String
  operations : List PlannedOperationDraft
  planIdPresent : planId ≠ ""
  baseImageRevisionIdPresent : baseImageRevisionId ≠ ""

instance : DecidableEq PlanEnvelope := fun _ _ => decidable_of_iff _ PlanEnvelope.ext_iff.symm

@[ext] structure RefinementStatus where
  mode : RefinementMode
  enabled : Bool
  passIndex : Int
  maxPasses : Int
  continueRefining : Bool
  stopReason : StopReason
  passIndexPositive : 1 ≤ passIndex
  maxPassesPositive : 1 ≤ maxPasses

instance : DecidableEq RefinementStatus := fun _ _ => decidable_of_iff _ RefinementStatus.ext_iff.symm

structure ResponseSession where
  appSessionId : String
  imageSessionId : String
  conversationId : String
  turnId : String
  deriving DecidableEq, Repr

def RequestSession.toResponseSession (session : RequestSession) : ResponseSession :=
  ⟨session.appSessionId, session.imageSessionId, session.conversationId, session.turnId⟩

structure ResponseEnvelope where
  requestId : String
  session : ResponseSession
  status : ResponseStatus
  assistantMessage : AssistantMessage
  refinement : RefinementStatus
  plan : Option PlanEnvelope
  operationResults : List OperationResult
  error : Option ErrorInfo
  valid : rejectIf [
    (status == .error && plan.isSome, "error responses must not include a plan"),
    (status == .error && !operationResults.isEmpty, "error responses must not include operation results"),
    (status == .error && error.isNone, "error responses must include error details"),
    (status == .ok && plan.isNone, "ok responses must include a plan"),
    (status == .ok && error.isSome, "ok responses must not include error details")] = .ok ()
  deriving DecidableEq

def canContinue (request : RequestEnvelope) (plan : AgentPlan) : Bool :=
  request.refinement.enabled && plan.continueRefining && !plan.operations.isEmpty
    && decide (request.refinement.passIndex < request.refinement.maxPasses)

def stopReason (request : RequestEnvelope) (plan : AgentPlan) : StopReason :=
  if !request.refinement.enabled then .singleTurn
  else if plan.operations.isEmpty then .noOperations
  else if request.refinement.maxPasses ≤ request.refinement.passIndex then .maxPasses
  else if canContinue request plan then .continue
  else .plannerComplete

/-- `_build_refinement_status` -/
def buildRefinementStatus (request : RequestEnvelope) (plan : AgentPlan) : RefinementStatus where
  mode := request.refinement.mode
  enabled := request.refinement.enabled
  passIndex := request.refinement.passIndex
  maxPasses := request.refinement.maxPasses
  continueRefining := canContinue request plan
  stopReason := stopReason request plan
  passIndexPositive := request.refinement.passIndexPositive
  maxPassesPositive := request.refinement.maxPassesPositive

theorem planId_ne_empty (turnId : String) : "plan-" ++ turnId ≠ "" := by
  intro empty
  exact absurd (String.append_eq_empty_iff.mp empty).1 (by decide)

def buildResponseFromPlan (request : RequestEnvelope) (plan : AgentPlan) : ResponseEnvelope where
  requestId := request.requestId
  session := request.session.toResponseSession
  status := .ok
  assistantMessage := ⟨plan.assistantText, plan.assistantTextPresent⟩
  refinement := buildRefinementStatus request plan
  plan := some {
    planId := "plan-" ++ request.session.turnId
    baseImageRevisionId := request.imageSnapshot.imageRevisionId
    operations := plan.operations
    planIdPresent := planId_ne_empty _
    baseImageRevisionIdPresent := request.imageSnapshot.imageRevisionIdPresent }
  operationResults := plan.operations.map fun operation =>
    ⟨operation.operationId, .planned, none, operation.operationIdPresent⟩
  error := none
  valid := rfl

/-- `build_request_error_refinement` -/
def buildRequestErrorRefinement (request : RequestEnvelope) : RefinementStatus where
  mode := request.refinement.mode
  enabled := request.refinement.enabled
  passIndex := request.refinement.passIndex
  maxPasses := request.refinement.maxPasses
  continueRefining := false
  stopReason := if !request.refinement.enabled then .singleTurn else .plannerComplete
  passIndexPositive := request.refinement.passIndexPositive
  maxPassesPositive := request.refinement.maxPassesPositive

def defaultErrorRefinement : RefinementStatus :=
  ⟨.singleTurn, false, 1, 1, false, .singleTurn, one_positive, one_positive⟩

/-- `build_error_payload`: the message is validated as assistant text first, then code and message. The message is
whatever the exception was raised with. -/
def buildErrorPayload (requestId : String) (session : ResponseSession) (refinement : Option RefinementStatus)
    (code : String) (message : PyJson) : Except ValidationError ResponseEnvelope := do
  -- a message that is no text fails as assistant text, before the code is looked at
  let assistantText ← requireTextValue "text" message
  let code ← requireText "code" code
  let message ← requireTextValue "message" message
  return {
    requestId := requestId
    session := session
    status := .error
    assistantMessage := ⟨assistantText.1, assistantText.2⟩
    refinement := refinement.getD defaultErrorRefinement
    plan := none
    operationResults := []
    error := some ⟨code.1, message.1, code.2, message.2⟩
    valid := rfl }

/-- An error can be reported exactly when it has a code, and a message that is a text, can be encoded and is not
empty. -/
theorem buildErrorPayload_isOk (requestId : String) (session : ResponseSession)
    (refinement : Option RefinementStatus) (code : String) (message : PyJson) :
    (∃ response, buildErrorPayload requestId session refinement code message = .ok response) ↔
      code ≠ "" ∧ message.text?.getD "" ≠ "" := by
  unfold buildErrorPayload
  obtain ⟨text, present, given, asText⟩ | ⟨absent, raised, asText⟩ := requireTextValue_cases "text" message
  · obtain ⟨again, presentAgain, givenAgain, asMessage⟩ | ⟨absent, -⟩ := requireTextValue_cases "message" message
    · obtain rfl := Option.some.inj (given.symm.trans givenAgain)
      unfold requireText
      by_cases noCode : code = ""
      · simp [asText, noCode, bind, Except.bind]
      · simp [asText, asMessage, given, present, noCode, bind, Except.bind, pure, Except.pure]
    · rw [given] at absent
      exact absurd absent present
  · simp [asText, absent, bind, Except.bind]

def ErrorInfo.modelDump (error : ErrorInfo) : Json :=
  .obj [("code", .str error.code), ("message", .str error.message)]

def OperationResult.modelDump (result : OperationResult) : Json :=
  .obj [("operationId", .str result.operationId), ("status", .str result.status.name),
    ("error", optionalJson ErrorInfo.modelDump result.error)]

def PlanEnvelope.members (plan : PlanEnvelope) : List (String × Json) :=
  [("planId", .str plan.planId), ("baseImageRevisionId", .str plan.baseImageRevisionId),
    ("operations", .arr (plan.operations.map PlannedOperationDraft.modelDump))]

def RefinementStatus.members (refinement : RefinementStatus) : List (String × Json) :=
  [("mode", .str refinement.mode.name), ("enabled", .bool refinement.enabled),
    ("passIndex", .int refinement.passIndex), ("maxPasses", .int refinement.maxPasses),
    ("continueRefining", .bool refinement.continueRefining), ("stopReason", .str refinement.stopReason.name)]

def ResponseSession.members (session : ResponseSession) : List (String × Json) :=
  [("appSessionId", .str session.appSessionId), ("imageSessionId", .str session.imageSessionId),
    ("conversationId", .str session.conversationId), ("turnId", .str session.turnId)]

def schemaVersion : String := "3.0"

/-- The members of `ResponseEnvelope.model_dump(mode="json")`. -/
def ResponseEnvelope.members (response : ResponseEnvelope) : List (String × Json) :=
  [("schemaVersion", .str schemaVersion), ("requestId", .str response.requestId),
    ("session", .obj response.session.members), ("status", .str response.status.name),
    ("assistantMessage", .obj [("role", .str "assistant"), ("text", .str response.assistantMessage.text)]),
    ("refinement", .obj response.refinement.members),
    ("plan", optionalJson (fun plan : PlanEnvelope => .obj plan.members) response.plan),
    ("operationResults", .arr (response.operationResults.map OperationResult.modelDump)),
    ("error", optionalJson ErrorInfo.modelDump response.error)]

def ResponseEnvelope.modelDump (response : ResponseEnvelope) : Json := .obj response.members

/-- `RequestProgressPayload`: one progress snapshot of a running request. -/
structure RequestProgressPayload where
  found : Bool
  status : String
  toolCallsUsed : Nat
  maxToolCalls : Nat
  appliedOperationCount : Nat
  operations : List OperationDict
  message : String
  lastToolName : Option String
  progressVersion : Nat
  requiresRenderCallback : Bool
  deriving DecidableEq

def RequestProgressPayload.members (payload : RequestProgressPayload) : List (String × Json) :=
  [("found", .bool payload.found), ("status", .str payload.status),
    ("toolCallsUsed", .int payload.toolCallsUsed), ("maxToolCalls", .int payload.maxToolCalls),
    ("appliedOperationCount", .int payload.appliedOperationCount),
    ("operations", .arr (payload.operations.map OperationDict.json)), ("message", .str payload.message),
    ("lastToolName", optionalJson .str payload.lastToolName),
    ("progressVersion", .int payload.progressVersion),
    ("requiresRenderCallback", .bool payload.requiresRenderCallback)]

def RequestProgressPayload.json (payload : RequestProgressPayload) : Json := .obj payload.members

end DarktableAgent.Protocol
