import DarktableAgent.Protocol.Agreement
import DarktableAgent.Server.ToolRouting

/-! The requests the bridge knows, the progress it shows of them, and the end of a turn.

A snapshot is taken under the state lock, at any moment of a running turn.
-/

set_option autoImplicit false

namespace DarktableAgent.Server

open Foundation Protocol

/-- `CancelRequestKey`; a progress query names a request by the same five texts. -/
structure CancelRequestKey where
  requestId : String
  appSessionId : String
  imageSessionId : String
  conversationId : String
  turnId : String
  deriving DecidableEq, Repr

structure ActiveRequestState where
  cancelKey : CancelRequestKey
  cancelled : Bool := false
  cancelReason : Option String := none
  threadId : Option String := none
  codexTurnId : Option String := none
  status : String := "queued"
  message : String := "Request accepted"
  lastToolName : Option String := none
  progressVersion : Nat := 0
  deriving DecidableEq, Repr

structure BridgeState where
  activeRequests : Dict String ActiveRequestState
  cancelledRequests : Dict CancelRequestKey String
  turnContexts : Dict (String × String) TurnContext

def cancelKeyOf (request : RequestEnvelope) : CancelRequestKey :=
  ⟨request.requestId, request.session.appSessionId, request.session.imageSessionId,
    request.session.conversationId, request.session.turnId⟩

namespace BridgeState

variable (state : BridgeState)

def setActive (active : ActiveRequestState) : BridgeState :=
  { state with activeRequests := state.activeRequests.set active.cancelKey.requestId active }

/-- `_register_request` -/
def registerRequest (request : RequestEnvelope) : BridgeState :=
  let key := cancelKeyOf request
  let reason := state.cancelledRequests.get? key
  state.setActive { cancelKey := key, cancelled := reason.isSome, cancelReason := reason }

/-- `_unregister_request` -/
def unregisterRequest (requestId : String) : BridgeState :=
  match state.activeRequests.get? requestId with
  | none => state
  | some active => { state with
      activeRequests := state.activeRequests.erase requestId
      cancelledRequests := state.cancelledRequests.erase active.cancelKey }

/-- `cancel_request` -/
def cancelRequest (key : CancelRequestKey) (reason : Option String) : BridgeState × Bool :=
  -- `reason or …`: an empty reason is replaced as well
  let given := reason.filter (· ≠ "")
  let noted := { state with
    cancelledRequests := state.cancelledRequests.set key (given.getD "Chat request was canceled") }
  match state.activeRequests.get? key.requestId with
  | some active =>
    if active.cancelKey = key then
      (noted.setActive { active with
        cancelled := true
        cancelReason := reason
        status := "cancel-requested"
        message := given.getD "Cancellation requested" }, true)
    else (noted, false)
  | none => (noted, false)

/-- The payload of an unknown request. -/
def notFound (message : String) : RequestProgressPayload where
  found := false
  status := "not_found"
  toolCallsUsed := 0
  maxToolCalls := 0
  appliedOperationCount := 0
  operations := []
  message := message
  lastToolName := none
  progressVersion := 0
  requiresRenderCallback := false

/-- The turn context behind an active request, while it has one. -/
def contextOf (active : ActiveRequestState) : Option TurnContext := do
  let threadId ← active.threadId.filter (· ≠ "")
  let turnId ← active.codexTurnId.filter (· ≠ "")
  state.turnContexts.get? (threadId, turnId)

/-- `get_request_progress` -/
def getRequestProgress (key : CancelRequestKey) : RequestProgressPayload :=
  match state.activeRequests.get? key.requestId with
  | none => notFound "No active request found for that requestId."
  | some active =>
    -- the request ids agree already: the entry is the one of this id
    if active.cancelKey ≠ key then notFound "No active request matched the provided session identifiers."
    else
      let context := state.contextOf active
      let operations := context.elim [] (·.appliedOperations)
      { found := true
        status := active.status
        toolCallsUsed := context.elim 0 (·.toolCallsUsed)
        maxToolCalls := context.elim 0 (·.maxToolCalls)
        appliedOperationCount := operations.length
        operations := operations
        message := active.message
        lastToolName := active.lastToolName
        progressVersion := active.progressVersion
        requiresRenderCallback := context.elim false (·.requiresRenderCallback) }

/-- `_set_active_request_status_locked` -/
def setActiveRequestStatus (requestId status : String) (message : Option String) : BridgeState :=
  match state.activeRequests.get? requestId with
  | none => state
  | some active => state.setActive { active with
      status := status
      message := message.getD active.message
      progressVersion := active.progressVersion + 1 }

/-- `_set_active_request_status_for_turn_locked`: the first active request of the turn. -/
def setStatusForTurn (threadId turnId message lastToolName : String) : BridgeState :=
  let ofTurn (entry : String × ActiveRequestState) : Bool :=
    entry.2.threadId == some threadId && entry.2.codexTurnId == some turnId
  match state.activeRequests.entries.find? ofTurn with
  | none => state
  | some (_, active) => state.setActive { active with
      status := "running"
      message := message
      lastToolName := some lastToolName
      progressVersion := active.progressVersion + 1 }

def applyEffect (threadId turnId : String) : LiveEffect → BridgeState
  | .context context => { state with turnContexts := state.turnContexts.set (threadId, turnId) context }
  | .status message lastToolName => state.setStatusForTurn threadId turnId message lastToolName

end BridgeState

/-- A visible change that a tool call makes for the turn it names. -/
structure BridgeWrite where
  threadId : String
  turnId : String
  effect : LiveEffect

def BridgeState.write (state : BridgeState) (write : BridgeWrite) : BridgeState :=
  state.applyEffect write.threadId write.turnId write.effect

/-- The arguments of a call; a missing or null member stands for none. -/
def toolArguments (params : JsonObject) : Option JsonObject :=
  match params.lookup "arguments" with
  | none | some .null => some []
  | some (.obj arguments) => some arguments
  | some _ => none

/-- `_handle_dynamic_tool_call_locked`: the response, and what is written on the way to it. -/
def handleDynamicToolCall (library : ToolLibrary) (state : BridgeState) (params : JsonObject)
    (renders : Nat → Option Bytes) : ToolResponse × List BridgeWrite :=
  let refused (text : String) : ToolResponse × List BridgeWrite := (toolErrorResponse text, [])
  match params.lookup "threadId", params.lookup "turnId" with
  | some (.str threadId), some (.str turnId) =>
    match params.lookup "tool" with
    | some (.str toolName) =>
      match toolArguments params with
      | none => refused "Tool arguments must be an object."
      | some arguments =>
        match state.turnContexts.get? (threadId, turnId) with
        | none => refused "No active image context is available for this tool call."
        | some context =>
          let called := handleToolCall library context toolName arguments renders
          (called.response, called.effects.map (⟨threadId, turnId, ·⟩))
    | _ => refused "Missing tool name for tool call."
  | _, _ => refused "Missing threadId/turnId for tool call."

/-- `_finalize_plan_with_live_context`: after live edits, the plan is what was applied. -/
def finalizePlanWithLiveContext (plan : AgentPlan) : Option TurnContext → AgentPlan
  | none => plan
  | some context =>
    let planned := plan.operations.map fun operation => ⟨operation, false⟩
    let merged :=
      if context.liveRunEnabled && !context.appliedOperations.isEmpty then context.appliedOperations
      else context.appliedOperations ++ planned
    withOperations plan merged (if context.liveRunEnabled then false else plan.continueRefining) none

/-- The plan that the bridge returns at the end of a turn. -/
def turnPlan (library : ToolLibrary) (request : RequestEnvelope) (plan : AgentPlan) (context : Option TurnContext) :
    AgentPlan :=
  let bound :=
    if request.refinement.enabled then
      bindCanonicalPlan library.lower request.imageSnapshot.editableSettings plan
    else plan
  finalizePlanWithLiveContext bound context

/-- A snapshot counts the operations it lists. -/
theorem BridgeState.getRequestProgress_counted (state : BridgeState) (key : CancelRequestKey) :
    (state.getRequestProgress key).appliedOperationCount = (state.getRequestProgress key).operations.length := by
  unfold getRequestProgress
  split
  · rfl
  · split_ifs <;> rfl

/-- The client accepts what the server writes, and reads what the server meant: the response to any
plan, and any snapshot of a request the bridge finds. -/
theorem chatFormat_agrees {request : RequestEnvelope} (requestFits : RequestFits request) :
    (∀ plan, PlanFits plan →
      ∃ parsed, chatResponseParseData (buildResponseFromPlan request plan).modelDump = .ok parsed ∧
        ResponseAgrees (buildResponseFromPlan request plan) parsed) ∧
    ∀ (state : BridgeState) (key : CancelRequestKey), (state.getRequestProgress key).found = true →
      PayloadFits (state.getRequestProgress key) →
      ∃ parsed, parseProgressPayload request.clientRequest (state.getRequestProgress key).json = .ok parsed ∧
        ProgressAgrees (state.getRequestProgress key) parsed :=
  ⟨fun _ planFits => chatResponseParseData_buildResponseFromPlan requestFits planFits,
    fun state key found payloadFits =>
      parseProgressPayload_json requestFits payloadFits found (state.getRequestProgress_counted key)⟩

/-- Half a stop more exposure. -/
def exposureOperation : PlannedOperationDraft where
  operationId := "op-1"
  sequence := 1
  kind := .setFloat
  target := exposureTarget
  value := { mode := .delta, number := some (1 / 2) }
  reason := none
  operationIdPresent := firstOperation_present
  sequencePositive := one_positive
  valid := rfl

def exposurePlan : AgentPlan :=
  ⟨"Brightened the image.", false, [exposureOperation], none, by decide, by simp, by simp⟩

def exposureActive : ActiveRequestState where
  cancelKey := cancelKeyOf exposureRequest
  threadId := some "thread-1"
  codexTurnId := some "codex-1"
  status := "running"
  message := "Handled tool apply_operations"

/-- The turn of the exposure request, after its first live edit. -/
def exposureTurn : BridgeState where
  activeRequests := Dict.empty.set "req-1" exposureActive
  cancelledRequests := Dict.empty
  turnContexts := Dict.empty.set ("thread-1", "codex-1")
    { exposureContext with toolCallsUsed := 1, appliedOperations := [⟨exposureOperation, false⟩] }

theorem exposureRequest_fits : RequestFits exposureRequest :=
  ⟨by unfold NulFree; decide, by decide⟩

theorem exposureOperation_fits : OperationFits exposureOperation :=
  ⟨by unfold NulFree; decide, by simp [exposureOperation], by simp [exposureOperation], by decide⟩

theorem chatFormat_agrees_exposure :
    (∃ parsed, chatResponseParseData (buildResponseFromPlan exposureRequest exposurePlan).modelDump = .ok parsed ∧
      ResponseAgrees (buildResponseFromPlan exposureRequest exposurePlan) parsed) ∧
    ∃ parsed, parseProgressPayload exposureRequest.clientRequest
        (exposureTurn.getRequestProgress (cancelKeyOf exposureRequest)).json = .ok parsed ∧
      ProgressAgrees (exposureTurn.getRequestProgress (cancelKeyOf exposureRequest)) parsed := by
  have planFits : PlanFits exposurePlan :=
    ⟨by unfold NulFree; decide, by simpa [exposurePlan] using exposureOperation_fits⟩
  have payloadFits : PayloadFits (exposureTurn.getRequestProgress (cancelKeyOf exposureRequest)) :=
    ⟨by unfold NulFree; decide, by unfold NulFree; decide, by rintro _ ⟨⟩, by decide, by decide, by decide,
      fun dict member => by
        obtain rfl : dict = ⟨exposureOperation, false⟩ := List.mem_singleton.mp member
        exact exposureOperation_fits⟩
  exact ⟨(chatFormat_agrees exposureRequest_fits).1 exposurePlan planFits,
    (chatFormat_agrees exposureRequest_fits).2 exposureTurn (cancelKeyOf exposureRequest) rfl payloadFits⟩

end DarktableAgent.Server
