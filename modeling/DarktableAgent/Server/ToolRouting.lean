import DarktableAgent.Foundation.Runs
import DarktableAgent.Server.Operations

/-! Tool calls of a turn: guardrails, dispatch and the status note behind each call.

Every turn context is reached from a registered one by tool calls and render
callbacks. All of them keep the settings described as the request described them.
-/

set_option autoImplicit false

namespace DarktableAgent.Server

open Foundation Protocol

def toolGetPreviewImage : String := "get_preview_image"
def toolGetImageState : String := "get_image_state"
def toolGetPlaybook : String := "get_playbook"

def isReadOnlyTool (toolName : String) : Bool :=
  toolName ∈ [toolGetPreviewImage, toolGetImageState, toolGetPlaybook]

section Handle

variable (library : ToolLibrary)

/-- `_register_tool_call_progress_locked` -/
def registerToolCallProgress (context : TurnContext) (toolName : String) : TurnContext × Option String :=
  let used := context.toolCallsUsed + 1
  let counted := { context with toolCallsUsed := used }
  if context.maxToolCalls < used then
    (counted, some ("Tool call budget exceeded (" ++ toString context.maxToolCalls ++ "). Finalize the run now."))
  else if context.liveRunEnabled && context.appliedOperations.isEmpty && toolName != toolApplyOperations
      && decide (library.maxToolCallsWithoutApply < used) then
    (counted, some ("No live edits have been applied yet in live mode. Call " ++ toolApplyOperations
      ++ " now with concrete operations or finalize."))
  else if toolName = toolApplyOperations then ({ counted with consecutiveReadOnlyToolCalls := 0 }, none)
  else if isReadOnlyTool toolName then
    let streak := context.consecutiveReadOnlyToolCalls + 1
    ({ counted with consecutiveReadOnlyToolCalls := streak },
      if context.liveRunEnabled && decide (library.maxConsecutiveReadOnlyToolCalls < streak) then
        some ("Too many consecutive read-only tool calls. Call " ++ toolApplyOperations
          ++ " with concrete edits or finalize now.")
      else none)
  else ({ counted with consecutiveReadOnlyToolCalls := 0 }, none)

def playbookGuidance : String :=
  "Use this playbook as editing guidance, not as a final answer. "
    ++ "If you have enough context, convert it into a concrete apply_operations call now. "
    ++ "Only do more read-only tool calls if refreshed image state is strictly necessary."

/-- `get_playbook`: the response, and the status message of a found playbook. -/
def getPlaybook (arguments : JsonObject) : ToolResponse × Option String :=
  match arguments.lookup "playbookId" with
  | some (.str playbookId) =>
    if playbookId = "" then (toolErrorResponse "get_playbook requires a playbookId string.", none)
    else match library.loadPlaybook playbookId with
      | .error text => (toolErrorResponse text, none)
      | .ok playbook => (⟨true, [.inputText playbookGuidance, .inputText playbook.document]⟩,
          some ("Using playbook " ++ playbook.title ++ "."))
  | _ => (toolErrorResponse "get_playbook requires a playbookId string.", none)

def unsupportedTool (toolName : String) : ToolResponse :=
  toolErrorResponse ("Unsupported tool '" ++ toolName ++ "'. Supported tools: " ++ toolGetPreviewImage ++ ", "
    ++ toolGetImageState ++ ", " ++ toolGetPlaybook ++ ", " ++ toolApplyOperations ++ ".")

/-- The dispatch on the tool name. -/
def dispatchTool (context : TurnContext) (toolName : String) (arguments : JsonObject)
    (renders : Nat → Option Bytes) : ToolRun × Option String :=
  if toolName = toolGetPreviewImage then
    (⟨⟨true, [.inputImage context.previewDataUrl]⟩, context, []⟩, none)
  else if toolName = toolGetImageState then
    (⟨⟨true, [.inputText (library.stateText context.imageRevisionId context.settingById)]⟩, context, []⟩, none)
  else if toolName = toolGetPlaybook then
    let (response, message) := getPlaybook library arguments
    (⟨response, context, []⟩, message)
  else if toolName = toolApplyOperations then (applyOperationsToolCall library context arguments renders, none)
  else (⟨unsupportedTool toolName, context, []⟩, none)

/-- The first text of a refused call. -/
def toolError (response : ToolResponse) : Option String :=
  response.contentItems.findSome? fun
    | .inputText text => if text ≠ "" then some text else none
    | .inputImage _ => none

def toolProgressMessage (context : TurnContext) (toolName : String) (response : ToolResponse)
    (toolStatusMessage : Option String) : String :=
  let calls := " (" ++ toString context.toolCallsUsed ++ "/" ++ toString context.maxToolCalls ++ ")"
  if response.success then
    match toolStatusMessage with
    | some message => message
    | none =>
      let latest := context.lastAppliedSummary.filter fun summary =>
        toolName == toolApplyOperations && summary != ""
      "Handled tool " ++ toolName ++ calls ++ "; " ++ toString context.appliedOperations.length ++ " live edits"
        ++ latest.elim "" fun summary => ". Latest step: " ++ summary
  else "Tool " ++ toolName ++ " failed" ++ calls ++ ": " ++ (toolError response).getD "No details provided"

/-- A render that is still awaited is collected by the next tool that is not `apply_operations`. -/
def awaitLateRender (context : TurnContext) (toolName : String) (response : ToolResponse)
    (delivered : Option Bytes) : TurnContext × ToolResponse :=
  if context.requiresRenderCallback && toolName != toolApplyOperations then
    let addItem (item : ContentItem) : ToolResponse :=
      if response.success then { response with contentItems := response.contentItems ++ [item] } else response
    match delivered.filter (· ≠ []) with
    | some bytes =>
      let shown := context.renderReceived.showRender library bytes
      (shown, addItem (.inputImage shown.previewDataUrl))
    | none => (context.renderReceived, addItem (.inputText renderWarning))
  else (context, response)

/-- A call that the guardrails refuse is not dispatched. -/
def callTool (context : TurnContext) (guardrailError : Option String) (toolName : String)
    (arguments : JsonObject) (renders : Nat → Option Bytes) : ToolRun × Option String :=
  match guardrailError with
  | some text => (⟨toolErrorResponse text, context, []⟩, none)
  | none => dispatchTool library context toolName arguments renders

/-- `_handle_dynamic_tool_call_locked`, once the context of the turn is found. -/
def handleToolCall (context : TurnContext) (toolName : String) (arguments : JsonObject)
    (renders : Nat → Option Bytes) : ToolRun :=
  let (counted, guardrailError) := registerToolCallProgress library context toolName
  let (called, toolStatusMessage) := callTool library counted guardrailError toolName arguments renders
  let message := toolProgressMessage called.context toolName called.response toolStatusMessage
  let (rendered, response) := awaitLateRender library called.context toolName called.response (renders 0)
  { response := response
    context := rendered
    effects := .context counted :: called.effects ++ [.status message toolName, .context rendered] }

end Handle

/-- What can happen to a registered context. -/
inductive TurnEvent where
  | toolCall (toolName : String) (arguments : JsonObject) (renders : Nat → Option Bytes)
  | renderCallback (bytes : Bytes)

def turnStep (library : ToolLibrary) (context : TurnContext) : TurnEvent → TurnContext
  | .toolCall toolName arguments renders => (handleToolCall library context toolName arguments renders).context
  | .renderCallback bytes => { context with renderedPreviewBytes := some bytes }

def Registered (context : TurnContext) : Prop :=
  ∃ request previewDataUrl previewMimeType previewBytes,
    context = registerTurnContext request previewDataUrl previewMimeType previewBytes

section Reachable

variable {library : ToolLibrary} {context : TurnContext}

theorem registerToolCallProgress_sameEdits (library : ToolLibrary) (context : TurnContext) (toolName : String) :
    SameEdits context (registerToolCallProgress library context toolName).1 := by
  simp only [registerToolCallProgress]
  split_ifs <;> exact ⟨rfl, rfl, rfl, rfl, rfl, rfl, rfl⟩

theorem awaitLateRender_sameEdits (library : ToolLibrary) (context : TurnContext) (toolName : String)
    (response : ToolResponse) (delivered : Option Bytes) :
    SameEdits context (awaitLateRender library context toolName response delivered).1 := by
  unfold awaitLateRender
  by_cases awaited : (context.requiresRenderCallback && toolName != toolApplyOperations) = true
  · rw [if_pos awaited]
    cases delivered.filter (· ≠ []) <;> exact ⟨rfl, rfl, rfl, rfl, rfl, rfl, rfl⟩
  · rw [if_neg awaited]
    exact SameEdits.refl context

/-- The outcomes of `apply_operations`: the call is refused and nothing happens, or a batch that the
simulation accepted is applied to its end. -/
theorem applyOperationsToolCall_cases (library : ToolLibrary) (context : TurnContext) (arguments : JsonObject)
    (renders : Nat → Option Bytes) :
    let called := applyOperationsToolCall library context arguments renders
    (called.response.success = false ∧ called.context = context ∧ called.effects = []) ∨
      ∃ prepared settings, context.liveRunEnabled = true ∧
        prepareApplyBatch library context arguments = .ok prepared ∧
        applyBatch context.settingById (orderOperationsForApply library.lower prepared.normalizedBatch) =
          .ok settings ∧
        called.response.success = true ∧
        ∃ batch, batch = runLiveBatch library renders
            (orderOperationsForApply library.lower prepared.normalizedBatch).length 1 context
            (orderOperationsForApply library.lower prepared.normalizedBatch) ∧
          called.context = batch.context ∧ called.effects = batch.effects := by
  simp only [applyOperationsToolCall]
  cases live : context.liveRunEnabled with
  | false => exact .inl ⟨rfl, rfl, rfl⟩
  | true =>
    cases prepares : prepareApplyBatch library context arguments with
    | error text => exact .inl ⟨rfl, rfl, rfl⟩
    | ok prepared =>
      cases simulated : applyBatch context.settingById
          (orderOperationsForApply library.lower prepared.normalizedBatch) with
      | error text => simp [simulated, toolErrorResponse]
      | ok settings =>
        have done := runLiveBatch_done library renders
          (orderOperationsForApply library.lower prepared.normalizedBatch).length 1 simulated
        refine .inr ⟨prepared, settings, rfl, rfl, simulated, ?_, _, rfl, ?_, ?_⟩ <;>
          simp [simulated, done.failure]

/-- What a tool call does to the edits: nothing, or one simulated batch. -/
theorem handleToolCall_cases (library : ToolLibrary) (context : TurnContext) (toolName : String) (arguments : JsonObject)
    (renders : Nat → Option Bytes) :
    SameEdits context (handleToolCall library context toolName arguments renders).context ∨
      ∃ before operations settings batch, SameEdits context before ∧ context.liveRunEnabled = true ∧
        applyBatch before.settingById operations = .ok settings ∧
        batch = runLiveBatch library renders operations.length 1 before operations ∧
        SameEdits batch.context (handleToolCall library context toolName arguments renders).context := by
  let counted := registerToolCallProgress library context toolName
  have sameCounted : SameEdits context counted.1 := registerToolCallProgress_sameEdits library context toolName
  let called := (callTool library counted.1 counted.2 toolName arguments renders).1
  have sameRendered : SameEdits called.context (handleToolCall library context toolName arguments renders).context :=
    awaitLateRender_sameEdits library called.context toolName called.response (renders 0)
  have quiet (unchanged : called.context = counted.1) :
      SameEdits context (handleToolCall library context toolName arguments renders).context :=
    sameCounted.trans (unchanged ▸ sameRendered)
  -- only a live `apply_operations` that the simulation accepts gets past `quiet`
  cases guardrail : counted.2 with
  | some text => exact .inl (quiet (by simp [called, guardrail, callTool]))
  | none =>
    have dispatched : called = (dispatchTool library counted.1 toolName arguments renders).1 := by
      simp [called, guardrail, callTool]
    unfold dispatchTool at dispatched
    split_ifs at dispatched with preview state playbook apply
    · exact .inl (quiet (by rw [dispatched]))
    · exact .inl (quiet (by rw [dispatched]))
    · exact .inl (quiet (by rw [dispatched]))
    · rcases applyOperationsToolCall_cases library counted.1 arguments renders with
        ⟨-, unchanged, -⟩ | ⟨prepared, settings, live, -, simulated, -, batch, ran, left, -⟩
      · exact .inl (quiet (by rw [dispatched]; exact unchanged))
      · refine .inr ⟨counted.1, _, settings, batch, sameCounted, ?_, simulated, ran, ?_⟩
        · exact sameCounted.liveRunEnabled ▸ live
        · have after : called.context = batch.context := (congrArg ToolRun.context dispatched).trans left
          exact after ▸ sameRendered
    · exact .inl (quiet (by rw [dispatched]))

theorem registerTurnContext_described {context : TurnContext} (registered : Registered context) :
    SettingMapDescribed context.settingById := by
  obtain ⟨request, previewDataUrl, previewMimeType, previewBytes, rfl⟩ := registered
  exact fun settingId setting found => (settingById_described request found).1

theorem turnStep_described (described : SettingMapDescribed context.settingById) (event : TurnEvent) :
    SettingMapDescribed (turnStep library context event).settingById := by
  cases event with
  | renderCallback bytes => exact described
  | toolCall toolName arguments renders =>
    rcases handleToolCall_cases library context toolName arguments renders with
      same | ⟨before, operations, settings, batch, sameBefore, -, simulated, rfl, sameAfter⟩
    · rw [turnStep, same.settingById]
      exact described
    · rw [turnStep, sameAfter.settingById, (runLiveBatch_done library renders operations.length 1 simulated).settingById]
      exact applyBatch_described (sameBefore.settingById ▸ described) simulated

/-- The contexts that tool calls and render callbacks can make of a registered one. -/
def ReachableContext (library : ToolLibrary) (context : TurnContext) : Prop :=
  Reachable (turnStep library) Registered context

theorem ReachableContext.described (reachable : ReachableContext library context) :
    SettingMapDescribed context.settingById :=
  invariant_of_reachable (fun context => SettingMapDescribed context.settingById) reachable
    (fun _ => registerTurnContext_described) fun _ event described => turnStep_described described event

end Reachable

structure EditsUnchanged (before after : TurnContext) : Prop where
  settingById : after.settingById = before.settingById
  appliedOperations : after.appliedOperations = before.appliedOperations
  nextOperationSequence : after.nextOperationSequence = before.nextOperationSequence
  imageRevisionId : after.imageRevisionId = before.imageRevisionId

/-- The settings are the fold of the batch over the old ones, and the batch is recorded as it is. -/
structure BatchApplied (before after : TurnContext) (orderedBatch : List OperationDict) : Prop where
  fold : applyBatch before.settingById orderedBatch = .ok after.settingById
  untouched : ∀ settingId, (∀ operation ∈ orderedBatch, operation.settingId ≠ settingId) →
    after.settingById.get? settingId = before.settingById.get? settingId
  touched : ∀ operation ∈ orderedBatch, ∃ setting,
    after.settingById.get? operation.settingId = some setting ∧ setting.Within
  appliedOperations : after.appliedOperations = before.appliedOperations ++ orderedBatch

/-- `apply_operations` does all of a batch or nothing, and what the simulation accepts cannot fail
when it is applied. -/
theorem applyOperationsToolCall_allOrNothing {library : ToolLibrary} {context : TurnContext}
    (reachable : ReachableContext library context) (arguments : JsonObject) (renders : Nat → Option Bytes) :
    let called := applyOperationsToolCall library context arguments renders
    (called.response.success = false → EditsUnchanged context called.context) ∧
      (called.response.success = true → ∃ prepared, prepareApplyBatch library context arguments = .ok prepared ∧
        BatchApplied context called.context (orderOperationsForApply library.lower prepared.normalizedBatch)) ∧
      ∀ operations settings, applyBatch context.settingById operations = .ok settings →
        (runLiveBatch library renders operations.length 1 context operations).failure = none := by
  intro called
  refine ⟨fun refused => ?_, fun succeeded => ?_, fun operations settings simulated =>
    (runLiveBatch_done library renders operations.length 1 simulated).failure⟩
  · rcases applyOperationsToolCall_cases library context arguments renders with
      ⟨-, unchanged, -⟩ | ⟨_, _, -, -, -, succeeded, -⟩
    · have same : called.context = context := unchanged
      rw [same]
      exact ⟨rfl, rfl, rfl, rfl⟩
    · exact absurd (refused.symm.trans succeeded) (by decide)
  · rcases applyOperationsToolCall_cases library context arguments renders with
      ⟨refused, -⟩ | ⟨prepared, settings, -, prepares, simulated, -, batch, ran, left, -⟩
    · exact absurd (succeeded.symm.trans refused) (by decide)
    · have done := ran ▸ runLiveBatch_done library renders _ 1 simulated
      have after : called.context = batch.context := left
      refine ⟨prepared, prepares, ?_, ?_, ?_, ?_⟩
      · rw [after, done.settingById, simulated]
      · intro settingId untouched
        rw [after, done.settingById]
        exact applyBatch_untouched simulated untouched
      · intro operation member
        rw [after, done.settingById]
        exact applyBatch_within reachable.described simulated ⟨operation, member, rfl⟩
      · rw [after, done.appliedOperations]

/-! A request to raise the exposure, against libraries that read numbers as they are. -/

def plainSchemaLibrary : SchemaLibrary where
  number
    | .real value => some value
    | .int value => some value
    | _ => none
  integer
    | .int value => some value
    | _ => none
  boolean
    | .bool value => some value
    | _ => none
  explain _ := "invalid"

def plainToolLibrary : ToolLibrary where
  schema := plainSchemaLibrary
  lower := id
  fixed3 _ := "1.000"
  signed3 _ := "+1.000"
  dataUrl _ token := "data:image/jpeg;x-darktable-stage=" ++ token
  verify _ _ _ := ⟨"unavailable", "", ""⟩
  loadPlaybook _ := .error "unknown playbook"
  stateText revision _ := revision
  maxToolCallsWithoutApply := 5
  maxConsecutiveReadOnlyToolCalls := 4

def exposureContext : TurnContext := registerTurnContext exposureRequest "data:image/jpeg;base64," "image/jpeg" []

/-- Two raw operations; the second asks for more than the slider allows. -/
def raiseExposure : JsonObject :=
  let raise (mode : String) (number : ℚ) : Json := .obj [("kind", .str "set-float"),
    ("target", .obj [("type", .str "darktable-action"), ("actionPath", .str "iop/exposure/exposure"),
      ("settingId", .str "setting.exposure")]),
    ("value", .obj [("mode", .str mode), ("number", .real number)])]
  [("operations", .arr [raise "delta" 1, raise "set" 9])]

theorem applyOperationsToolCall_raiseExposure :
    (applyOperationsToolCall plainToolLibrary exposureContext raiseExposure fun _ => none).response.success = true ∧
      ∃ prepared, prepareApplyBatch plainToolLibrary exposureContext raiseExposure = .ok prepared ∧
        BatchApplied exposureContext
          (applyOperationsToolCall plainToolLibrary exposureContext raiseExposure fun _ => none).context
          (orderOperationsForApply plainToolLibrary.lower prepared.normalizedBatch) := by
  have reachable : ReachableContext plainToolLibrary exposureContext :=
    ⟨exposureContext, ⟨exposureRequest, _, _, _, rfl⟩, [], rfl⟩
  have succeeded :
      (applyOperationsToolCall plainToolLibrary exposureContext raiseExposure fun _ => none).response.success = true := by
    decide +kernel
  exact ⟨succeeded, (applyOperationsToolCall_allOrNothing reachable raiseExposure fun _ => none).2.1 succeeded⟩

end DarktableAgent.Server
