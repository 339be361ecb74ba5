import DarktableAgent.Server.ApplyBatch

/-! `apply_operations`: one batch of live edits.

The batch is tried on a copy of the settings and then applied operation by
operation, waiting for a render behind every step. A run of the tool lists its
effects in the order in which a concurrent reader can see them.
-/

set_option autoImplicit false

namespace DarktableAgent.Server

open Foundation Protocol

inductive ContentItem where
  | inputText (text : String)
  | inputImage (imageUrl : String)
  deriving DecidableEq

structure ToolResponse where
  success : Bool
  contentItems : List ContentItem

/-- `_tool_error_response` -/
def toolErrorResponse (message : String) : ToolResponse := ⟨false, [.inputText message]⟩

/-- A visible change: the context, or a status note on the active request of the turn. -/
inductive LiveEffect where
  | context (context : TurnContext)
  | status (message lastToolName : String)

structure ToolRun where
  response : ToolResponse
  context : TurnContext
  effects : List LiveEffect

def toolApplyOperations : String := "apply_operations"

section Step

variable (library : ToolLibrary)

/-- `_summarize_live_operation`; the compact settings carry no label of their own. -/
def summarizeLiveOperation (context : TurnContext) (operation : OperationDict) : String :=
  let moduleLabel := ((context.settingById.get? operation.settingId).map (·.moduleLabel)).getD ""
  let parts := [moduleLabel, pathLeaf operation.actionPath].filter (· ≠ "")
  let label := if parts = [] then operation.actionPath else String.intercalate " / " parts
  match operation.kind, operation.value.number, operation.value.choiceValue, operation.value.boolValue with
  | .setFloat, some number, _, _ =>
    if operation.value.mode = .delta then label ++ " " ++ library.signed3 number
    else label ++ " = " ++ library.fixed3 number
  | .setChoice, _, choiceValue, _ =>
    match operation.value.choiceId.filter (· ≠ ""), choiceValue with
    | some choiceId, _ => label ++ " -> " ++ choiceId
    | none, some choiceValue => label ++ " -> choice " ++ toString choiceValue
    | none, none => label
  | .setBool, _, _, some boolValue => label ++ " -> " ++ (if boolValue then "on" else "off")
  | _, _, _, _ => label

/-- `_apply_live_operation_step` -/
def applyLiveOperationStep (context : TurnContext) (operation : OperationDict) : Except String TurnContext :=
  (applyOperationToSettings context.settingById operation).map fun (settings, _) =>
    let applied := context.appliedOperations ++ [operation]
    { context with
      settingById := settings
      appliedOperations := applied
      nextOperationSequence := context.nextOperationSequence + 1
      lastAppliedBatch := [operation]
      imageRevisionId := context.baseImageRevisionId ++ ":tool-" ++ toString applied.length
      requiresRenderCallback := true
      renderedPreviewBytes := none }

/-- What waiting for a render yields. -/
structure RenderResult where
  previewUrl : Option String := none
  verifier : Option VerifierResult := none
  warning : Option String := none

def renderWarning : String := "Warning: mid-turn render timed out. The preview image may be stale."

/-- The preview that a render callback delivered. -/
def TurnContext.showRender (context : TurnContext) (bytes : Bytes) : TurnContext :=
  { context with
    previewMimeType := "image/jpeg"
    currentPreviewBytes := bytes
    previewDataUrl := library.dataUrl bytes (toString context.appliedOperations.length) }

def TurnContext.renderReceived (context : TurnContext) : TurnContext :=
  { context with requiresRenderCallback := false, renderedPreviewBytes := none }

/-- `_build_live_verifier_feedback` -/
def buildLiveVerifierFeedback (context : TurnContext) : TurnContext × VerifierResult :=
  let result := library.verify context.basePreviewBytes context.currentPreviewBytes context.lastAppliedBatch
  ({ context with lastVerifierStatus := some result.status, lastVerifierSummary := some result.summary }, result)

/-- `_wait_for_live_render`: the callback delivers bytes, or the wait times out. -/
def waitForLiveRender (context : TurnContext) (delivered : Option Bytes) : TurnContext × RenderResult :=
  match delivered.filter (· ≠ []) with
  | some bytes =>
    let shown := context.renderReceived.showRender library bytes
    let (verified, result) := buildLiveVerifierFeedback library shown
    (verified, { previewUrl := some shown.previewDataUrl, verifier := some result })
  | none => (context.renderReceived, { warning := some renderWarning })

def TurnContext.withSummary (context : TurnContext) (summary : String) : TurnContext :=
  { context with lastAppliedSummary := some summary }

structure LiveStep where
  operation : OperationDict
  summary : String
  render : RenderResult

/-- The loop over the ordered batch: the steps taken, the context it leaves, and the error that
stopped it, if one did. -/
structure LiveBatch where
  context : TurnContext
  steps : List LiveStep
  effects : List LiveEffect
  failure : Option String

def runLiveBatch (renders : Nat → Option Bytes) (total stepIndex : Nat) (context : TurnContext) :
    List OperationDict → LiveBatch
  | [] => ⟨context, [], [], none⟩
  | operation :: rest =>
    match applyLiveOperationStep context operation with
    | .error text => ⟨context, [], [], some text⟩
    | .ok staged =>
      let summary := summarizeLiveOperation library staged operation
      let summarized := staged.withSummary summary
      let message := "Applied live edit step " ++ toString stepIndex ++ "/" ++ toString total ++ ": " ++ summary
      let (rendered, render) := waitForLiveRender library summarized (renders stepIndex)
      let batch := runLiveBatch renders total (stepIndex + 1) rendered rest
      -- the operation is in the list before the render flag is up
      let appended := { context with
        settingById := staged.settingById, appliedOperations := staged.appliedOperations }
      { batch with
        steps := ⟨operation, summary, render⟩ :: batch.steps
        effects := [.context appended, .context summarized, .status message toolApplyOperations,
          .context rendered] ++ batch.effects }

def successItems (context : TurnContext) (renderWarnings : List String) (steps : List LiveStep) :
    List ContentItem :=
  let text := "Applied " ++ toString steps.length ++ " operations stepwise in this call; "
    ++ toString context.appliedOperations.length ++ " total live edits applied. Steps: "
    ++ String.intercalate "; " (steps.map (·.summary)) ++ ". Refreshed preview image included below."
  let previewUrl := (steps.filterMap (·.render.previewUrl)).getLast?
  let verifier := (steps.filterMap (·.render.verifier)).getLast?
  let warnings := renderWarnings ++ steps.filterMap (·.render.warning)
  [.inputText text] ++ previewUrl.toList.map .inputImage ++ warnings.map .inputText
    ++ verifier.toList.map fun result => .inputText result.feedbackText

/-- `_apply_operations_tool_call` -/
def applyOperationsToolCall (context : TurnContext) (arguments : JsonObject) (renders : Nat → Option Bytes) :
    ToolRun :=
  let refused (text : String) : ToolRun := ⟨toolErrorResponse text, context, []⟩
  if !context.liveRunEnabled then
    refused "apply_operations is only available when live run mode is enabled."
  else match prepareApplyBatch library context arguments with
    | .error text => refused text
    | .ok prepared =>
      let orderedBatch := orderOperationsForApply library.lower prepared.normalizedBatch
      match applyBatch context.settingById orderedBatch with
      | .error text => refused text
      | .ok _ =>
        let batch := runLiveBatch library renders orderedBatch.length 1 context orderedBatch
        match batch.failure with
        | some text => ⟨toolErrorResponse text, batch.context, batch.effects⟩
        | none => ⟨⟨true, successItems batch.context prepared.renderWarnings batch.steps⟩, batch.context,
            batch.effects⟩

end Step

section Frame

variable {library : ToolLibrary} {context : TurnContext}

/-- The part of a context that rendering and status texts leave alone. -/
structure SameEdits (before after : TurnContext) : Prop where
  settingById : after.settingById = before.settingById
  appliedOperations : after.appliedOperations = before.appliedOperations
  nextOperationSequence : after.nextOperationSequence = before.nextOperationSequence
  imageRevisionId : after.imageRevisionId = before.imageRevisionId
  baseImageRevisionId : after.baseImageRevisionId = before.baseImageRevisionId
  liveRunEnabled : after.liveRunEnabled = before.liveRunEnabled
  baseRequest : after.baseRequest = before.baseRequest

theorem SameEdits.refl (context : TurnContext) : SameEdits context context :=
  ⟨rfl, rfl, rfl, rfl, rfl, rfl, rfl⟩

theorem SameEdits.trans {first second third : TurnContext} (left : SameEdits first second)
    (right : SameEdits second third) : SameEdits first third :=
  ⟨right.settingById.trans left.settingById, right.appliedOperations.trans left.appliedOperations,
    right.nextOperationSequence.trans left.nextOperationSequence,
    right.imageRevisionId.trans left.imageRevisionId,
    right.baseImageRevisionId.trans left.baseImageRevisionId,
    right.liveRunEnabled.trans left.liveRunEnabled, right.baseRequest.trans left.baseRequest⟩

theorem waitForLiveRender_sameEdits (library : ToolLibrary) (context : TurnContext) (delivered : Option Bytes) :
    SameEdits context (waitForLiveRender library context delivered).1 := by
  unfold waitForLiveRender
  cases delivered.filter (· ≠ []) with
  | none => exact ⟨rfl, rfl, rfl, rfl, rfl, rfl, rfl⟩
  | some bytes => exact ⟨rfl, rfl, rfl, rfl, rfl, rfl, rfl⟩

/-- What a live step does to the edits, and that it fails exactly when the operation does. -/
theorem applyLiveOperationStep_ok {operation : OperationDict} {settings : SettingMap} {applied : AppliedOperation}
    (accepted : applyOperationToSettings context.settingById operation = .ok (settings, applied)) :
    ∃ staged, applyLiveOperationStep context operation = .ok staged ∧
      staged.settingById = settings ∧
      staged.appliedOperations = context.appliedOperations ++ [operation] ∧
      staged.nextOperationSequence = context.nextOperationSequence + 1 ∧
      staged.baseImageRevisionId = context.baseImageRevisionId ∧
      staged.liveRunEnabled = context.liveRunEnabled ∧
      staged.baseRequest = context.baseRequest ∧
      staged.imageRevisionId = context.baseImageRevisionId ++ ":tool-" ++
        toString (context.appliedOperations.length + 1) := by
  rw [applyLiveOperationStep, accepted]
  exact ⟨_, rfl, rfl, rfl, rfl, rfl, rfl, rfl, by simp⟩

/-- A batch that the simulation accepted is applied to its end. -/
structure LiveBatchDone (context : TurnContext) (operations : List OperationDict) (settings : SettingMap)
    (batch : LiveBatch) : Prop where
  failure : batch.failure = none
  settingById : batch.context.settingById = settings
  appliedOperations : batch.context.appliedOperations = context.appliedOperations ++ operations
  nextOperationSequence : batch.context.nextOperationSequence =
    context.nextOperationSequence + operations.length
  baseImageRevisionId : batch.context.baseImageRevisionId = context.baseImageRevisionId
  liveRunEnabled : batch.context.liveRunEnabled = context.liveRunEnabled
  baseRequest : batch.context.baseRequest = context.baseRequest
  steps : batch.steps.map (·.operation) = operations

/-- The counters and the revision id change between the steps, but none of the checks reads them: the
live run repeats the simulation. -/
theorem runLiveBatch_done (library : ToolLibrary) (renders : Nat → Option Bytes) (total stepIndex : Nat)
    {operations : List OperationDict}
    {settings : SettingMap} (simulated : applyBatch context.settingById operations = .ok settings) :
    LiveBatchDone context operations settings (runLiveBatch library renders total stepIndex context operations) := by
  induction operations generalizing context stepIndex with
  | nil =>
    cases simulated
    exact ⟨rfl, rfl, (List.append_nil _).symm, rfl, rfl, rfl, rfl, rfl⟩
  | cons operation rest ih =>
    obtain ⟨middle, applied, first, others⟩ := applyBatch_cons simulated
    obtain ⟨staged, step, stagedSettings, stagedApplied, stagedNext, stagedBase, stagedLive, stagedRequest, -⟩ :=
      applyLiveOperationStep_ok first
    let summarized := staged.withSummary (summarizeLiveOperation library staged operation)
    have rendered := waitForLiveRender_sameEdits library summarized (renders stepIndex)
    have done := ih (stepIndex + 1) (by rw [rendered.settingById]; exact stagedSettings ▸ others)
    rw [runLiveBatch, step]
    refine ⟨done.failure, done.settingById, ?_, ?_, ?_, ?_, ?_, ?_⟩
    · rw [done.appliedOperations, rendered.appliedOperations]
      simp [summarized, TurnContext.withSummary, stagedApplied]
    · rw [done.nextOperationSequence, rendered.nextOperationSequence]
      simp [summarized, TurnContext.withSummary, stagedNext]
      omega
    · exact done.baseImageRevisionId.trans (rendered.baseImageRevisionId.trans stagedBase)
    · exact done.liveRunEnabled.trans (rendered.liveRunEnabled.trans stagedLive)
    · exact done.baseRequest.trans (rendered.baseRequest.trans stagedRequest)
    · exact congrArg (operation :: ·) done.steps

/-- Whatever a reader sees during a batch, and the context it leaves, extends what was applied before
and is a beginning of what is applied in the end. -/
theorem runLiveBatch_prefix (library : ToolLibrary) (renders : Nat → Option Bytes) (total stepIndex : Nat)
    (context : TurnContext)
    (operations : List OperationDict) :
    let batch := runLiveBatch library renders total stepIndex context operations
    context.appliedOperations <+: batch.context.appliedOperations ∧
      ∀ seen, .context seen ∈ batch.effects → seen.appliedOperations <+: batch.context.appliedOperations := by
  induction operations generalizing context stepIndex with
  | nil => exact ⟨List.prefix_rfl, by simp [runLiveBatch]⟩
  | cons operation rest ih =>
    simp only [runLiveBatch]
    cases accepted : applyOperationToSettings context.settingById operation with
    | error text =>
      have refused : applyLiveOperationStep context operation = .error text := by
        rw [applyLiveOperationStep, accepted]
        rfl
      rw [refused]
      exact ⟨List.prefix_rfl, by simp⟩
    | ok written =>
      obtain ⟨staged, step, -, stagedApplied, -⟩ := applyLiveOperationStep_ok accepted
      rw [step]
      let summarized := staged.withSummary (summarizeLiveOperation library staged operation)
      have rendered := waitForLiveRender_sameEdits library summarized (renders stepIndex)
      obtain ⟨fromRendered, seenLater⟩ :=
        ih (stepIndex + 1) (waitForLiveRender library summarized (renders stepIndex)).1
      have grows := fromRendered
      rw [rendered.appliedOperations] at grows
      refine ⟨(List.prefix_append _ [operation]).trans (stagedApplied ▸ grows), fun seen member => ?_⟩
      simp only [List.cons_append, List.nil_append, List.mem_cons, LiveEffect.context.injEq, reduceCtorEq,
        false_or] at member
      rcases member with rfl | rfl | rfl | later
      · exact grows
      · exact grows
      · exact fromRendered
      · exact seenLater seen later

end Frame

end DarktableAgent.Server
