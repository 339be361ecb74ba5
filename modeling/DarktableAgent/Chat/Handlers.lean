import DarktableAgent.Chat.Panel

/-! The two callbacks of a request: one for each progress snapshot, one for the result. -/

set_option autoImplicit false

namespace DarktableAgent.Chat

open Foundation Protocol Client

section Progress

variable {κ ν W : Type} [Numeric ν] (host : Host κ ν W)

/-- The panel takes no snapshots now: it is single-turn, not loading, without a handle or cancelling. -/
def AgentChat.ignoresProgress (chat : AgentChat) : Bool :=
  !chat.preferences.multiTurnEnabled || !chat.isLoading || chat.active.handle.isNone || chat.active.canceling

/-- The snapshot is an error or a cancellation notice and is passed over. -/
def passedOver (progress : ClientProgress ν) : Bool :=
  progress.cancelled || progress.transportError.any (· ≠ "")

/-- `live_edit_count` -/
def liveEditCount (progress : ClientProgress ν) : Nat :=
  match progress.response with
  | some response => response.operations.length
  | none => progress.appliedOperationCount

namespace Panel

variable (panel : Panel κ ν) (origin : ChatSubmission) (progress : ClientProgress ν)

/-- The operations of the snapshot that were not executed before; none while the darkroom is hidden. -/
def pendingOperations : Option (List (ChatOperation ν)) :=
  match progress.response with
  | none => none
  | some response =>
    if panel.develop.visible ∧ panel.chat.active.liveAppliedCount < response.operations.length then
      some (response.operations.drop panel.chat.active.liveAppliedCount)
    else none

def countToolCalls : Panel κ ν :=
  panel.onChat fun chat => { chat with active := { chat.active with
    toolCallsUsed := progress.toolCallsUsed
    toolCallsMax := if 0 < progress.toolCallsMax then progress.toolCallsMax else chat.active.toolCallsMax } }

def countLiveEdits : Panel κ ν :=
  panel.onChat fun chat => { chat with active := { chat.active with liveAppliedCount := liveEditCount progress } }

def armRender : Panel κ ν :=
  if progress.requiresRenderCallback then
    panel.onCurrentSession fun session => { session with pendingMidTurnRender := true }
  else panel

/-- The line about the last tool call, given the counters from before the snapshot. -/
def announceToolCall (before : ActiveRequest) : Panel κ ν :=
  panel.onChat fun chat =>
    if ¬ panel.develop.visible then chat
    else
      match host.toolProgressMessage progress before.toolCallsUsed before.liveAppliedCount (liveEditCount progress) with
      | some message => if message = "" then chat else chat.appendMessage "system" message
      | none => chat

def showRefinement : Panel κ ν :=
  panel.onChat fun chat =>
    chat.updateRefinementStatus (max 1 chat.active.refinementPassIndex) (max 1 chat.active.refinementMaxPasses)

/-- A snapshot whose operations could not all be applied cancels the active request. -/
def failLiveApply (error : Option String) : Panel κ ν :=
  let panel := panel.onChat fun chat =>
    (chat.setError (error.getD "failed to apply live edits")).setStatus "Live apply failed"
  panel.cancelActiveRequest "Live apply failed" "apply-failed"

/-- `_agent_chat_progress_finished`. The C function drops the submission it is handed; here it only names
the batch in the log. -/
def progressFinished : Panel κ ν :=
  if panel.chat.ignoresProgress ∨ passedOver progress then panel
  else if ¬ progress.found then panel.showRefinement
  else
    let before := panel.chat.active
    match panel.pendingOperations progress with
    | none => ((panel.countToolCalls progress).announceToolCall host progress before).showRefinement
    | some operations =>
      let panel := panel.countToolCalls progress
      let execution := panel.execution host operations
      let panel := panel.afterExecution host origin operations
      if execution.ok then
        (((panel.countLiveEdits progress).armRender progress).announceToolCall host progress before).showRefinement
      else panel.failLiveApply execution.error

end Panel

end Progress

section Result

variable {κ ν W : Type} [Numeric ν] (host : Host κ ν W)

namespace AgentChat

variable (chat : AgentChat) (submission : ChatSubmission)

/-- `_agent_chat_submission_matches_active_request` -/
def matchesActiveRequest : Bool := chat.active.requestId = some submission.requestId

/-- `_agent_chat_submission_matches_current_session` -/
def matchesCurrentSession : Bool :=
  chat.conversationId = some submission.conversationId && chat.imageSessionId = some submission.imageSessionId

/-- `_agent_chat_lookup_submission_session`: the image whose stored session the submission belongs to. -/
def submissionImage : Option Int :=
  if submission.hasImageId ∧ 0 < submission.imageId then some submission.imageId
  else (chat.imageSessions.entries.find? fun entry => entry.2.imageSessionId = submission.imageSessionId).map (·.1)

def onSubmissionSession (change : ChatSession → ChatSession) : AgentChat :=
  { chat with imageSessions :=
      match chat.submissionImage submission with
      | some imageId => changeEntry chat.imageSessions imageId change
      | none => chat.imageSessions }

/-- How many operations of the submission's request were executed from snapshots. -/
def liveAppliedFor : Nat := if chat.matchesActiveRequest submission then chat.active.liveAppliedCount else 0

end AgentChat

/-- What a session keeps of a result. -/
def recordResult (submission : ChatSubmission) (result : ClientResult ν) (session : ChatSession) : ChatSession :=
  let session := { session with isLoading := false, lastFastModeEnabled := submission.fastModeEnabled }
  match result.response with
  | none => session
  | some response => { session with
      lastRefinementPassIndex := response.refinementPassIndex
      lastRefinementMaxPasses := response.refinementMaxPasses
      lastContinueRefining := response.refinementContinue
      lastRefinementEnabled := response.refinementEnabled
      refinementStopReason := response.refinementStopReason }

/-- `_agent_chat_is_stale_response` -/
def isStaleResponse (chat : AgentChat) (develop : Develop κ) (submission : ChatSubmission)
    (result : ClientResult ν) : Bool :=
  chat.active.requestId.any (· ≠ submission.requestId)
    || chat.conversationId ≠ some submission.conversationId
    || chat.imageSessionId ≠ some submission.imageSessionId
    || (submission.hasImageId && develop.imageId ≠ submission.imageId)
    || result.response.any fun response =>
      response.requestId ≠ submission.requestId || response.conversationId ≠ submission.conversationId

/-- `allow_live_revision_mismatch` -/
def allowLiveRevisionMismatch (submission : ChatSubmission) (response : ChatResponse ν) (liveApplied : Nat) : Bool :=
  submission.refinementEnabled && decide (0 < liveApplied) && response.refinementMode = some .multiTurn

/-- An ok response was planned for another revision of the image. -/
def revisionMismatch (develop : Develop κ) (submission : ChatSubmission) (result : ClientResult ν)
    (liveApplied : Nat) : Bool :=
  result.response.any fun response =>
    response.status = "ok" && response.baseImageRevisionId ≠ some (currentImageRevisionId host develop)
      && !allowLiveRevisionMismatch submission response liveApplied

/-- `_agent_chat_should_continue_refinement` -/
def shouldContinueRefinement (submission : ChatSubmission) (response : ChatResponse ν) : Bool :=
  submission.refinementEnabled && response.status = "ok" && response.refinementMode = some .multiTurn
    && response.refinementContinue && decide (response.refinementPassIndex < response.refinementMaxPasses)

namespace Panel

variable (panel : Panel κ ν) (submission : ChatSubmission) (result : ClientResult ν)

/-- A cancelled result touches the panel only for the active request. -/
def finishCancelled (isActive : Bool) : Panel κ ν :=
  panel.onChat fun chat =>
    if ¬ isActive then chat
    else
      let chat := chat.onSubmissionSession submission fun session =>
        { session with errorText := "", statusText := "Request canceled", refinementStopReason := some "cancelled" }
      if chat.matchesCurrentSession submission then
        ((chat.setError "").setLoading false).setStatus "Request canceled"
      else chat

def finishStale : Panel κ ν :=
  panel.onChat fun chat =>
    let chat := chat.onSubmissionSession submission fun session =>
      { session with statusText := "Ignored stale response", refinementStopReason := some "stale" }
    if chat.matchesCurrentSession submission then (chat.setLoading false).setStatus "Ignored stale response"
    else chat

def mismatchMessage : String := "image changed while the agent was planning; response was ignored"

def finishMismatch : Panel κ ν :=
  panel.onChat fun chat =>
    let chat := chat.onSubmissionSession submission fun session =>
      { session with
        errorText := mismatchMessage
        statusText := "Image changed"
        refinementStopReason := some "revision-mismatch" }
    if panel.develop.visible ∧ chat.matchesCurrentSession submission then
      ((chat.setError mismatchMessage).setStatus "Image changed").appendMessage "system" mismatchMessage
    else chat

/-- What the stored session says about a result that arrives while the darkroom is hidden. -/
def hiddenOutcome (session : ChatSession) : ChatSession :=
  match result.transportError, result.response with
  | some message, _ => failed message
  | none, none => failed "failed to contact the agent server"
  | none, some response =>
    let session := { session with errorText := "" }
    let session :=
      if response.messageText = "" then session
      else { session with transcript := transcriptWith session.transcript "assistant" response.messageText }
    if response.status = "error" then
      let message := response.errorMessage.getD "agent server returned an error"
      { session with
        errorText := message
        statusText := "Server error"
        refinementStopReason := some "server-error" }
    else if response.operations ≠ [] then
      { session with
        statusText := "darkroom must be active to apply agent changes"
        refinementStopReason := some "deferred" }
    else { session with statusText :=
      if response.refinementMode = some .multiTurn then "Agent run complete" else "Response received" }
where
  failed (message : String) : ChatSession :=
    { session with
      errorText := message
      statusText := "Request failed"
      refinementStopReason := some "transport-error"
      transcript := transcriptWith session.transcript "assistant" message }

def finishHidden : Panel κ ν :=
  panel.onChat fun chat => chat.onSubmissionSession submission (hiddenOutcome result)

def appendSummary (report : ExecutionReport ν) : Panel κ ν :=
  panel.onChat fun chat =>
    if report.results = [] then chat else chat.appendMessage "system" (host.operationSummary report)

/-- The panel after a response, and whether the response was handled without an error. -/
structure Handled (κ ν : Type) where
  panel : Panel κ ν
  ok : Bool

/-- The rest of the operations is executed. -/
def applyRest (operations : List (ChatOperation ν)) : Handled κ ν :=
  let execution := panel.execution host operations
  let panel := panel.afterExecution host submission operations
  if execution.ok then
    let panel := panel.appendSummary host execution.report
    ⟨panel.onChat (·.setStatus ("Applied " ++ toString execution.report.appliedCount ++
      if execution.report.appliedCount = 1 then " operation" else " operations")), true⟩
  else
    let message := execution.error.getD "failed to apply agent changes"
    let panel := panel.onChat fun chat => (chat.setError message).setStatus "Apply failed"
    ⟨(panel.appendSummary host execution.report).onChat (·.appendMessage "system" message), false⟩

/-- `_agent_chat_handle_response` -/
def handleResponse (response : ChatResponse ν) (alreadyAppliedCount : Nat) : Handled κ ν :=
  let panel := panel.onChat fun chat =>
    if response.messageText = "" then chat else chat.appendMessage "assistant" response.messageText
  if response.status = "error" then
    let message := response.errorMessage.getD "agent server returned an error"
    ⟨panel.onChat fun chat => (chat.setError message).setStatus "Server error", false⟩
  -- the count of live edits is cut to the number of operations
  else if response.operations.length ≤ min alreadyAppliedCount response.operations.length then
    ⟨panel.onChat (·.setStatus "Response received"), true⟩
  else panel.applyRest host submission (response.operations.drop (min alreadyAppliedCount response.operations.length))

/-- What `_agent_chat_continue_refinement` submits. -/
def continuation (response : ChatResponse ν) : SubmitArguments where
  prompt := submission.promptText
  goalText := submission.goalText
  appendUserMessage := false
  fastModeEnabled := submission.fastModeEnabled
  refinementMode := .multiTurn
  refinementPassIndex := response.refinementPassIndex + 1
  refinementMaxPasses := max submission.refinementMaxPasses response.refinementMaxPasses

/-- `_agent_chat_continue_refinement` -/
def continueRefinement (response : ChatResponse ν) (outcome : SubmitOutcome) : Submitted κ ν :=
  if ¬ shouldContinueRefinement submission response then ⟨panel, false⟩
  else
    let next := continuation submission response
    let panel := panel.onChat (·.appendMessage "system" ("Continuing refinement pass "
      ++ toString next.refinementPassIndex ++ "/" ++ toString next.refinementMaxPasses))
    panel.submitInternal host next outcome

def finishVisible (response : ChatResponse ν) (liveApplied : Nat) (outcome : SubmitOutcome) : Panel κ ν :=
  let panel := panel.onChat (·.setError "")
  let handled := panel.handleResponse host submission response liveApplied
  if ¬ handled.ok then handled.panel
  else
    let continued := handled.panel.continueRefinement host submission response outcome
    if continued.sent ∨ response.refinementMode ≠ some .multiTurn then continued.panel
    else continued.panel.onChat (·.setStatus "Agent run complete")

/-- The part of `_agent_chat_request_finished` behind the cancellation and staleness checks. -/
def finishCurrent (liveApplied : Nat) (outcome : SubmitOutcome) : Panel κ ν :=
  let panel := panel.onChat fun chat =>
    if chat.matchesCurrentSession submission then chat.setLoading false else chat
  if revisionMismatch host panel.develop submission result liveApplied then panel.finishMismatch submission
  else if ¬ panel.develop.visible then panel.finishHidden submission result
  else
    match result.transportError, result.response with
    | none, some response => panel.finishVisible host submission response liveApplied outcome
    -- a transport error comes before a response, and without either there is a message all the same
    | error, _ => panel.handleTransportError error

/-- The request is no longer active, and its session keeps what the result says. -/
def settle : Panel κ ν :=
  panel.onChat fun chat =>
    (if chat.matchesActiveRequest submission then chat.clearActiveRequest else chat).onSubmissionSession submission
      (recordResult submission result)

/-- `_agent_chat_request_finished` -/
def requestFinished (outcome : SubmitOutcome) : Panel κ ν :=
  let isActive := panel.chat.matchesActiveRequest submission
  let liveApplied := panel.chat.liveAppliedFor submission
  let panel := panel.settle submission result
  if result.cancelled then panel.finishCancelled submission isActive
  -- while the darkroom is hidden, no result is stale
  else if panel.develop.visible ∧ isStaleResponse panel.chat panel.develop submission result then
    panel.finishStale submission
  else panel.finishCurrent host submission result liveApplied outcome

end Panel

end Result

end DarktableAgent.Chat
