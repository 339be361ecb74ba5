import DarktableAgent.Chat.Running
import DarktableAgent.Foundation.RefCount

/-! What is allocated for a request, and who frees it.

The panel and the job share a handle. A submission passes from the panel to the job, from
the job to the callback of the result, and is freed behind it. The calls of the panel, of
the jobs and of the main loop are listed beside the panel's own functions.
-/

set_option autoImplicit false

namespace DarktableAgent.Chat

open Foundation Protocol Client

/-- `dt_agent_client_request_t`; the count of its references is kept by the heap. -/
structure RequestHandle where
  ids : ClientRequest
  cancelRequested : Bool := false
  cancelNotified : Bool := false
  deriving DecidableEq, Repr

def RequestHandle.cancel (handle : RequestHandle) : RequestHandle :=
  { handle with cancelRequested := true, cancelNotified := true }

/-- `dt_agent_client_cancel_delivery_t`, which a thread of its own posts. -/
structure CancelDelivery where
  ids : ClientRequest
  reason : Option String
  deriving DecidableEq, Repr

/-- Handles and submissions are addressed by the id of their request. -/
structure ClientMemory where
  handles : RefHeap String RequestHandle
  submissions : RefHeap String Unit
  -- the jobs that were not destroyed yet
  jobs : List String
  cancelDeliveries : List CancelDelivery

inductive ClientCall where
  | newSubmission (requestId : String)
  | chatAsync (submission : ChatSubmission) (created : Bool)
  | requestCancel (requestId reason : String)
  | requestUnref (requestId : String)
  | readHandle (requestId : String)
  -- read, or handed to a callback
  | readSubmission (requestId : String)
  | freeSubmission (requestId : String)
  | jobDestroy (requestId : String)
  deriving DecidableEq, Repr

/-- What a handle copies from the request it is made for. The turn has the id of the request. -/
def handleIds (appSessionId : String) (submission : ChatSubmission) : ClientRequest where
  requestId := some submission.requestId
  appSessionId := some appSessionId
  imageSessionId := some submission.imageSessionId
  conversationId := some submission.conversationId
  turnId := some submission.requestId

namespace ClientMemory

def empty : ClientMemory := ⟨.empty, .empty, [], []⟩

variable (appSessionId : String) (memory : ClientMemory)

/-- `dt_agent_client_chat_async`; without a job nothing is kept. -/
def chatAsync (submission : ChatSubmission) (created : Bool) : Option ClientMemory := do
  let requestId := submission.requestId
  let handles := memory.handles.create requestId { ids := handleIds appSessionId submission }
  -- the reference of the job
  let handles ← handles.ref requestId
  if created then return { memory with handles, jobs := memory.jobs ++ [requestId] }
  else
    let handles ← handles.unref requestId
    let handles ← handles.unref requestId
    return { memory with handles }

/-- `dt_agent_client_request_cancel`; the thread gets copies of its own. -/
def requestCancel (requestId reason : String) : Option ClientMemory := do
  let handle ← memory.handles requestId
  let handles ← memory.handles.modify requestId RequestHandle.cancel
  return { memory with
    handles
    cancelDeliveries :=
      if handle.value.cancelNotified then memory.cancelDeliveries
      else memory.cancelDeliveries ++ [⟨handle.value.ids, some reason⟩] }

/-- A call, unless it is for something that was freed. -/
def perform : ClientCall → Option ClientMemory
  | .newSubmission requestId => some { memory with submissions := memory.submissions.create requestId () }
  | .chatAsync submission created => memory.chatAsync appSessionId submission created
  | .requestCancel requestId reason => memory.requestCancel requestId reason
  | .requestUnref requestId => (memory.handles.unref requestId).map ({ memory with handles := · })
  | .readHandle requestId => (memory.handles requestId).map fun _ => memory
  | .readSubmission requestId => (memory.submissions requestId).map fun _ => memory
  | .freeSubmission requestId => (memory.submissions.unref requestId).map ({ memory with submissions := · })
  -- `_job_destroy`
  | .jobDestroy requestId =>
    (memory.handles.unref requestId).map ({ memory with handles := ·, jobs := memory.jobs.erase requestId })

def performAll (calls : List ClientCall) : Option ClientMemory := calls.foldlM (perform appSessionId) memory

theorem performAll_cons (call : ClientCall) (rest : List ClientCall) :
    memory.performAll appSessionId (call :: rest) =
      (memory.perform appSessionId call).bind fun after => after.performAll appSessionId rest := rfl

theorem performAll_append (first second : List ClientCall) :
    memory.performAll appSessionId (first ++ second) =
      (memory.performAll appSessionId first).bind fun after => after.performAll appSessionId second :=
  List.foldlM_append

end ClientMemory

section Calls

variable {κ ν W : Type} (host : Host κ ν W)

namespace Panel

variable (panel : Panel κ ν)

/-- `_agent_chat_drop_active_request_handle` -/
def dropHandleCalls : List ClientCall := panel.chat.active.handle.toList.map .requestUnref

/-- The calls of `_agent_chat_cancel_active_request`. -/
def cancelCalls (stopReason : String) : List ClientCall :=
  match panel.chat.active.handle with
  | some requestId => [.requestCancel requestId stopReason, .requestUnref requestId]
  | none => []

/-- The calls of `_agent_chat_submit_internal`. A submission that could not be queued is freed at once. -/
def submitCalls (arguments : SubmitArguments) (outcome : SubmitOutcome) : List ClientCall :=
  let panel := panel.switchToImageSession host panel.develop.currentImageId false
  if panel.chat.isLoading ∨ arguments.message = "" then []
  else
    let panel := panel.announceRequest arguments
    let submission := panel.submission host arguments
    let requestId := submission.requestId
    match arguments.build outcome, outcome with
    | .error _, _ => []
    | .ok (), .queueFailed _ =>
      [.newSubmission requestId, .chatAsync submission false, .readSubmission requestId, .freeSubmission requestId]
    | .ok (), _ =>
      -- the new handle takes the place of the old one
      [.newSubmission requestId, .chatAsync submission true] ++ panel.dropHandleCalls ++ [.readSubmission requestId]

/-- The arguments that `_agent_chat_submit` makes of a prompt. -/
def submitArguments (prompt : String) : SubmitArguments :=
  let multiTurn := panel.chat.preferences.multiTurnEnabled
  { prompt
    goalText := prompt
    appendUserMessage := true
    fastModeEnabled := panel.chat.preferences.fastModeEnabled
    refinementMode := if multiTurn then .multiTurn else .singleTurn
    refinementPassIndex := 1
    refinementMaxPasses := if multiTurn then panel.chat.maxRefinementPasses else 1 }

section Handlers

variable [Numeric ν] (submission : ChatSubmission)

/-- The calls of `_agent_chat_progress_finished`. -/
def progressCalls (progress : ClientProgress ν) : List ClientCall :=
  if panel.chat.ignoresProgress ∨ passedOver progress then []
  else if ¬ progress.found then []
  else
    match panel.pendingOperations progress with
    | none => []
    | some operations =>
      if (panel.execution host operations).ok then [] else panel.cancelCalls "apply-failed"

/-- The calls of `_agent_chat_continue_refinement`. -/
def continueCalls (response : ChatResponse ν) (outcome : SubmitOutcome) : List ClientCall :=
  if ¬ shouldContinueRefinement submission response then []
  else
    let next := continuation submission response
    let panel := panel.onChat (·.appendMessage "system" ("Continuing refinement pass "
      ++ toString next.refinementPassIndex ++ "/" ++ toString next.refinementMaxPasses))
    panel.submitCalls host next outcome

/-- The calls behind the checks of `_agent_chat_request_finished`. -/
def currentCalls (result : ClientResult ν) (liveApplied : Nat) (outcome : SubmitOutcome) : List ClientCall :=
  let panel := panel.onChat fun chat =>
    if chat.matchesCurrentSession submission then chat.setLoading false else chat
  if revisionMismatch host panel.develop submission result liveApplied ∨ ¬ panel.develop.visible then []
  else
    match result.transportError, result.response with
    | none, some response =>
      let handled := (panel.onChat (·.setError "")).handleResponse host submission response liveApplied
      if handled.ok then handled.panel.continueCalls host submission response outcome else []
    | _, _ => []

/-- The calls of `_agent_chat_request_finished`. -/
def finishedCalls (result : ClientResult ν) (outcome : SubmitOutcome) : List ClientCall :=
  let dropped := if panel.chat.matchesActiveRequest submission then panel.dropHandleCalls else []
  let settled := panel.settle submission result
  if result.cancelled ∨ settled.develop.visible ∧ isStaleResponse settled.chat settled.develop submission result then
    dropped
  else dropped ++ settled.currentCalls host submission result (panel.chat.liveAppliedFor submission) outcome

/-- The calls of `_deliver_stream_progress` and `_deliver_result`. -/
def dispatchCalls (outcome : SubmitOutcome) : List ClientCall :=
  match panel.queue with
  | [] => []
  | .progress submission progress :: rest =>
    .readSubmission submission.requestId :: { panel with queue := rest }.progressCalls host progress
  | .result submission result :: rest =>
    .readSubmission submission.requestId :: { panel with queue := rest }.finishedCalls host submission result outcome
      ++ [.freeSubmission submission.requestId]

/-- The worker asks its handle whether it was cancelled, and for the ids of its request. -/
def workerCalls (requestId : String) : List ClientCall :=
  if (panel.findTransfer requestId).any fun transfer => !transfer.finished then [.readHandle requestId] else []

def clientCalls : Event κ ν → List ClientCall
  | .submit prompt outcome => panel.submitCalls host (panel.submitArguments prompt) outcome
  | .cancel => panel.cancelCalls "cancelled"
  | .newChat => panel.cancelCalls "new-chat"
  | .imageChanged imageId _ =>
    let current := Develop.currentImageId { panel.develop with imageId }
    if current ≠ panel.chat.currentImageId then panel.cancelCalls "image-changed" else []
  | .streamed requestId _ => panel.workerCalls requestId
  | .ended requestId _ => panel.workerCalls requestId
  | .dispatch outcome => panel.dispatchCalls host outcome
  | .multiTurnToggled _ | .maxTurnsChanged _ | .fastModeToggled _ | .leave | .enter _ _ | .edit _ => []

end Handlers

end Panel

/-- The panel with the memory of the client, until something is used that was freed. -/
structure ClientRun (κ ν : Type) where
  panel : Panel κ ν
  memory : Option ClientMemory

inductive MemoryEvent (κ ν : Type) where
  | event (event : Event κ ν)
  -- the job of a transfer that is over
  | jobDestroyed (requestId : String)

variable [Numeric ν] (appSessionId : String)

def memoryStep (state : ClientRun κ ν) : MemoryEvent κ ν → ClientRun κ ν
  | .event event =>
    { panel := step host state.panel event
      memory := state.memory.bind (·.performAll appSessionId (state.panel.clientCalls host event)) }
  | .jobDestroyed requestId =>
    if (state.panel.findTransfer requestId).any (·.finished) ∧ state.memory.any (requestId ∈ ·.jobs) then
      { state with memory := state.memory.bind (·.perform appSessionId (.jobDestroy requestId)) }
    else state

end Calls

end DarktableAgent.Chat
