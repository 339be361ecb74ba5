import DarktableAgent.Client.Execute
import DarktableAgent.Chat.Session

/-! What the chat panel's callbacks work on.

Callbacks run on the main loop, one at a time. They share one record: the panel,
the darkroom, the transfers of all requests ever started, the callbacks that wait,
and a log of the batches that were handed to the executor.
-/

set_option autoImplicit false

namespace DarktableAgent.Chat

open Foundation Protocol Client

/-- `dt_agent_chat_submission_t`, the user data of both callbacks of a request. -/
structure ChatSubmission where
  requestId : String
  promptText : String
  goalText : String
  conversationId : String
  imageSessionId : String
  baseImageRevisionId : String
  hasImageId : Bool
  imageId : Int
  refinementEnabled : Bool
  fastModeEnabled : Bool
  refinementPassIndex : Nat
  refinementMaxPasses : Nat
  deriving DecidableEq, Repr

/-- A request's job. The request it carries holds the history counters of its image snapshot. -/
structure Transfer where
  submission : ChatSubmission
  refinementMode : RefinementMode
  historyPosition : Int
  historyCount : Nat
  cancelRequested : Bool := false
  finished : Bool := false
  deriving DecidableEq, Repr

/-- `dt_agent_client_result_t` -/
structure ClientResult (ν : Type) where
  response : Option (ChatResponse ν) := none
  transportError : Option String := none
  cancelled : Bool := false
  deriving DecidableEq, Repr

/-- A callback that waits on the main loop. -/
inductive Delivery (ν : Type) where
  | progress (submission : ChatSubmission) (progress : ClientProgress ν)
  | result (submission : ChatSubmission) (result : ClientResult ν)
  deriving DecidableEq, Repr

/-- One call of `dt_agent_execute_response`: whose operations it was given, on which image. -/
structure ExecutedBatch (ν : Type) where
  origin : ChatSubmission
  operations : List (ChatOperation ν)
  imageId : Int
  ok : Bool
  deriving DecidableEq, Repr

/-- The darkroom: the image it shows, whether it is the current view, and the edit. -/
structure Develop (κ : Type) where
  imageId : Int
  visible : Bool
  content : κ
  deriving DecidableEq, Repr

structure Panel (κ ν : Type) where
  chat : AgentChat
  develop : Develop κ
  configured : Preferences
  transfers : List Transfer
  queue : List (Delivery ν)
  uuidsDrawn : Nat
  executed : List (ExecutedBatch ν)

/-- What the panel uses of the program around it. Random identifiers do not repeat. -/
structure Host (κ ν W : Type) where
  darkroom : Darkroom κ ν W
  historyEnd : κ → Int
  historyCount : κ → Nat
  uuid : Nat → String
  uuid_injective : Function.Injective uuid
  operationSummary : ExecutionReport ν → String
  toolProgressMessage : ClientProgress ν → Nat → Nat → Nat → Option String

/-- `_agent_chat_format_image_revision_id` -/
def formatImageRevisionId (hasImageId : Bool) (imageId historyPosition : Int) (historyCount : Nat) : String :=
  if hasImageId ∧ 0 < imageId then
    "image-" ++ toString imageId ++ "-history-" ++ toString historyPosition ++ "-" ++ toString historyCount
  else "image-unknown"

/-- `_agent_chat_current_image_id` -/
def Develop.currentImageId {κ : Type} (develop : Develop κ) : Int :=
  if 0 < develop.imageId then develop.imageId else noImageId

def isAsciiSpace (char : Char) : Bool :=
  char = ' ' || char = '\t' || char = '\n' || char = '\x0c' || char = '\r'

/-- `g_strstrip` -/
def stripped (text : String) : String :=
  String.ofList ((text.toList.dropWhile isAsciiSpace).reverse.dropWhile isAsciiSpace).reverse

section Panel

variable {κ ν W : Type} [Numeric ν] (host : Host κ ν W)

/-- `_agent_chat_collect_current_image_revision_id` -/
def currentImageRevisionId (develop : Develop κ) : String :=
  formatImageRevisionId (decide (0 < develop.currentImageId)) develop.currentImageId
    (host.historyEnd develop.content) (host.historyCount develop.content)

namespace Panel

variable (panel : Panel κ ν)

def onChat (change : AgentChat → AgentChat) : Panel κ ν := { panel with chat := change panel.chat }

def onCurrentSession (change : ChatSession → ChatSession) : Panel κ ν :=
  panel.onChat fun chat => chat.updateSession chat.currentImageId change

/-- `_agent_chat_switch_to_image_session` -/
def switchToImageSession (imageId : Int) (forceNewChat : Bool) : Panel κ ν :=
  { panel with
    chat := panel.chat.switchToImageSession host.uuid panel.uuidsDrawn imageId forceNewChat
    uuidsDrawn := (panel.chat.syncCurrentSession.targetSession host.uuid panel.uuidsDrawn imageId forceNewChat).2 }

/-- `dt_agent_client_request_cancel` -/
def requestCancel (requestId : String) (transfer : Transfer) : Transfer :=
  if transfer.submission.requestId = requestId then { transfer with cancelRequested := true } else transfer

/-- The handle of the active request is cancelled and dropped. Its id stays, so that the result is still
recognised. -/
def cancelHandle : Panel κ ν :=
  { panel with
    chat := match panel.chat.active.handle with
      | some _ => { panel.chat with active := { panel.chat.active with handle := none, canceling := true } }
      | none => panel.chat
    transfers := match panel.chat.active.handle with
      | some requestId => panel.transfers.map (requestCancel requestId)
      | none => panel.transfers }

/-- `_agent_chat_cancel_active_request` -/
def cancelActiveRequest (statusText stopReason : String) : Panel κ ν :=
  -- the stored session becomes idle whether or not the panel is loading
  let panel := panel.onCurrentSession fun session =>
    { session with isLoading := false, refinementStopReason := some stopReason, statusText := statusText }
  panel.cancelHandle.onChat fun chat =>
    if chat.isLoading then ((chat.setError "").setLoading false).setStatus statusText else chat

/-- What `dt_agent_execute_response` does in the darkroom as it is. -/
def execution (operations : List (ChatOperation ν)) : Execution κ ν :=
  executeResponse { host.darkroom with isCurrentView := fun _ => panel.develop.visible } panel.develop.content
    operations

/-- The panel after the executor was called with operations of a submission's request. -/
def afterExecution (origin : ChatSubmission) (operations : List (ChatOperation ν)) : Panel κ ν :=
  let execution := panel.execution host operations
  { panel with
    develop := { panel.develop with content := execution.state }
    executed := panel.executed ++ [⟨origin, operations, panel.develop.currentImageId, execution.ok⟩] }

/-- `_agent_chat_handle_transport_error` -/
def handleTransportError (message : Option String) : Panel κ ν :=
  panel.onChat fun chat =>
    ((chat.setError (message.getD "agent request failed")).setStatus "Request failed").appendMessage "assistant"
      (message.getD "failed to contact the agent server")

end Panel

/-- How far a submission gets. -/
inductive SubmitOutcome where
  | queued
  | buildFailed (message : String)
  | queueFailed (message : String)
  deriving DecidableEq, Repr

/-- The arguments of `_agent_chat_submit_internal`. -/
structure SubmitArguments where
  prompt : String
  goalText : String
  appendUserMessage : Bool
  fastModeEnabled : Bool
  refinementMode : RefinementMode
  refinementPassIndex : Nat
  refinementMaxPasses : Nat
  deriving DecidableEq, Repr

namespace SubmitArguments

variable (arguments : SubmitArguments)

def message : String := stripped arguments.prompt

/-- An empty goal is replaced by the message. -/
def goal : String := if arguments.goalText ≠ "" then arguments.goalText else arguments.message

/-- What `_agent_chat_build_request` makes of a collected image state. -/
def build (outcome : SubmitOutcome) : Except String Unit :=
  match outcome with
  | .buildFailed message => .error message
  | .queued | .queueFailed _ =>
    if arguments.refinementPassIndex = 0 ∨ arguments.refinementMaxPasses = 0
        ∨ arguments.refinementMaxPasses < arguments.refinementPassIndex then
      .error "failed to build an agent request"
    else .ok ()

/-- The session of a new request before it is sent. -/
def recordIn (session : ChatSession) : ChatSession :=
  { session with
    refinementGoalText := some arguments.goal
    refinementStopReason := none
    lastRefinementEnabled := arguments.refinementMode = .multiTurn
    lastRefinementPassIndex := arguments.refinementPassIndex
    lastRefinementMaxPasses := arguments.refinementMaxPasses
    lastFastModeEnabled := arguments.fastModeEnabled
    lastContinueRefining := false }

end SubmitArguments

namespace Panel

variable (panel : Panel κ ν) (arguments : SubmitArguments)

/-- The submission of a request that is built now. -/
def submission : ChatSubmission where
  requestId := host.uuid panel.uuidsDrawn
  promptText := arguments.message
  goalText := arguments.goal
  conversationId := panel.chat.conversationId.getD ""
  imageSessionId := panel.chat.imageSessionId.getD ""
  baseImageRevisionId := formatImageRevisionId (decide (0 < panel.develop.imageId)) panel.develop.imageId
    (host.historyEnd panel.develop.content) (host.historyCount panel.develop.content)
  hasImageId := decide (0 < panel.develop.imageId)
  imageId := panel.develop.currentImageId
  refinementEnabled := arguments.refinementMode = .multiTurn
  fastModeEnabled := arguments.fastModeEnabled
  refinementPassIndex := arguments.refinementPassIndex
  refinementMaxPasses := arguments.refinementMaxPasses

/-- The panel that shows a new request being sent. -/
def announceRequest : Panel κ ν :=
  let panel := panel.onChat fun chat =>
    if arguments.appendUserMessage then chat.appendMessage "you" arguments.message else chat
  let panel := panel.onChat fun chat =>
    ((chat.setError "").setLoading true).updateRefinementStatus arguments.refinementPassIndex
      arguments.refinementMaxPasses
  panel.onCurrentSession arguments.recordIn

/-- The request is queued and becomes the active one. -/
def startRequest : Panel κ ν :=
  let submission := panel.submission host arguments
  { panel with
    chat := { panel.chat.setActiveRequest submission.requestId with
      active := { (panel.chat.setActiveRequest submission.requestId).active with
        refinementPassIndex := arguments.refinementPassIndex
        refinementMaxPasses := arguments.refinementMaxPasses
        toolCallsMax := if arguments.refinementMode = .multiTurn then arguments.refinementMaxPasses else 1 } }
    transfers := panel.transfers ++ [{
      submission
      refinementMode := arguments.refinementMode
      historyPosition := host.historyEnd panel.develop.content
      historyCount := host.historyCount panel.develop.content }]
    uuidsDrawn := panel.uuidsDrawn + 1 }

/-- A request that was built but not sent has drawn its id. -/
def abandonRequest (message : String) : Panel κ ν :=
  let panel := { panel with uuidsDrawn := panel.uuidsDrawn + 1 }
  (panel.onChat (·.setLoading false)).handleTransportError (some message)

/-- The panel after a submission, and whether a request was sent. -/
structure Submitted (κ ν : Type) where
  panel : Panel κ ν
  sent : Bool

/-- `_agent_chat_submit_internal` -/
def submitInternal (outcome : SubmitOutcome) : Submitted κ ν :=
  let panel := panel.switchToImageSession host panel.develop.currentImageId false
  if panel.chat.isLoading ∨ arguments.message = "" then ⟨panel, false⟩
  else
    let panel := panel.announceRequest arguments
    match arguments.build outcome, outcome with
    | .error message, _ => ⟨panel.abandonRequest message, false⟩
    | .ok (), .queueFailed message => ⟨panel.abandonRequest message, false⟩
    | .ok (), _ => ⟨panel.startRequest host arguments, true⟩

end Panel

end Panel

end DarktableAgent.Chat
