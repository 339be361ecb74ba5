import DarktableAgent.Chat.Handlers
import DarktableAgent.Foundation.Runs

/-! One event after the other: the user's clicks, the transfers' threads and the main loop's queue.

A transfer queues any snapshots and then one result, whatever they say; whether an
aborted transfer counts as cancelled is decided by its handle. The main loop
dispatches callbacks in the order in which they were queued.
-/

set_option autoImplicit false

namespace DarktableAgent.Chat

open Foundation Protocol Client

/-- How a transfer ends. A response may have been parsed before the connection broke. -/
inductive TransferEnd (ν : Type) where
  | aborted (response : Option (ChatResponse ν))
  | failed (message : String) (response : Option (ChatResponse ν))
  | completed (response : ChatResponse ν)
  | unreadable (message : String)
  deriving DecidableEq, Repr

/-- The result that `_chat_job_run` delivers. -/
def TransferEnd.result {ν : Type} (cancelRequested : Bool) : TransferEnd ν → ClientResult ν
  | .aborted response =>
    if cancelRequested then { response, transportError := some "chat request canceled", cancelled := true }
    else { response, transportError := some "chat request failed: Operation was aborted by an application callback" }
  | .failed message response => { response, transportError := some message }
  | .completed response => { response := some response }
  | .unreadable message => { transportError := some message }

inductive Event (κ ν : Type) where
  -- the panel's controls
  | submit (prompt : String) (outcome : SubmitOutcome)
  | cancel
  | newChat
  | multiTurnToggled (enabled : Bool)
  | maxTurnsChanged (turns : Nat)
  | fastModeToggled (enabled : Bool)
  -- the darkroom
  | imageChanged (imageId : Int) (content : κ)
  | leave
  | enter (imageId : Int) (content : κ)
  | edit (content : κ)
  -- the transfers' threads
  | streamed (requestId : String) (progress : ClientProgress ν)
  | ended (requestId : String) (ending : TransferEnd ν)
  -- the main loop
  | dispatch (outcome : SubmitOutcome)

/-- The settings as `enter` reads them from the configuration. -/
def Preferences.loaded (configured : Preferences) : Preferences :=
  { configured with maxRefinementPasses :=
      if 0 < configured.maxRefinementPasses then configured.maxRefinementPasses else defaultMaxRefinementTurns }

section MainLoop

variable {κ ν W : Type} [Numeric ν] (host : Host κ ν W)

namespace Panel

variable (panel : Panel κ ν)

/-- `_agent_chat_submit` -/
def submit (prompt : String) (outcome : SubmitOutcome) : Panel κ ν :=
  let multiTurn := panel.chat.preferences.multiTurnEnabled
  (panel.submitInternal host {
    prompt
    goalText := prompt
    appendUserMessage := true
    fastModeEnabled := panel.chat.preferences.fastModeEnabled
    refinementMode := if multiTurn then .multiTurn else .singleTurn
    refinementPassIndex := 1
    refinementMaxPasses := if multiTurn then panel.chat.maxRefinementPasses else 1 } outcome).panel

/-- `_agent_chat_new_chat_clicked` -/
def newChat : Panel κ ν :=
  (panel.cancelActiveRequest "Request canceled" "new-chat").switchToImageSession host panel.develop.currentImageId true

/-- The image is replaced in the darkroom, and `_agent_chat_image_changed_callback` runs at once. -/
def imageChanged (imageId : Int) (content : κ) : Panel κ ν :=
  let panel := { panel with develop := { panel.develop with imageId, content } }
  if panel.develop.currentImageId ≠ panel.chat.currentImageId then
    (panel.cancelActiveRequest "Request canceled" "image-changed").switchToImageSession host
      panel.develop.currentImageId false
  else panel

/-- `leave` of the view: the session is written back, the image is let go of. -/
def leave : Panel κ ν :=
  { panel with
    chat := panel.chat.syncCurrentSession
    develop := { panel.develop with imageId := noImageId, visible := false } }

/-- `enter` of the view: the configured settings are read, and the session of the image is shown. A request
that is still active stays active. -/
def enter (imageId : Int) (content : κ) : Panel κ ν :=
  let panel := { panel with
    develop := ⟨imageId, true, content⟩
    chat := { panel.chat with preferences := panel.configured.loaded } }
  panel.switchToImageSession host panel.develop.currentImageId false

def setPreferences (change : Preferences → Preferences) : Panel κ ν :=
  { panel with
    chat := { panel.chat with preferences := change panel.chat.preferences }.syncCurrentSession
    configured := change panel.configured }

/-- The callback that is first in the queue runs. -/
def dispatch (outcome : SubmitOutcome) : Panel κ ν :=
  match panel.queue with
  | [] => panel
  | .progress submission progress :: rest => { panel with queue := rest }.progressFinished host submission progress
  | .result submission result :: rest => { panel with queue := rest }.requestFinished host submission result outcome

def findTransfer (requestId : String) : Option Transfer :=
  panel.transfers.find? (·.submission.requestId = requestId)

/-- `_sse_dispatch_current_event` queues a snapshot. -/
def streamed (requestId : String) (progress : ClientProgress ν) : Panel κ ν :=
  match panel.findTransfer requestId with
  | some transfer =>
    if transfer.finished then panel
    else { panel with queue := panel.queue ++ [.progress transfer.submission progress] }
  | none => panel

/-- The end of `_chat_job_run`. -/
def ended (requestId : String) (ending : TransferEnd ν) : Panel κ ν :=
  match panel.findTransfer requestId with
  | some transfer =>
    if transfer.finished then panel
    else { panel with
      queue := panel.queue ++ [.result transfer.submission (ending.result transfer.cancelRequested)]
      transfers := panel.transfers.map fun other =>
        if other.submission.requestId = requestId then { other with finished := true } else other }
  | none => panel

end Panel

def step (panel : Panel κ ν) : Event κ ν → Panel κ ν
  | .submit prompt outcome => panel.submit host prompt outcome
  | .cancel => panel.cancelActiveRequest "Canceling request..." "cancelled"
  | .newChat => panel.newChat host
  | .multiTurnToggled enabled => panel.setPreferences fun chosen => { chosen with multiTurnEnabled := enabled }
  | .maxTurnsChanged turns => panel.setPreferences fun chosen => { chosen with maxRefinementPasses := max turns 1 }
  | .fastModeToggled enabled => panel.setPreferences fun chosen => { chosen with fastModeEnabled := enabled }
  | .imageChanged imageId content => panel.imageChanged host imageId content
  | .leave => panel.leave
  | .enter imageId content => panel.enter host imageId content
  | .edit content => { panel with develop := { panel.develop with content } }
  | .streamed requestId progress => panel.streamed requestId progress
  | .ended requestId ending => panel.ended requestId ending
  | .dispatch outcome => panel.dispatch host outcome

/-- The panel before the darkroom is entered for the first time. -/
def initialPanel (configured : Preferences) (content : κ) : Panel κ ν where
  chat := {
    currentImageId := noImageId
    conversationId := none
    imageSessionId := none
    transcript := ""
    statusLabel := ""
    errorLabel := ""
    isLoading := false
    preferences := configured
    active := {}
    imageSessions := .empty }
  develop := ⟨noImageId, false, content⟩
  configured := configured
  transfers := []
  queue := []
  uuidsDrawn := 0
  executed := []

end MainLoop

end DarktableAgent.Chat
