import DarktableAgent.Foundation.Dict
import DarktableAgent.Protocol.Parse

/-! The chat panel's record and the stored session of each image.

The panel shows one session at a time. Its labels, its transcript and its
settings are written back to the stored session of the current image whenever a
label or the transcript changes, and are read from there on a switch.
-/

set_option autoImplicit false

namespace DarktableAgent.Chat

open Foundation Protocol

/-- `dt_agent_chat_session_t` -/
structure ChatSession where
  imageSessionId : String
  conversationId : String
  transcript : String
  statusText : String
  errorText : String
  refinementGoalText : Option String
  refinementStopReason : Option String
  isLoading : Bool
  lastRefinementPassIndex : Nat
  lastRefinementMaxPasses : Nat
  lastContinueRefining : Bool
  lastRefinementEnabled : Bool
  lastFastModeEnabled : Bool
  pendingMidTurnRender : Bool
  deriving DecidableEq, Repr

/-- The `active_request` fields of the panel. The handle is named by the request it belongs to. -/
structure ActiveRequest where
  requestId : Option String := none
  handle : Option String := none
  canceling : Bool := false
  liveAppliedCount : Nat := 0
  toolCallsUsed : Nat := 0
  toolCallsMax : Nat := 0
  refinementPassIndex : Nat := 0
  refinementMaxPasses : Nat := 0
  deriving DecidableEq, Repr

/-- The settings a user chooses in the panel. -/
structure Preferences where
  multiTurnEnabled : Bool
  maxRefinementPasses : Nat
  fastModeEnabled : Bool
  deriving DecidableEq, Repr

/-- `dt_develop_t.agent_chat` -/
structure AgentChat where
  currentImageId : Int
  conversationId : Option String
  imageSessionId : Option String
  transcript : String
  statusLabel : String
  errorLabel : String
  isLoading : Bool
  preferences : Preferences
  active : ActiveRequest
  imageSessions : Dict Int ChatSession

/-- `NO_IMGID` -/
def noImageId : Int := 0

def defaultMaxRefinementTurns : Nat := 15

def defaultTranscript : String :=
  "assistant: ready for this image. ask for an edit or describe the look you want."

/-- A message at the end of a transcript. -/
def transcriptWith (transcript speaker message : String) : String :=
  let line := speaker ++ ": " ++ message
  if transcript = "" then line else transcript ++ "\n\n" ++ line

/-- Change the entry of a key, where there is one. -/
def changeEntry {κ ν : Type} [DecidableEq κ] (dict : Dict κ ν) (key : κ) (change : ν → ν) : Dict κ ν :=
  match dict.get? key with
  | none => dict
  | some value => dict.set key (change value)

namespace AgentChat

variable (chat : AgentChat)

/-- `_agent_chat_max_refinement_passes` -/
def maxRefinementPasses : Nat :=
  if chat.preferences.maxRefinementPasses = 0 then defaultMaxRefinementTurns
  else chat.preferences.maxRefinementPasses

def updateSession (imageId : Int) (change : ChatSession → ChatSession) : AgentChat :=
  { chat with imageSessions := changeEntry chat.imageSessions imageId change }

/-- What the panel shows, written into a stored session. -/
def storeInto (imageSessionId conversationId : String) (session : ChatSession) : ChatSession :=
  { session with
    imageSessionId := imageSessionId
    conversationId := conversationId
    transcript := chat.transcript
    statusText := chat.statusLabel
    errorText := chat.errorLabel
    isLoading := chat.isLoading
    lastRefinementEnabled := chat.preferences.multiTurnEnabled
    lastRefinementMaxPasses := chat.maxRefinementPasses
    lastFastModeEnabled := chat.preferences.fastModeEnabled }

/-- `_agent_chat_sync_current_session` -/
def syncCurrentSession : AgentChat :=
  { chat with imageSessions :=
      match chat.conversationId, chat.imageSessionId with
      | some conversationId, some imageSessionId =>
        changeEntry chat.imageSessions chat.currentImageId (chat.storeInto imageSessionId conversationId)
      | _, _ => chat.imageSessions }

def setStatus (status : String) : AgentChat := { chat with statusLabel := status }.syncCurrentSession

def setError (error : String) : AgentChat := { chat with errorLabel := error }.syncCurrentSession

/-- The loading flag reaches the stored session with the next label only. -/
def setLoading (isLoading : Bool) : AgentChat := { chat with isLoading := isLoading }

def appendMessage (speaker message : String) : AgentChat :=
  { chat with transcript := transcriptWith chat.transcript speaker message }.syncCurrentSession

/-- `_agent_chat_set_active_request`. An earlier handle is dropped, not cancelled. -/
def setActiveRequest (requestId : String) : AgentChat :=
  { chat with active := { chat.active with
      requestId := some requestId
      handle := some requestId
      canceling := false
      liveAppliedCount := 0
      toolCallsUsed := 0
      toolCallsMax := 0 } }

/-- `_agent_chat_clear_active_request`, request id included. -/
def clearActiveRequest : AgentChat := { chat with active := {} }

/-- The text of `_agent_chat_update_refinement_status`. -/
def refinementStatus (maxPasses : Nat) : String :=
  if chat.active.canceling then "Canceling request..."
  else if chat.preferences.multiTurnEnabled then
    let maxToolCalls := if 0 < chat.active.toolCallsMax then chat.active.toolCallsMax else max 1 maxPasses
    "Live edits | tool calls " ++ toString (min chat.active.toolCallsUsed maxToolCalls) ++ "/"
      ++ toString maxToolCalls ++ " | edits applied " ++ toString chat.active.liveAppliedCount
  else "Sending request..."

/-- `_agent_chat_update_refinement_status` -/
def updateRefinementStatus (passIndex maxPasses : Nat) : AgentChat :=
  { chat with active := { chat.active with
      refinementPassIndex := passIndex
      refinementMaxPasses := maxPasses } }.setStatus (chat.refinementStatus maxPasses)

/-- `_agent_chat_load_session` -/
def loadSession (session : ChatSession) : AgentChat :=
  { chat with
    imageSessionId := some session.imageSessionId
    conversationId := some session.conversationId
    transcript := session.transcript
    statusLabel := session.statusText
    errorLabel := session.errorText
    isLoading := session.isLoading
    preferences := {
      multiTurnEnabled := session.lastRefinementEnabled
      maxRefinementPasses := max 1 session.lastRefinementMaxPasses
      fastModeEnabled := session.lastFastModeEnabled } }

/-- A session as `_agent_chat_lookup_or_create_session` makes it. -/
def newSession (imageSessionId conversationId : String) : ChatSession where
  imageSessionId := imageSessionId
  conversationId := conversationId
  transcript := defaultTranscript
  statusText := "ready to call the local agent server"
  errorText := ""
  refinementGoalText := none
  refinementStopReason := none
  isLoading := false
  lastRefinementPassIndex := 1
  lastRefinementMaxPasses := chat.preferences.maxRefinementPasses
  lastContinueRefining := false
  lastRefinementEnabled := chat.preferences.multiTurnEnabled
  lastFastModeEnabled := chat.preferences.fastModeEnabled
  pendingMidTurnRender := false

/-- What `force_new_chat` makes of the session of the image. -/
def restartedSession (conversationId : String) (session : ChatSession) : ChatSession :=
  { session with
    conversationId := conversationId
    transcript := defaultTranscript
    statusText := "started a new chat for this image"
    errorText := ""
    refinementGoalText := none
    refinementStopReason := none
    lastRefinementPassIndex := 1
    lastRefinementMaxPasses := chat.maxRefinementPasses
    lastContinueRefining := false
    lastRefinementEnabled := chat.preferences.multiTurnEnabled
    lastFastModeEnabled := chat.preferences.fastModeEnabled }

/-- The session that is switched to, and how many identifiers were drawn for it by then. -/
def targetSession (uuid : Nat → String) (drawn : Nat) (imageId : Int) (forceNewChat : Bool) : ChatSession × Nat :=
  let (session, drawn) :=
    match chat.imageSessions.get? imageId with
    | some session => (session, drawn)
    | none => (chat.newSession (uuid drawn) (uuid (drawn + 1)), drawn + 2)
  if forceNewChat then (chat.restartedSession (uuid drawn) session, drawn + 1) else (session, drawn)

/-- `_agent_chat_switch_to_image_session` -/
def switchToImageSession (uuid : Nat → String) (drawn : Nat) (imageId : Int) (forceNewChat : Bool) : AgentChat :=
  let chat := chat.syncCurrentSession
  let session := (chat.targetSession uuid drawn imageId forceNewChat).1
  { chat with
    imageSessions := chat.imageSessions.set imageId session
    currentImageId := imageId }.loadSession session

theorem targetSession_of_stored {imageId : Int} {session : ChatSession}
    (stored : session ∈ chat.imageSessions.get? imageId) (uuid : Nat → String) (drawn : Nat) :
    chat.targetSession uuid drawn imageId false = (session, drawn) := by
  unfold targetSession
  rw [show chat.imageSessions.get? imageId = some session from stored]
  rfl

/-- A switch stores the session that it opens, after the one that was shown. -/
theorem get?_switchToImageSession (uuid : Nat → String) (drawn : Nat) (target : Int) (forceNewChat : Bool)
    (imageId : Int) : (chat.switchToImageSession uuid drawn target forceNewChat).imageSessions.get? imageId =
      if imageId = target then some (chat.syncCurrentSession.targetSession uuid drawn target forceNewChat).1
      else chat.syncCurrentSession.imageSessions.get? imageId :=
  Dict.get?_set ..

end AgentChat

end DarktableAgent.Chat
