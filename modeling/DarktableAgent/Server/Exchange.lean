import DarktableAgent.Foundation.Unwinding
import DarktableAgent.Server.Turn

/-! What the bridge makes of the messages of the app-server during one turn.

Until the response to `turn/start` arrives, messages are handled with no turn state;
from then on by the loop of the turn, which stops at the message that completes it.
Cancellation and time are left to the environment.
-/

set_option autoImplicit false

namespace DarktableAgent.Server

open Foundation Protocol

/-- A message, with what render callbacks deliver while it is handled. -/
structure Incoming where
  message : JsonObject
  renders : Nat → Option Bytes

/-- `TurnRunState`, less the time and the method of the last activity. -/
structure TurnRunState where
  threadId : String
  turnId : String
  chunks : List String
  finalMessage : Option String
  turnError : Option Json
  completed : Bool
  tokenUsageLast : Option JsonObject
  tokenUsageTotal : Option JsonObject

inductive ServerReply where
  | decision (value : String)
  | toolResult (response : ToolResponse)
  -- the error names the method
  | unsupported (method : Json)

/-- A request of the app-server with the reply it got. -/
structure Answer where
  request : JsonObject
  reply : ServerReply

structure Exchange where
  bridge : BridgeState
  turn : Option TurnRunState
  answers : List Answer
  -- an exception has left the loop
  raised : Bool

/-- `x if isinstance(x, dict) else {}`, of a member -/
def objectAt (members : JsonObject) (name : String) : JsonObject :=
  match members.lookup name with
  | some (.obj value) => value
  | _ => []

/-- Equality with a text, of a member that may be missing. -/
def isText (text : String) : Option Json → Bool
  | some (.str value) => value == text
  | _ => false

/-- Truth of a value. -/
def truthy : Json → Bool
  | .null => false
  | .bool value => value
  | .int value => value != 0
  | .real value => value != 0
  | .str value => value != ""
  | .arr items => !items.isEmpty
  | .obj members => !members.isEmpty

/-- `x or default`, of a member -/
def memberOr (members : JsonObject) (name : String) (default : String) : Json :=
  ((members.lookup name).filter truthy).getD (.str default)

section Notifications

variable (loads : String → Option Json)

/-- `_extract_error_message`; `loads` reads a JSON text. -/
def extractErrorMessage (message : Json) : Json :=
  match message with
  | .str text =>
    match loads text with
    | some (.obj payload) =>
      match (objectAt payload "error").lookup "message" with
      | some (.str nested) => if nested = "" then message else .str nested
      | _ => message
    | _ => message
  | _ => message

def TurnRunState.tagged (turn : TurnRunState) (params : JsonObject) : Bool :=
  isText turn.threadId (params.lookup "threadId") && isText turn.turnId (params.lookup "turnId")

def appendDelta (turn : TurnRunState) (params : JsonObject) : TurnRunState :=
  let delta := match params.lookup "delta" with
    | some (.str text) => text
    | _ => ""
  { turn with chunks := turn.chunks ++ [delta] }

def recordUsage (turn : TurnRunState) (params : JsonObject) : TurnRunState :=
  let usage := objectAt params "tokenUsage"
  let recorded (name : String) (earlier : Option JsonObject) : Option JsonObject :=
    match usage.lookup name with
    | some (.obj value) => some value
    | _ => earlier
  { turn with
    tokenUsageLast := recorded "last" turn.tokenUsageLast
    tokenUsageTotal := recorded "total" turn.tokenUsageTotal }

def completeItem (turn : TurnRunState) (params : JsonObject) : TurnRunState :=
  let item := objectAt params "item"
  if isText "agentMessage" (item.lookup "type") then
    { turn with
      finalMessage := (item.lookup "text").bind Json.str?
      completed := turn.completed || isText "final_answer" (item.lookup "phase") }
  else turn

def completeTask (turn : TurnRunState) (params : JsonObject) : TurnRunState :=
  match (objectAt params "msg").lookup "last_agent_message" with
  | some (.str text) => if text = "" then turn else { turn with finalMessage := some text, completed := true }
  | _ => turn

def completeTurn (turn : TurnRunState) (params : JsonObject) : TurnRunState :=
  match (objectAt params "turn").lookup "error" with
  | some (.obj error) => { turn with
      turnError := some (extractErrorMessage loads (memberOr error "message" "Codex turn failed"))
      completed := true }
  | _ => { turn with completed := true }

/-- The notifications of `_handle_message_locked`, each with its own check of the tags. -/
def handleNotification (method : String) (params : JsonObject) (turn : TurnRunState) : TurnRunState :=
  if method = "error" then
    if turn.tagged params then
      let error := memberOr (objectAt params "error") "message" "Codex app server reported an error"
      { turn with turnError := some (extractErrorMessage loads error) }
    else turn
  else if method = "item/agentMessage/delta" then
    if turn.tagged params then appendDelta turn params else turn
  else if method = "thread/tokenUsage/updated" then
    if turn.tagged params then recordUsage turn params else turn
  else if method = "item/completed" then
    if turn.tagged params then completeItem turn params else turn
  else if method = "codex/event/task_complete" then
    if isText turn.turnId (params.lookup "id") then completeTask turn params else turn
  else if method = "turn/completed" then
    if isText turn.threadId (params.lookup "threadId") && isText turn.turnId ((objectAt params "turn").lookup "id") then
      completeTurn loads turn params
    else turn
  else turn

end Notifications

def approvalMethods : List String :=
  ["item/commandExecution/requestApproval", "item/fileChange/requestApproval", "item/permissions/requestApproval",
    "applyPatchApproval", "execCommandApproval"]

section Handle

variable (library : ToolLibrary)

/-- A tool call with its parameters read. -/
def answerToolCall (bridge : BridgeState) (incoming : Incoming) (params : JsonObject) : BridgeState × List Answer :=
  let (response, writes) := handleDynamicToolCall library bridge params incoming.renders
  (writes.foldl BridgeState.write bridge, [⟨incoming.message, .toolResult response⟩])

/-- `_handle_server_request_locked`; none where it raises. -/
def handleServerRequest (bridge : BridgeState) (incoming : Incoming) (method : Json) :
    Option (BridgeState × List Answer) :=
  match incoming.message.lookup "id" with
  | none | some .null => some (bridge, [])
  | some _ =>
    match method with
    | .str name =>
      if name ∈ approvalMethods then some (bridge, [⟨incoming.message, .decision "decline"⟩])
      else if name = "item/tool/call" then
        match incoming.message.lookup "params" with
        | none => some (answerToolCall library bridge incoming [])
        | some (.obj params) => some (answerToolCall library bridge incoming params)
        -- only an object has `get`
        | some _ => none
      else some (bridge, [⟨incoming.message, .unsupported method⟩])
    -- arrays and objects have no hash, so that the set of methods cannot be asked
    | .arr _ | .obj _ => none
    | .null | .bool _ | .int _ | .real _ => some (bridge, [⟨incoming.message, .unsupported method⟩])

variable (loads : String → Option Json)

/-- `_handle_message_locked` -/
def handleMessage (exchange : Exchange) (incoming : Incoming) : Exchange :=
  match incoming.message.lookup "method" with
  | none => exchange
  | some method =>
    if (incoming.message.lookup "id").isSome then
      match handleServerRequest library exchange.bridge incoming method with
      | none => { exchange with raised := true }
      | some (bridge, answers) => { exchange with bridge := bridge, answers := exchange.answers ++ answers }
    else match method with
      | .str name =>
        { exchange with turn := exchange.turn.map (handleNotification loads name (objectAt incoming.message "params")) }
      | _ => exchange

/-- What `_run_turn_locked` starts a turn with. -/
structure TurnStart where
  request : RequestEnvelope
  threadId : String
  -- the number of the `turn/start` request
  rpcId : Nat
  previewDataUrl : String
  previewMimeType : String
  previewBytes : Bytes

variable (start : TurnStart)

/-- Equality of a number with the id of a message; `True` and `1.0` equal `1`. -/
def isRpcId (rpcId : Nat) : Option Json → Bool
  | some (.int value) => value == (rpcId : Int)
  | some (.real value) => value == (rpcId : ℚ)
  | some (.bool value) => value.toNat == rpcId
  | _ => false

/-- The response that `_send_request_locked` waits for. -/
def answersStart (message : JsonObject) : Bool :=
  isRpcId start.rpcId (message.lookup "id") && (message.lookup "method").isNone

/-- The turn id of a response that is no error. -/
def startedTurnId (message : JsonObject) : Option String :=
  if (message.lookup "error").isSome then none
  else
    match (objectAt (objectAt message "result") "turn").lookup "id" with
    | some (.str turnId) => if turnId = "" then none else some turnId
    | _ => none

def freshTurn (threadId turnId : String) : TurnRunState where
  threadId := threadId
  turnId := turnId
  chunks := []
  finalMessage := none
  turnError := none
  completed := false
  tokenUsageLast := none
  tokenUsageTotal := none

/-- From the response on the turn has a context, and the bridge a state for it. -/
def startTurn (exchange : Exchange) (turnId : String) : Exchange :=
  let context := registerTurnContext start.request start.previewDataUrl start.previewMimeType start.previewBytes
  let requestId := start.request.requestId
  let named := exchange.bridge.changeActive requestId fun active => { active with codexTurnId := some turnId }
  { exchange with
    bridge := (named.openTurn start.threadId turnId context).setActiveRequestStatus requestId "running"
      (some "Waiting for Codex turn output")
    turn := some (freshTurn start.threadId turnId) }

/-- One message of the app-server, read by the loop that is waiting for it. -/
def exchangeStep (exchange : Exchange) (incoming : Incoming) : Exchange :=
  if exchange.raised then exchange
  else match exchange.turn with
    | none =>
      if answersStart start incoming.message then
        match startedTurnId incoming.message with
        | none => { exchange with raised := true }
        | some turnId => startTurn start exchange turnId
      else handleMessage library loads exchange incoming
    | some turn => if turn.completed then exchange else handleMessage library loads exchange incoming

end Handle

section Isolation

/-- The member that names the turn of a message; two notifications keep it elsewhere. -/
def turnTag (message : JsonObject) : Option Json :=
  let params := objectAt message "params"
  if isText "codex/event/task_complete" (message.lookup "method") then params.lookup "id"
  else if isText "turn/completed" (message.lookup "method") then (objectAt params "turn").lookup "id"
  else params.lookup "turnId"

def threadTag (message : JsonObject) : Option Json := (objectAt message "params").lookup "threadId"

def isOtherText (text : String) : Option Json → Bool
  | some (.str other) => other != text
  | _ => false

/-- A response, which the loop of a turn never waits for, or a message whose tags name another turn. -/
def ofOtherTurn (threadId turnId : String) (message : JsonObject) : Bool :=
  match message.lookup "method" with
  | none => true
  | some (.str _) => isOtherText turnId (turnTag message) || isOtherText threadId (threadTag message)
  | some _ => false

/-- No other thread has a turn of this id. -/
def TurnIdUnique (threadId turnId : String) (message : JsonObject) : Prop :=
  isText turnId (turnTag message) = true → isOtherText threadId (threadTag message) = false

theorem isText_of_other {text : String} {value : Option Json} (other : isOtherText text value = true) :
    isText text value = false := by
  rcases value with _ | ⟨- | - | - | - | found | - | -⟩
  all_goals first | rfl | skip
  simpa [isOtherText, isText] using other

theorem tagged_of_other {turn : TurnRunState} {params : JsonObject}
    (other : isOtherText turn.turnId (params.lookup "turnId") = true ∨
      isOtherText turn.threadId (params.lookup "threadId") = true) : turn.tagged params = false := by
  unfold TurnRunState.tagged
  rcases other with other | other <;> simp [isText_of_other other]

variable (library : ToolLibrary) (loads : String → Option Json) (start : TurnStart)

@[simp] theorem isText_str (text value : String) : isText text (some (.str value)) = (value == text) := rfl

theorem turnTag_of_named {message : JsonObject} {method : String} (named : message.lookup "method" = some (.str method)) :
    turnTag message =
      if method = "codex/event/task_complete" then (objectAt message "params").lookup "id"
      else if method = "turn/completed" then (objectAt (objectAt message "params") "turn").lookup "id"
      else (objectAt message "params").lookup "turnId" := by
  simp only [turnTag, named, isText_str, beq_iff_eq]

/-- Every branch of the notifications checks the tags of the turn before it writes. -/
theorem handleNotification_other {turn : TurnRunState} {message : JsonObject} {method : String}
    (named : message.lookup "method" = some (.str method)) (unique : TurnIdUnique turn.threadId turn.turnId message)
    (other : isOtherText turn.turnId (turnTag message) = true ∨ isOtherText turn.threadId (threadTag message) = true) :
    handleNotification loads method (objectAt message "params") turn = turn := by
  have otherTurn : isText turn.turnId (turnTag message) = false := by
    rcases other with other | other
    · exact isText_of_other other
    · exact Bool.eq_false_iff.mpr fun own => absurd other (by rw [unique own]; decide)
  rw [turnTag_of_named named] at other otherTurn
  -- the branches of `error`, deltas, usage and items look at the same two tags
  have untagged (isTask : method ≠ "codex/event/task_complete") (isDone : method ≠ "turn/completed") :
      turn.tagged (objectAt message "params") = false := by
    rw [if_neg isTask, if_neg isDone] at other
    exact tagged_of_other other
  unfold handleNotification
  by_cases isTask : method = "codex/event/task_complete"
  · subst isTask
    rw [if_pos rfl] at otherTurn
    simp [otherTurn]
  · by_cases isDone : method = "turn/completed"
    · subst isDone
      rw [if_neg (by decide), if_pos rfl] at otherTurn
      simp [otherTurn]
    · simp [untagged isTask isDone, isTask, isDone]

theorem objectAt_nil (name : String) : objectAt [] name = [] := rfl

/-- A request that names a turn is answered without an exception. -/
theorem handleServerRequest_tagged (bridge : BridgeState) {incoming : Incoming} {name : String} {params : JsonObject}
    (object : incoming.message.lookup "params" = some (.obj params)) :
    (handleServerRequest library bridge incoming (.str name)).isSome = true := by
  unfold handleServerRequest
  split
  · rfl
  · rfl
  · dsimp only
    split_ifs
    · rfl
    · rw [object]
      rfl
    · rfl

theorem ofOtherTurn_named {threadId turnId : String} {message : JsonObject} {method : Json}
    (foreign : ofOtherTurn threadId turnId message = true) (has : message.lookup "method" = some method) :
    ∃ name, method = .str name ∧
      (isOtherText turnId (turnTag message) = true ∨ isOtherText threadId (threadTag message) = true) := by
  unfold ofOtherTurn at foreign
  rw [has] at foreign
  cases method with
  | str name => exact ⟨name, rfl, (Bool.or_eq_true _ _).mp foreign⟩
  | null | bool | int | real | arr | obj => exact absurd foreign Bool.false_ne_true

theorem object_of_other {threadId turnId : String} {message : JsonObject}
    (other : isOtherText turnId (turnTag message) = true ∨ isOtherText threadId (threadTag message) = true) :
    ∃ params, message.lookup "params" = some (.obj params) := by
  by_contra none
  have empty : objectAt message "params" = [] := by
    unfold objectAt
    split
    · exact absurd ⟨_, by assumption⟩ none
    · rfl
  have noTurn : turnTag message = .none := by simp [turnTag, empty, objectAt_nil]
  have noThread : threadTag message = .none := by simp [threadTag, empty]
  simp [noTurn, noThread, isOtherText] at other

/-- What two runs of one turn are compared by. -/
def Exchange.view (exchange : Exchange) : Option TurnRunState × Bool := (exchange.turn, exchange.raised)

/-- Whether a request raises is decided by its text. -/
theorem handleServerRequest_isSome (first second : BridgeState) (incoming : Incoming) (method : Json) :
    (handleServerRequest library first incoming method).isSome =
      (handleServerRequest library second incoming method).isSome := by
  unfold handleServerRequest
  split
  · rfl
  · rfl
  · cases method with
    | str name =>
      dsimp only
      split_ifs
      · rfl
      · split <;> rfl
      · rfl
    | null | bool | int | real | arr | obj => rfl

/-- A message changes the turn and the exception alike, whatever the bridge knows. -/
theorem handleMessage_view {first second : Exchange} (incoming : Incoming) (same : first.view = second.view) :
    (handleMessage library loads first incoming).view = (handleMessage library loads second incoming).view := by
  obtain ⟨sameTurn, sameRaised⟩ := Prod.mk.inj same
  unfold handleMessage
  cases incoming.message.lookup "method" with
  | none => exact same
  | some method =>
    dsimp only
    split_ifs
    · have alike := handleServerRequest_isSome library first.bridge second.bridge incoming method
      cases one : handleServerRequest library first.bridge incoming method with
      | none =>
        rw [one] at alike
        rw [Option.isSome_eq_false_iff.mp alike.symm |> Option.isNone_iff_eq_none.mp]
        exact Prod.ext sameTurn rfl
      | some left =>
        rw [one] at alike
        obtain ⟨right, other⟩ := Option.isSome_iff_exists.mp alike.symm
        rw [other]
        exact same
    · cases method with
      | str name => exact Prod.ext (congrArg (Option.map _) sameTurn) sameRaised
      | null | bool | int | real | arr | obj => exact same

/-- A message of another turn leaves this one as it is. -/
theorem handleMessage_other {exchange : Exchange} {turn : TurnRunState} {incoming : Incoming}
    (running : exchange.turn = some turn) (unique : TurnIdUnique turn.threadId turn.turnId incoming.message)
    (foreign : ofOtherTurn turn.threadId turn.turnId incoming.message = true) :
    (handleMessage library loads exchange incoming).view = exchange.view := by
  unfold handleMessage
  cases has : incoming.message.lookup "method" with
  | none => rfl
  | some method =>
    obtain ⟨name, rfl, other⟩ := ofOtherTurn_named foreign has
    dsimp only
    split_ifs
    · obtain ⟨params, object⟩ := object_of_other other
      obtain ⟨answered, isAnswered⟩ := Option.isSome_iff_exists.mp
        (handleServerRequest_tagged library exchange.bridge object)
      rw [isAnswered]
      rfl
    · have unchanged := handleNotification_other loads has unique other
      unfold Exchange.view
      simp only [running, Option.map_some, unchanged]

def SameIds (before after : TurnRunState) : Prop := after.threadId = before.threadId ∧ after.turnId = before.turnId

theorem completeItem_sameIds (turn : TurnRunState) (params : JsonObject) : SameIds turn (completeItem turn params) := by
  unfold completeItem
  dsimp only
  split_ifs <;> exact ⟨rfl, rfl⟩

theorem completeTask_sameIds (turn : TurnRunState) (params : JsonObject) : SameIds turn (completeTask turn params) := by
  unfold completeTask
  split
  · split_ifs <;> exact ⟨rfl, rfl⟩
  · exact ⟨rfl, rfl⟩

theorem completeTurn_sameIds (turn : TurnRunState) (params : JsonObject) :
    SameIds turn (completeTurn loads turn params) := by
  unfold completeTurn
  split <;> exact ⟨rfl, rfl⟩

/-- The ids of a turn stay, whatever is notified. -/
theorem handleNotification_sameIds (method : String) (params : JsonObject) (turn : TurnRunState) :
    SameIds turn (handleNotification loads method params turn) := by
  unfold handleNotification
  split_ifs
  case pos => exact ⟨rfl, rfl⟩
  all_goals first | exact ⟨rfl, rfl⟩ | skip
  · exact completeItem_sameIds turn params
  · exact completeTask_sameIds turn params
  · exact completeTurn_sameIds loads turn params

theorem handleMessage_turn (exchange : Exchange) (incoming : Incoming) :
    (handleMessage library loads exchange incoming).turn = exchange.turn ∨
      ∃ name, (handleMessage library loads exchange incoming).turn =
        exchange.turn.map (handleNotification loads name (objectAt incoming.message "params")) := by
  unfold handleMessage
  cases incoming.message.lookup "method" with
  | none => exact .inl rfl
  | some method =>
    dsimp only
    split_ifs
    · cases handleServerRequest library exchange.bridge incoming method <;> exact .inl rfl
    · cases method with
      | str name => exact .inr ⟨name, rfl⟩
      | null | bool | int | real | arr | obj => exact .inl rfl

/-- The turn of a view is under way, under these ids. -/
def RunningAs (threadId turnId : String) (view : Option TurnRunState × Bool) : Prop :=
  ∃ turn, view.1 = some turn ∧ turn.threadId = threadId ∧ turn.turnId = turnId

theorem handleMessage_runningAs {threadId turnId : String} {exchange : Exchange}
    (running : RunningAs threadId turnId exchange.view) (incoming : Incoming) :
    RunningAs threadId turnId (handleMessage library loads exchange incoming).view := by
  obtain ⟨turn, isTurn, sameThread, sameTurn⟩ := running
  have isRunning : exchange.turn = some turn := isTurn
  rcases handleMessage_turn library loads exchange incoming with unchanged | ⟨name, changed⟩
  · exact ⟨turn, unchanged.trans isRunning, sameThread, sameTurn⟩
  · obtain ⟨keptThread, keptTurn⟩ := handleNotification_sameIds loads name (objectAt incoming.message "params") turn
    exact ⟨_, by rw [Exchange.view, changed, isRunning]; rfl, keptThread.trans sameThread, keptTurn.trans sameTurn⟩

theorem exchangeStep_running {exchange : Exchange} {turn : TurnRunState} (running : exchange.turn = some turn)
    (incoming : Incoming) :
    exchangeStep library loads start exchange incoming =
      if exchange.raised || turn.completed then exchange else handleMessage library loads exchange incoming := by
  unfold exchangeStep
  rw [running]
  cases exchange.raised <;> simp

theorem exchangeStep_view {first second : Exchange} (incoming : Incoming) (same : first.view = second.view) :
    (exchangeStep library loads start first incoming).view = (exchangeStep library loads start second incoming).view := by
  obtain ⟨sameTurn, sameRaised⟩ := Prod.mk.inj same
  have alike := handleMessage_view library loads incoming same
  unfold exchangeStep
  rw [sameRaised, sameTurn]
  by_cases raised : second.raised = true
  · rw [if_pos raised, if_pos raised]
    exact same
  · rw [if_neg raised, if_neg raised]
    cases second.turn with
    | none =>
      dsimp only
      split_ifs
      · cases startedTurnId incoming.message with
        | none => rfl
        | some turnId => exact Prod.ext rfl sameRaised
      · exact alike
    | some turn =>
      dsimp only
      split_ifs
      · exact same
      · exact alike

/-- One step of the loop, as two runs of a turn are compared. -/
theorem exchangeStep_unwinds (threadId turnId : String) :
    Unwinds (exchangeStep library loads start) Exchange.view (RunningAs threadId turnId)
      (fun incoming => TurnIdUnique threadId turnId incoming.message)
      (fun incoming => ofOtherTurn threadId turnId incoming.message = false) where
  kept := by
    intro exchange incoming running
    obtain ⟨turn, isTurn, -⟩ := id running
    rw [exchangeStep_running library loads start isTurn]
    split_ifs
    · exact running
    · exact handleMessage_runningAs library loads running incoming
  respected _ _ incoming same := exchangeStep_view library loads start incoming same
  silent := by
    rintro exchange incoming ⟨turn, isTurn, rfl, rfl⟩ unique foreign
    rw [exchangeStep_running library loads start isTurn]
    split_ifs
    · rfl
    · exact handleMessage_other library loads isTurn unique (Bool.not_eq_false _ ▸ foreign)

/-- Runs of a turn that differ in messages of other turns only leave the same state of the turn. -/
theorem turn_isolated {exchange : Exchange} {turn : TurnRunState} (inProgress : exchange.turn = some turn)
    (first second : List Incoming)
    (unique : ∀ incoming ∈ first ++ second, TurnIdUnique turn.threadId turn.turnId incoming.message)
    (same : first.filter (!ofOtherTurn turn.threadId turn.turnId ·.message) =
      second.filter (!ofOtherTurn turn.threadId turn.turnId ·.message)) :
    (run (exchangeStep library loads start) exchange first).turn =
      (run (exchangeStep library loads start) exchange second).turn := by
  have unwinds := exchangeStep_unwinds library loads start turn.threadId turn.turnId
  have initially : RunningAs turn.threadId turn.turnId exchange.view := ⟨turn, inProgress, rfl, rfl⟩
  have sameView := unwinds.run_congr initially (fun incoming member => unique incoming (List.mem_append_left _ member))
    (fun incoming member => unique incoming (List.mem_append_right _ member)) (by simpa using same)
  exact congrArg Prod.fst sameView

/-- A usage report of another turn of the same thread. -/
def usageOfOtherTurn : Incoming where
  message := [("method", .str "thread/tokenUsage/updated"), ("params", .obj [("threadId", .str "thread-1"),
    ("turnId", .str "different-turn"), ("tokenUsage", .obj [("last", .obj [("totalTokens", .int 1)])])])]
  renders _ := none

def textDelta (threadId turnId text : String) : Incoming where
  message := [("method", .str "item/agentMessage/delta"),
    ("params", .obj [("threadId", .str threadId), ("turnId", .str turnId), ("delta", .str text)])]
  renders _ := none

def exposureStart : TurnStart where
  request := exposureRequest
  threadId := "thread-1"
  rpcId := 3
  previewDataUrl := "data:image/jpeg;base64,"
  previewMimeType := "image/jpeg"
  previewBytes := []

def freshExchange (threadId turnId : String) : Exchange := ⟨exposureTurn, some (freshTurn threadId turnId), [], false⟩

theorem turn_isolated_usage :
    (run (exchangeStep plainToolLibrary (fun _ => none) exposureStart) (freshExchange "thread-1" "turn-1")
        [usageOfOtherTurn, textDelta "thread-1" "turn-1" "Done."]).turn =
      (run (exchangeStep plainToolLibrary (fun _ => none) exposureStart) (freshExchange "thread-1" "turn-1")
        [textDelta "thread-1" "turn-1" "Done."]).turn := by
  refine turn_isolated plainToolLibrary _ exposureStart rfl _ _ (fun incoming member => ?_) rfl
  rcases List.mem_cons.mp member with rfl | member
  · unfold TurnIdUnique
    decide
  · obtain rfl : incoming = textDelta "thread-1" "turn-1" "Done." := by simpa using member
    unfold TurnIdUnique
    decide

end Isolation

end DarktableAgent.Server
