import DarktableAgent.Server.Exchange

/-! A turn's messages on either side of the response that starts it.

Before the response the bridge has neither a state nor a context for the turn, so what
concerns the turn is dropped or refused. Anything else may come on either side.
-/

set_option autoImplicit false

namespace DarktableAgent.Server

open Foundation Protocol

section Contexts

variable (library : ToolLibrary)

structure CalledTool where
  turn : String × String
  toolName : String
  arguments : JsonObject

/-- What a tool call asks for, as far as its own members tell. -/
def readToolCall (params : JsonObject) : Except String CalledTool :=
  match params.lookup "threadId", params.lookup "turnId" with
  | some (.str threadId), some (.str turnId) =>
    match params.lookup "tool" with
    | some (.str toolName) =>
      match toolArguments params with
      | none => .error "Tool arguments must be an object."
      | some arguments => .ok ⟨(threadId, turnId), toolName, arguments⟩
    | _ => .error "Missing tool name for tool call."
  | _, _ => .error "Missing threadId/turnId for tool call."

/-- The turn whose context a tool call looks up; a malformed call looks up none. -/
def calledTurn (params : JsonObject) : Option (String × String) :=
  match readToolCall params with
  | .error _ => none
  | .ok called => some called.turn

theorem calledTurn_tags {params : JsonObject} {turn : String × String} (called : calledTurn params = some turn) :
    params.lookup "threadId" = some (.str turn.1) ∧ params.lookup "turnId" = some (.str turn.2) := by
  unfold calledTurn readToolCall at called
  generalize params.lookup "threadId" = thread, params.lookup "turnId" = turnTag, params.lookup "tool" = tool,
    toolArguments params = arguments at called ⊢
  rcases thread with _ | ⟨_ | _ | _ | _ | threadId | _ | _⟩ <;> try cases called
  rcases turnTag with _ | ⟨_ | _ | _ | _ | turnId | _ | _⟩ <;> try cases called
  rcases tool with _ | ⟨_ | _ | _ | _ | toolName | _ | _⟩ <;> try cases called
  cases arguments <;> cases called
  exact ⟨rfl, rfl⟩

theorem handleDynamicToolCall_read (state : BridgeState) (params : JsonObject) (renders : Nat → Option Bytes) :
    handleDynamicToolCall library state params renders =
      match readToolCall params with
      | .error text => (toolErrorResponse text, [])
      | .ok called =>
        match state.turnContexts.get? called.turn with
        | none => (toolErrorResponse "No active image context is available for this tool call.", [])
        | some context =>
          let run := handleToolCall library context called.toolName called.arguments renders
          (run.response, run.effects.map (⟨called.turn.1, called.turn.2, ·⟩)) := by
  unfold handleDynamicToolCall readToolCall
  generalize params.lookup "threadId" = thread, params.lookup "turnId" = turn, params.lookup "tool" = tool,
    toolArguments params = arguments
  rcases thread with _ | ⟨_ | _ | _ | _ | threadId | _ | _⟩ <;> try rfl
  rcases turn with _ | ⟨_ | _ | _ | _ | turnId | _ | _⟩ <;> try rfl
  rcases tool with _ | ⟨_ | _ | _ | _ | toolName | _ | _⟩ <;> try rfl
  cases arguments <;> rfl

/-- A call sees nothing of the bridge but the context of its turn. -/
theorem handleDynamicToolCall_congr {first second : BridgeState} {params : JsonObject}
    (same : ∀ turn, calledTurn params = some turn → first.turnContexts.get? turn = second.turnContexts.get? turn)
    (renders : Nat → Option Bytes) :
    handleDynamicToolCall library first params renders = handleDynamicToolCall library second params renders := by
  rw [handleDynamicToolCall_read, handleDynamicToolCall_read]
  cases read : readToolCall params with
  | error text => rfl
  | ok called =>
    have sameContext := same called.turn (by rw [calledTurn, read])
    dsimp only
    rw [sameContext]

/-- A call writes for its own turn only. -/
theorem handleDynamicToolCall_writes_turn (state : BridgeState) (params : JsonObject) (renders : Nat → Option Bytes) :
    ∀ write ∈ (handleDynamicToolCall library state params renders).2,
      calledTurn params = some (write.threadId, write.turnId) := by
  intro write member
  rw [handleDynamicToolCall_read] at member
  unfold calledTurn
  cases read : readToolCall params with
  | error text =>
    rw [read] at member
    cases member
  | ok called =>
    rw [read] at member
    dsimp only at member
    cases found : state.turnContexts.get? called.turn with
    | none =>
      rw [found] at member
      cases member
    | some context =>
      rw [found] at member
      obtain ⟨effect, -, rfl⟩ := List.mem_map.mp member
      rfl

/-- What a write leaves of one turn's context. -/
def contextAfter (turn : String × String) (context : Option TurnContext) (write : BridgeWrite) : Option TurnContext :=
  if (write.threadId, write.turnId) = turn then
    match write.effect with
    | .context written => some written
    | .status _ _ => context
  else context

theorem write_turnContexts (state : BridgeState) (turn : String × String) (write : BridgeWrite) :
    (state.write write).turnContexts.get? turn = contextAfter turn (state.turnContexts.get? turn) write := by
  unfold BridgeState.write BridgeState.applyEffect contextAfter
  cases write.effect with
  | context written =>
    dsimp only
    rw [Dict.get?_set]
    simp only [eq_comm]
  | status message lastToolName =>
    have unchanged : (state.setStatusForTurn write.threadId write.turnId message lastToolName).turnContexts =
        state.turnContexts := by
      unfold BridgeState.setStatusForTurn
      dsimp only
      split <;> rfl
    dsimp only
    rw [unchanged, ite_self]

theorem foldl_write_turnContexts (state : BridgeState) (turn : String × String) (writes : List BridgeWrite) :
    (writes.foldl BridgeState.write state).turnContexts.get? turn =
      writes.foldl (contextAfter turn) (state.turnContexts.get? turn) := by
  induction writes generalizing state with
  | nil => rfl
  | cons write rest ih => rw [List.foldl_cons, ih, write_turnContexts, List.foldl_cons]

theorem foldl_contextAfter_other {turn : String × String} {writes : List BridgeWrite}
    (other : ∀ write ∈ writes, (write.threadId, write.turnId) ≠ turn) (context : Option TurnContext) :
    writes.foldl (contextAfter turn) context = context := by
  induction writes with
  | nil => rfl
  | cons write rest ih =>
    rw [List.foldl_cons, contextAfter, if_neg (other write List.mem_cons_self)]
    exact ih fun later member => other later (List.mem_cons_of_mem _ member)

end Contexts

section Bearing

variable (threadId turnId : String)

/-- A tool call for the turn, as the app-server sends it. -/
def isToolCallOf (message : JsonObject) : Bool :=
  let params := objectAt message "params"
  isText "item/tool/call" (message.lookup "method") && isText threadId (params.lookup "threadId")
    && isText turnId (params.lookup "turnId")

/-- The notifications that the text, the error or the completion of a turn depends on. -/
def notifies (method : String) (params : JsonObject) : Bool :=
  let tagged := isText threadId (params.lookup "threadId") && isText turnId (params.lookup "turnId")
  if method = "error" then tagged
  else if method = "item/agentMessage/delta" then tagged
  else if method = "item/completed" then tagged && isText "agentMessage" ((objectAt params "item").lookup "type")
  else if method = "codex/event/task_complete" then isText turnId (params.lookup "id")
  else if method = "turn/completed" then
    isText threadId (params.lookup "threadId") && isText turnId ((objectAt params "turn").lookup "id")
  else false

/-- What a turn has to have a state or a context for: such a notification, or a tool call that is well formed. -/
def bearsOn (message : JsonObject) : Bool :=
  match message.lookup "method" with
  | some (.str method) =>
    if (message.lookup "id").isSome then
      isToolCallOf threadId turnId message && (calledTurn (objectAt message "params")).isSome
    else notifies threadId turnId method (objectAt message "params")
  | _ => false

end Bearing

section Notified

variable (loads : String → Option Json)

/-- A turn less its token usage. -/
def TurnRunState.bare (turn : TurnRunState) : TurnRunState :=
  { turn with tokenUsageLast := none, tokenUsageTotal := none }

@[simp] theorem TurnRunState.bare_threadId (turn : TurnRunState) : turn.bare.threadId = turn.threadId := rfl

@[simp] theorem TurnRunState.bare_turnId (turn : TurnRunState) : turn.bare.turnId = turn.turnId := rfl

theorem TurnRunState.bare_completed (turn : TurnRunState) : turn.bare.completed = turn.completed := rfl

theorem TurnRunState.bare_turnError (turn : TurnRunState) : turn.bare.turnError = turn.turnError := rfl

@[simp] theorem TurnRunState.bare_tagged (turn : TurnRunState) (params : JsonObject) :
    turn.bare.tagged params = turn.tagged params := rfl

theorem completeItem_bare (turn : TurnRunState) (params : JsonObject) :
    (completeItem turn params).bare = (completeItem turn.bare params).bare := by
  unfold completeItem
  dsimp only
  split_ifs <;> rfl

theorem completeTask_bare (turn : TurnRunState) (params : JsonObject) :
    (completeTask turn params).bare = (completeTask turn.bare params).bare := by
  unfold completeTask
  split
  · split_ifs <;> rfl
  · rfl

theorem completeTurn_bare (turn : TurnRunState) (params : JsonObject) :
    (completeTurn loads turn params).bare = (completeTurn loads turn.bare params).bare := by
  unfold completeTurn
  split <;> rfl

/-- Token usage has no part in what else a notification changes. -/
theorem handleNotification_bare (method : String) (params : JsonObject) (turn : TurnRunState) :
    (handleNotification loads method params turn).bare = (handleNotification loads method params turn.bare).bare := by
  unfold handleNotification
  rw [TurnRunState.bare_tagged, TurnRunState.bare_threadId, TurnRunState.bare_turnId]
  split_ifs
  -- the error that is recorded does not depend on the turn
  case pos => rfl
  all_goals first | rfl | skip
  · exact completeItem_bare turn params
  · exact completeTask_bare turn params
  · exact completeTurn_bare loads turn params

/-- A notification that the turn does not depend on changes its token usage at most. -/
theorem handleNotification_silent {method : String} {params : JsonObject} {turn : TurnRunState}
    (silent : notifies turn.threadId turn.turnId method params = false) :
    (handleNotification loads method params turn).bare = turn.bare := by
  unfold notifies at silent
  unfold handleNotification
  have untagged (unbearing : (isText turn.threadId (params.lookup "threadId") &&
      isText turn.turnId (params.lookup "turnId")) = false) : turn.tagged params = false := unbearing
  by_cases isError : method = "error"
  · subst isError
    simp only [↓reduceIte] at silent ⊢
    rw [if_neg (by rw [untagged silent]; decide)]
  by_cases isDelta : method = "item/agentMessage/delta"
  · subst isDelta
    simp only [String.reduceEq, ↓reduceIte] at silent ⊢
    rw [if_neg (by rw [untagged silent]; decide)]
  by_cases isUsage : method = "thread/tokenUsage/updated"
  · subst isUsage
    simp only [String.reduceEq, ↓reduceIte]
    split_ifs <;> rfl
  by_cases isItem : method = "item/completed"
  · subst isItem
    simp only [String.reduceEq, ↓reduceIte] at silent ⊢
    split_ifs with tagged
    · unfold completeItem
      have kind : isText "agentMessage" ((objectAt params "item").lookup "type") = false := by
        unfold TurnRunState.tagged at tagged
        rwa [tagged, Bool.true_and] at silent
      dsimp only
      rw [if_neg (by rw [kind]; decide)]
    · rfl
  by_cases isTask : method = "codex/event/task_complete"
  · subst isTask
    simp only [String.reduceEq, ↓reduceIte] at silent ⊢
    rw [if_neg (by rw [silent]; decide)]
  by_cases isDone : method = "turn/completed"
  · subst isDone
    simp only [String.reduceEq, ↓reduceIte] at silent ⊢
    rw [if_neg (by rw [silent]; decide)]
  rw [if_neg isError, if_neg isDelta, if_neg isUsage, if_neg isItem, if_neg isTask, if_neg isDone]

end Notified

section Requests

variable (library : ToolLibrary) {threadId turnId : String}

def ofTurn (threadId turnId : String) (answers : List Answer) : List Answer :=
  answers.filter (isToolCallOf threadId turnId ·.request)

/-- Two bridges that handled the same request, as far as one turn can tell. -/
structure AnsweredAlike (threadId turnId : String) (message : JsonObject) (first second : BridgeState)
    (firstAfter secondAfter : BridgeState × List Answer) : Prop where
  context : first.turnContexts.get? (threadId, turnId) = second.turnContexts.get? (threadId, turnId) →
    firstAfter.1.turnContexts.get? (threadId, turnId) = secondAfter.1.turnContexts.get? (threadId, turnId)
  untouched : bearsOn threadId turnId message = false →
    firstAfter.1.turnContexts.get? (threadId, turnId) = first.turnContexts.get? (threadId, turnId)
  answers : bearsOn threadId turnId message = false ∨
      first.turnContexts.get? (threadId, turnId) = second.turnContexts.get? (threadId, turnId) →
    ofTurn threadId turnId firstAfter.2 = ofTurn threadId turnId secondAfter.2

theorem AnsweredAlike.same (message : JsonObject) (first second : BridgeState) (answers : List Answer) :
    AnsweredAlike threadId turnId message first second (first, answers) (second, answers) :=
  ⟨id, fun _ => rfl, fun _ => rfl⟩

/-- A call that looks up the context of the turn is a tool call that bears on it. -/
theorem bearsOn_of_called {incoming : Incoming} {params : JsonObject}
    (isCall : incoming.message.lookup "method" = some (.str "item/tool/call"))
    (isRequest : (incoming.message.lookup "id").isSome = true) (object : objectAt incoming.message "params" = params)
    (called : calledTurn params = some (threadId, turnId)) : bearsOn threadId turnId incoming.message = true := by
  obtain ⟨isThread, isTurn⟩ := calledTurn_tags called
  unfold bearsOn isToolCallOf
  rw [isCall, object]
  dsimp only
  rw [if_pos isRequest, called, isThread, isTurn]
  simp

/-- A tool call of the turn looks up no other context. -/
theorem turn_of_call {message params : JsonObject} {turn : String × String} (object : objectAt message "params" = params)
    (own : isToolCallOf threadId turnId message = true) (called : calledTurn params = some turn) :
    turn = (threadId, turnId) := by
  obtain ⟨isThread, isTurn⟩ := calledTurn_tags called
  unfold isToolCallOf at own
  dsimp only at own
  rw [object, isThread, isTurn] at own
  simp only [isText_str, Bool.and_eq_true, beq_iff_eq] at own
  exact Prod.ext own.1.2 own.2

theorem answerToolCall_alike (first second : BridgeState) {incoming : Incoming} {params : JsonObject}
    (isCall : incoming.message.lookup "method" = some (.str "item/tool/call"))
    (isRequest : (incoming.message.lookup "id").isSome = true) (object : objectAt incoming.message "params" = params) :
    AnsweredAlike threadId turnId incoming.message first second (answerToolCall library first incoming params)
      (answerToolCall library second incoming params) := by
  have writesOther (called : calledTurn params ≠ some (threadId, turnId)) (state : BridgeState) :
      ∀ write ∈ (handleDynamicToolCall library state params incoming.renders).2,
        (write.threadId, write.turnId) ≠ (threadId, turnId) := by
    intro write member same
    rw [← same] at called
    exact called (handleDynamicToolCall_writes_turn library state params incoming.renders write member)
  -- the context: a call of the turn reads the same one on both sides, any other call writes elsewhere
  refine ⟨fun same => ?_, fun unbearing => ?_, fun agrees => ?_⟩
  · unfold answerToolCall
    dsimp only
    rw [foldl_write_turnContexts, foldl_write_turnContexts]
    by_cases called : calledTurn params = some (threadId, turnId)
    · have congr : handleDynamicToolCall library first params incoming.renders =
          handleDynamicToolCall library second params incoming.renders := handleDynamicToolCall_congr library
        (by rw [called]; rintro _ ⟨⟩; exact same) incoming.renders
      rw [congr, same]
    · rw [foldl_contextAfter_other (writesOther called first), foldl_contextAfter_other (writesOther called second), same]
  · have called : calledTurn params ≠ some (threadId, turnId) := fun called =>
      absurd (bearsOn_of_called isCall isRequest object called) (by rw [unbearing]; decide)
    unfold answerToolCall
    dsimp only
    rw [foldl_write_turnContexts, foldl_contextAfter_other (writesOther called first)]
  · unfold answerToolCall ofTurn
    dsimp only
    by_cases own : isToolCallOf threadId turnId incoming.message = true
    · have congr : handleDynamicToolCall library first params incoming.renders =
          handleDynamicToolCall library second params incoming.renders := handleDynamicToolCall_congr library
        (fun turn called => by
          obtain rfl : turn = (threadId, turnId) := turn_of_call object own called
          exact agrees.resolve_left fun unbearing =>
            absurd (bearsOn_of_called isCall isRequest object called) (by rw [unbearing]; decide)) incoming.renders
      rw [congr]
    -- an answer to another call is filtered away
    · simp [own]

/-- The same request at two bridges: it raises at both or at none. -/
theorem handleServerRequest_alike (threadId turnId : String) (first second : BridgeState) {incoming : Incoming}
    {method : Json}
    (named : incoming.message.lookup "method" = some method) (isRequest : (incoming.message.lookup "id").isSome = true) :
    (handleServerRequest library first incoming method = none ∧
        handleServerRequest library second incoming method = none) ∨
      ∃ firstAfter secondAfter, handleServerRequest library first incoming method = some firstAfter ∧
        handleServerRequest library second incoming method = some secondAfter ∧
        AnsweredAlike threadId turnId incoming.message first second firstAfter secondAfter := by
  have quiet (answers : List Answer) : ∃ firstAfter secondAfter, some (first, answers) = some firstAfter ∧
      some (second, answers) = some secondAfter ∧
      AnsweredAlike threadId turnId incoming.message first second firstAfter secondAfter :=
    ⟨_, _, rfl, rfl, .same incoming.message first second answers⟩
  unfold handleServerRequest
  split
  · exact .inr (quiet [])
  · exact .inr (quiet [])
  · cases method with
    | null | bool | int | real => exact .inr (quiet _)
    -- a list or an object is unhashable, so looking the method up raises
    | arr | obj => exact .inl ⟨rfl, rfl⟩
    | str name =>
      dsimp only
      split_ifs with approval isCall
      · exact .inr (quiet _)
      · subst isCall
        split
        · rename_i missing
          have object : objectAt incoming.message "params" = [] := by
            unfold objectAt
            rw [missing]
          exact .inr ⟨_, _, rfl, rfl, answerToolCall_alike library first second named isRequest object⟩
        · rename_i params found
          have object : objectAt incoming.message "params" = params := by
            unfold objectAt
            rw [found]
          exact .inr ⟨_, _, rfl, rfl, answerToolCall_alike library first second named isRequest object⟩
        · exact .inl ⟨rfl, rfl⟩
      · exact .inr (quiet _)

end Requests

section Loops

variable (library : ToolLibrary) (loads : String → Option Json) (start : TurnStart) {threadId turnId : String}

def Exchange.context (exchange : Exchange) (threadId turnId : String) : Option TurnContext :=
  exchange.bridge.turnContexts.get? (threadId, turnId)

/-- Two loops of the same turn that go on alike. -/
structure LoopsAlike (threadId turnId : String) (first second : Exchange) : Prop where
  raised : first.raised = second.raised
  turn : ∃ here there, first.turn = some here ∧ second.turn = some there ∧ here.bare = there.bare
  answers : ofTurn threadId turnId first.answers = ofTurn threadId turnId second.answers
  context : first.context threadId turnId = second.context threadId turnId

/-- The loop of a turn that nothing has reached, beside the wait for its response. -/
structure LoopBesideWait (context : TurnContext) (threadId turnId : String) (loop wait : Exchange) : Prop where
  raised : loop.raised = wait.raised
  turn : ∃ here, loop.turn = some here ∧ here.bare = freshTurn threadId turnId
  waiting : wait.turn = none
  answers : ofTurn threadId turnId loop.answers = ofTurn threadId turnId wait.answers
  context : loop.context threadId turnId = some context

theorem ofTurn_append (first second : List Answer) :
    ofTurn threadId turnId (first ++ second) = ofTurn threadId turnId first ++ ofTurn threadId turnId second :=
  List.filter_append ..

theorem handleMessage_loopsAlike {first second : Exchange} (alike : LoopsAlike threadId turnId first second)
    (incoming : Incoming) :
    LoopsAlike threadId turnId (handleMessage library loads first incoming)
      (handleMessage library loads second incoming) := by
  unfold handleMessage
  cases named : incoming.message.lookup "method" with
  | none => exact alike
  | some method =>
    dsimp only
    split_ifs with isRequest
    · rcases handleServerRequest_alike library threadId turnId first.bridge second.bridge named isRequest with
        ⟨one, other⟩ | ⟨firstAfter, secondAfter, one, other, answered⟩
      · rw [one, other]
        exact { alike with raised := rfl }
      · rw [one, other]
        exact { alike with
          answers := by rw [ofTurn_append, ofTurn_append, alike.answers, answered.answers (.inr alike.context)]
          context := answered.context alike.context }
    · cases method with
      | null | bool | int | real | arr | obj => exact alike
      | str name =>
        obtain ⟨here, there, isHere, isThere, same⟩ := alike.turn
        refine { alike with turn := ⟨_, _, by rw [isHere]; rfl, by rw [isThere]; rfl, ?_⟩ }
        rw [handleNotification_bare loads name _ here, handleNotification_bare loads name _ there, same]

theorem exchangeStep_loopsAlike {first second : Exchange} (alike : LoopsAlike threadId turnId first second)
    (incoming : Incoming) :
    LoopsAlike threadId turnId (exchangeStep library loads start first incoming)
      (exchangeStep library loads start second incoming) := by
  obtain ⟨here, there, isHere, isThere, same⟩ := alike.turn
  have sameCompleted : here.bare.completed = there.bare.completed := congrArg TurnRunState.completed same
  rw [here.bare_completed, there.bare_completed] at sameCompleted
  rw [exchangeStep_running library loads start isHere, exchangeStep_running library loads start isThere,
    alike.raised, sameCompleted]
  split_ifs
  · exact alike
  · exact handleMessage_loopsAlike library loads alike incoming

/-- What does not bear on the turn leaves it fresh in the loop, and changes nothing for it in the wait. -/
theorem handleMessage_besideWait {context : TurnContext} {loop wait : Exchange}
    (beside : LoopBesideWait context threadId turnId loop wait) {incoming : Incoming}
    (unbearing : bearsOn threadId turnId incoming.message = false) :
    LoopBesideWait context threadId turnId (handleMessage library loads loop incoming)
      (handleMessage library loads wait incoming) := by
  unfold handleMessage
  cases named : incoming.message.lookup "method" with
  | none => exact beside
  | some method =>
    dsimp only
    split_ifs with isRequest
    · rcases handleServerRequest_alike library threadId turnId loop.bridge wait.bridge named isRequest with
        ⟨one, other⟩ | ⟨loopAfter, waitAfter, one, other, answered⟩
      · rw [one, other]
        exact { beside with raised := rfl }
      · rw [one, other]
        exact { beside with
          answers := by rw [ofTurn_append, ofTurn_append, beside.answers, answered.answers (.inl unbearing)]
          context := (answered.untouched unbearing).trans beside.context }
    · cases method with
      | null | bool | int | real | arr | obj => exact beside
      | str name =>
        obtain ⟨here, isHere, fresh⟩ := beside.turn
        have ids : here.threadId = threadId ∧ here.turnId = turnId :=
          ⟨congrArg TurnRunState.threadId fresh, congrArg TurnRunState.turnId fresh⟩
        have silent : notifies here.threadId here.turnId name (objectAt incoming.message "params") = false := by
          rw [ids.1, ids.2]
          unfold bearsOn at unbearing
          rw [named] at unbearing
          dsimp only at unbearing
          rwa [if_neg isRequest] at unbearing
        refine { beside with turn := ⟨_, by rw [isHere]; rfl, ?_⟩, waiting := by rw [beside.waiting]; rfl }
        exact (handleNotification_silent loads silent).trans fresh

theorem exchangeStep_besideWait {context : TurnContext} {loop wait : Exchange}
    (beside : LoopBesideWait context threadId turnId loop wait) {incoming : Incoming}
    (earlier : answersStart start incoming.message = false)
    (unbearing : bearsOn threadId turnId incoming.message = false) :
    LoopBesideWait context threadId turnId (exchangeStep library loads start loop incoming)
      (exchangeStep library loads start wait incoming) := by
  obtain ⟨here, isHere, fresh⟩ := beside.turn
  have open_ : here.completed = false := congrArg TurnRunState.completed fresh
  rw [exchangeStep_running library loads start isHere, open_, Bool.or_false]
  unfold exchangeStep
  rw [beside.waiting, ← beside.raised]
  dsimp only
  rw [earlier]
  split_ifs with raised absurdity
  · exact beside
  · exact absurd absurdity (by decide)
  · exact handleMessage_besideWait library loads beside unbearing

/-- `str.strip` -/
def strip (text : String) : String := rstrip (String.ofList (text.toList.dropWhile isPythonSpace))

/-- `final_message or "".join(chunks).strip()` -/
def TurnRunState.text (turn : TurnRunState) : String :=
  match turn.finalMessage.filter (· ≠ "") with
  | some message => message
  | none => strip (String.join turn.chunks)

/-- The text, the error and the completion that the turn ends with, and the answers to its tool calls. -/
structure SameEnd (threadId turnId : String) (first second : Exchange) : Prop where
  raised : first.raised = second.raised
  text : first.turn.elim "" TurnRunState.text = second.turn.elim "" TurnRunState.text
  turnError : first.turn.bind TurnRunState.turnError = second.turn.bind TurnRunState.turnError
  completed : first.turn.elim false TurnRunState.completed = second.turn.elim false TurnRunState.completed
  answers : ofTurn threadId turnId first.answers = ofTurn threadId turnId second.answers

theorem TurnRunState.bare_text (turn : TurnRunState) : turn.bare.text = turn.text := rfl

theorem LoopsAlike.sameEnd {first second : Exchange} (alike : LoopsAlike threadId turnId first second) :
    SameEnd threadId turnId first second := by
  obtain ⟨here, there, isHere, isThere, same⟩ := alike.turn
  refine ⟨alike.raised, ?_, ?_, ?_, alike.answers⟩
  · rw [isHere, isThere, Option.elim_some, Option.elim_some, ← here.bare_text, same, there.bare_text]
  · rw [isHere, isThere, Option.bind_some, Option.bind_some, ← here.bare_turnError, same, there.bare_turnError]
  · rw [isHere, isThere, Option.elim_some, Option.elim_some, ← here.bare_completed, same, there.bare_completed]

theorem strip_empty : strip "" = "" := by decide +kernel

theorem freshTurn_text (threadId turnId : String) : (freshTurn threadId turnId).text = "" := strip_empty

theorem LoopBesideWait.sameEnd {context : TurnContext} {loop wait : Exchange}
    (beside : LoopBesideWait context threadId turnId loop wait) : SameEnd threadId turnId wait loop := by
  obtain ⟨here, isHere, fresh⟩ := beside.turn
  refine ⟨beside.raised.symm, ?_, ?_, ?_, beside.answers.symm⟩
  · rw [isHere, beside.waiting, Option.elim_some, ← here.bare_text, fresh, freshTurn_text]
    rfl
  · rw [isHere, beside.waiting]
    exact (congrArg TurnRunState.turnError fresh).symm
  · rw [isHere, beside.waiting]
    exact (congrArg TurnRunState.completed fresh).symm

theorem setActiveRequestStatus_turnContexts (state : BridgeState) (requestId status : String) (message : Option String) :
    (state.setActiveRequestStatus requestId status message).turnContexts = state.turnContexts := by
  unfold BridgeState.setActiveRequestStatus
  split <;> rfl

/-- The context that a turn starts with. -/
def TurnStart.context : TurnContext :=
  registerTurnContext start.request start.previewDataUrl start.previewMimeType start.previewBytes

theorem startTurn_context (exchange : Exchange) (turnId : String) :
    (startTurn start exchange turnId).context start.threadId turnId = some start.context := by
  unfold startTurn Exchange.context
  dsimp only
  rw [setActiveRequestStatus_turnContexts]
  exact Dict.get?_set_self ..

theorem run_raised {exchange : Exchange} (raised : exchange.raised = true) (events : List Incoming) :
    run (exchangeStep library loads start) exchange events = exchange := by
  induction events with
  | nil => rfl
  | cons incoming rest ih =>
    have stays : exchangeStep library loads start exchange incoming = exchange := by
      unfold exchangeStep
      rw [if_pos raised]
    rw [run_cons, stays, ih]

/-- The response reads the same wherever it stands, when nothing before it bears on the turn. -/
theorem arrivalOrder_harmless {exchange : Exchange} (waiting : exchange.turn = none) (live : exchange.raised = false)
    {response : Incoming} {turnId : String} (isResponse : answersStart start response.message = true)
    (started : startedTurnId response.message = some turnId) (early late : List Incoming)
    (earlier : ∀ incoming ∈ early, answersStart start incoming.message = false)
    (unbearing : ∀ incoming ∈ early, bearsOn start.threadId turnId incoming.message = false) :
    SameEnd start.threadId turnId
      (run (exchangeStep library loads start) exchange (early ++ response :: late))
      (run (exchangeStep library loads start) exchange (response :: (early ++ late))) := by
  have starts (wait : Exchange) (isWaiting : wait.turn = none) (isLive : wait.raised = false) :
      exchangeStep library loads start wait response = startTurn start wait turnId := by
    unfold exchangeStep
    rw [isWaiting, isLive]
    dsimp only
    rw [if_neg (by decide), if_pos isResponse, started]
  rw [run_append, run_cons, run_cons, starts exchange waiting live, run_append]
  have initially : LoopBesideWait start.context start.threadId turnId (startTurn start exchange turnId) exchange :=
    ⟨rfl, ⟨_, rfl, rfl⟩, waiting, rfl, startTurn_context start exchange turnId⟩
  have keeps : ∀ incoming ∈ early, ∀ loop wait, LoopBesideWait start.context start.threadId turnId loop wait →
      LoopBesideWait start.context start.threadId turnId (exchangeStep library loads start loop incoming)
        (exchangeStep library loads start wait incoming) :=
    fun incoming member _ _ related =>
      exchangeStep_besideWait library loads start related (earlier incoming member) (unbearing incoming member)
  have beside := run_relates (LoopBesideWait start.context start.threadId turnId) keeps initially
  -- from here on only the relation between the two matters, not how they came about
  generalize run (exchangeStep library loads start) (startTurn start exchange turnId) early = loop at beside
  generalize run (exchangeStep library loads start) exchange early = wait at beside
  cases raised : wait.raised with
  | true =>
    have stays : exchangeStep library loads start wait response = wait :=
      run_raised library loads start raised [response]
    rw [stays, run_raised library loads start raised, run_raised library loads start (beside.raised.trans raised)]
    exact beside.sameEnd
  | false =>
    obtain ⟨here, isHere, fresh⟩ := beside.turn
    rw [starts wait beside.waiting raised]
    -- the response makes the wait what the loop is already, less token usage
    have alike : LoopsAlike start.threadId turnId (startTurn start wait turnId) loop :=
      ⟨beside.raised.symm, ⟨_, here, rfl, isHere, fresh.symm⟩, beside.answers.symm,
        (startTurn_context start wait turnId).trans beside.context.symm⟩
    exact (run_relates (LoopsAlike start.threadId turnId)
      (fun incoming _ _ _ related => exchangeStep_loopsAlike library loads start related incoming) alike).sameEnd

/-! The exposure request, with its tool call and its answer on either side of the response. -/

def exposureWait : Exchange := ⟨BridgeState.registerRequest ⟨.empty, .empty, .empty⟩ exposureRequest, none, [], false⟩

def exposureStarted : Incoming where
  message := [("id", .int 3), ("result", .obj [("turn", .obj [("id", .str "codex-1")])])]
  renders _ := none

def imageStateCall : Incoming where
  message := [("id", .int 0), ("method", .str "item/tool/call"), ("params", .obj [("threadId", .str "thread-1"),
    ("turnId", .str "codex-1"), ("tool", .str "get_image_state")])]
  renders _ := none

def finalAnswer : Incoming where
  message := [("method", .str "item/completed"), ("params", .obj [("threadId", .str "thread-1"),
    ("turnId", .str "codex-1"), ("item", .obj [("type", .str "agentMessage"), ("phase", .str "final_answer"),
      ("text", .str "Brighter.")])])]
  renders _ := none

/-- The tool call is refused and the answer dropped when they come before the response. -/
theorem arrivalOrder_early_lost :
    ¬ SameEnd "thread-1" "codex-1"
      (run (exchangeStep plainToolLibrary (fun _ => none) exposureStart) exposureWait
        ([imageStateCall, finalAnswer] ++ exposureStarted :: []))
      (run (exchangeStep plainToolLibrary (fun _ => none) exposureStart) exposureWait
        (exposureStarted :: ([imageStateCall, finalAnswer] ++ []))) := by
  intro same
  exact absurd same.completed (by decide +kernel)

theorem arrivalOrder_harmless_usage :
    SameEnd "thread-1" "codex-1"
      (run (exchangeStep plainToolLibrary (fun _ => none) exposureStart) exposureWait
        ([usageOfOtherTurn] ++ exposureStarted :: [imageStateCall, finalAnswer]))
      (run (exchangeStep plainToolLibrary (fun _ => none) exposureStart) exposureWait
        (exposureStarted :: ([usageOfOtherTurn] ++ [imageStateCall, finalAnswer]))) := by
  refine arrivalOrder_harmless plainToolLibrary _ exposureStart rfl rfl (by decide) rfl _ _
    (fun incoming member => ?_) (fun incoming member => ?_)
  all_goals
    obtain rfl : incoming = usageOfOtherTurn := by simpa using member
    decide

end Loops

end DarktableAgent.Server
