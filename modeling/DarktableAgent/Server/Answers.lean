import DarktableAgent.Server.Exchange

/-! What the bridge writes to the app-server while a turn runs.

The app-server asks for approvals and calls tools. Whatever it sends, each of its requests
is answered once and under its own id, in the order of their arrival, and no approval is
ever given.
-/

set_option autoImplicit false

namespace DarktableAgent.Server

open Foundation Protocol

def ContentItem.json : ContentItem → Json
  | .inputText text => .obj [("type", .str "inputText"), ("text", .str text)]
  | .inputImage imageUrl => .obj [("type", .str "inputImage"), ("imageUrl", .str imageUrl)]

def ToolResponse.json (response : ToolResponse) : Json :=
  .obj [("success", .bool response.success), ("contentItems", .arr (response.contentItems.map ContentItem.json))]

section Payload

-- how a method that is no text is written into the error
variable (display : Json → String)

/-- The member that carries a reply. -/
def ServerReply.member : ServerReply → String × Json
  | .decision value => ("result", .obj [("decision", .str value)])
  | .toolResult response => ("result", response.json)
  | .unsupported method => ("error", .obj [("code", .int (-32000)),
      ("message", .str ("Unsupported Codex server request: " ++ display method))])

/-- What `_handle_server_request_locked` sends. -/
def Answer.payload (answer : Answer) : JsonObject :=
  [("jsonrpc", .str "2.0"), ("id", (answer.request.lookup "id").getD .null), answer.reply.member display]

end Payload

def methodName (message : JsonObject) : Option String := (message.lookup "method").bind Json.str?

def isApproval (message : JsonObject) : Bool := (methodName message).any (· ∈ approvalMethods)

def isToolCall (message : JsonObject) : Bool := (methodName message).any (· = "item/tool/call")

def isRequestId : Json → Bool
  | .null => false
  | _ => true

/-- The app-server waits for an answer to this message. -/
def asksServer (message : JsonObject) : Bool :=
  (message.lookup "method").isSome && (message.lookup "id").any isRequestId

/-- An array or an object has no hash. -/
def hasHash : Json → Bool
  | .arr _ | .obj _ => false
  | _ => true

def hasCallParams (message : JsonObject) : Bool :=
  match message.lookup "params" with
  | none | some (.obj _) => true
  | some _ => false

/-- The method can be looked up, and the parameters of a tool call are an object or missing. -/
def answerable (message : JsonObject) : Bool :=
  asksServer message && (message.lookup "method").any hasHash && (!isToolCall message || hasCallParams message)

/-- How a request is answered: an approval is declined, and nothing else is decided. -/
structure AnsweredBy (request payload : JsonObject) : Prop where
  id : payload.lookup "id" = request.lookup "id"
  approval : isApproval request → payload.lookup "result" = some (.obj [("decision", .str "decline")])
  decision : isApproval request = false → (objectAt payload "result").lookup "decision" = none
  toolCall : isToolCall request → ∃ response : ToolResponse, payload.lookup "result" = some response.json
  other : isApproval request = false → isToolCall request = false →
    (objectAt payload "error").lookup "code" = some (.int (-32000))

namespace Exchange

variable (exchange : Exchange)

/-- The loop reads on. -/
def reads : Bool := !exchange.raised && !exchange.turn.any (·.completed)

end Exchange

section Answers

variable (library : ToolLibrary) (loads : String → Option Json) (start : TurnStart) (display : Json → String)

/-- The messages of a stream that are read before the turn is over or an exception leaves the loop. -/
def messagesRead : Exchange → List Incoming → List JsonObject
  | _, [] => []
  | exchange, incoming :: rest =>
    if exchange.reads then incoming.message :: messagesRead (exchangeStep library loads start exchange incoming) rest
    else []

variable {library loads start} {message : JsonObject} {id method : Json}

theorem isToolCall_not_approval (tool : isToolCall message) : isApproval message = false := by
  unfold isToolCall isApproval at *
  cases named : methodName message with
  | none => rfl
  | some name =>
    rw [named] at tool
    obtain rfl := of_decide_eq_true tool
    decide

/-- The payload has the id of the request, which is there. -/
theorem payload_id (asked : message.lookup "id" = some id) (reply : ServerReply) :
    (Answer.payload display ⟨message, reply⟩).lookup "id" = message.lookup "id" := by
  rw [asked]
  unfold Answer.payload
  rw [asked]
  rfl

theorem AnsweredBy.declined (asked : message.lookup "id" = some id) (approval : isApproval message) :
    AnsweredBy message (Answer.payload display ⟨message, .decision "decline"⟩) where
  id := payload_id display asked _
  approval _ := rfl
  decision none := by
    rw [none] at approval
    cases approval
  toolCall tool := by
    rw [isToolCall_not_approval tool] at approval
    cases approval
  other none := by
    rw [none] at approval
    cases approval

theorem AnsweredBy.called (asked : message.lookup "id" = some id) (tool : isToolCall message)
    (response : ToolResponse) : AnsweredBy message (Answer.payload display ⟨message, .toolResult response⟩) where
  id := payload_id display asked _
  approval approval := by
    rw [isToolCall_not_approval tool] at approval
    cases approval
  decision _ := rfl
  toolCall _ := ⟨response, rfl⟩
  other _ none := by
    rw [none] at tool
    cases tool

theorem AnsweredBy.refused (asked : message.lookup "id" = some id) (none : isApproval message = false)
    (noTool : isToolCall message = false) (named : Json) :
    AnsweredBy message (Answer.payload display ⟨message, .unsupported named⟩) where
  id := payload_id display asked _
  approval approval := by
    rw [none] at approval
    cases approval
  decision _ := rfl
  toolCall tool := by
    rw [noTool] at tool
    cases tool
  other _ _ := rfl

/-- What one message adds to the answers: one of its own where it can be answered, and otherwise none. -/
structure Adds (exchange after : Exchange) (message : JsonObject) : Prop where
  answers : ∃ added, after.answers = exchange.answers ++ added ∧
    List.Forall₂ AnsweredBy (if answerable message then [message] else []) (added.map (Answer.payload display))
  raises : asksServer message → answerable message = false → after.raised

variable {display} {exchange after : Exchange}

theorem Adds.nothing (silent : asksServer message = false) (answers : after.answers = exchange.answers) :
    Adds display exchange after message where
  answers := by
    refine ⟨[], answers.trans (List.append_nil _).symm, ?_⟩
    unfold answerable
    rw [silent]
    exact .nil
  raises asks := by
    rw [silent] at asks
    cases asks

theorem Adds.raised (hopeless : answerable message = false) (answers : after.answers = exchange.answers)
    (raised : after.raised) : Adds display exchange after message where
  answers := ⟨[], answers.trans (List.append_nil _).symm, by rw [hopeless]; exact .nil⟩
  raises _ _ := raised

theorem Adds.answer (able : answerable message) {reply : ServerReply}
    (answered : AnsweredBy message (Answer.payload display ⟨message, reply⟩))
    (answers : after.answers = exchange.answers ++ [⟨message, reply⟩]) : Adds display exchange after message where
  answers := ⟨[⟨message, reply⟩], answers, by rw [if_pos able]; exact .cons answered .nil⟩
  raises _ hopeless := by
    rw [able] at hopeless
    cases hopeless

/-- The methods that are texts. -/
theorem adds_named (exchange : Exchange) {renders : Nat → Option Bytes} {method : String}
    (name : methodName message = some method) (asked : message.lookup "id" = some id)
    (able : answerable message = (!isToolCall message || hasCallParams message)) :
    Adds display exchange
      (match (if method ∈ approvalMethods then
            some (exchange.bridge, [(⟨message, .decision "decline"⟩ : Answer)])
          else if method = "item/tool/call" then
            match message.lookup "params" with
            | none => some (answerToolCall library exchange.bridge ⟨message, renders⟩ [])
            | some (.obj params) => some (answerToolCall library exchange.bridge ⟨message, renders⟩ params)
            | some _ => none
          else some (exchange.bridge, [(⟨message, .unsupported (.str method)⟩ : Answer)]) :
            Option (BridgeState × List Answer)) with
        | none => { exchange with raised := true }
        | some (bridge, answers) => { exchange with bridge := bridge, answers := exchange.answers ++ answers })
      message := by
  have approval : isApproval message = decide (method ∈ approvalMethods) := by simp [isApproval, name]
  have tool : isToolCall message = decide (method = "item/tool/call") := by simp [isToolCall, name]
  -- without a tool call the parameters do not matter
  have plain : isToolCall message = false → answerable message := by
    intro noTool
    rw [able, noTool]
    rfl
  by_cases approves : method ∈ approvalMethods
  · rw [if_pos approves]
    rw [decide_eq_true approves] at approval
    have noTool : isToolCall message = false := by
      cases isTool : isToolCall message with
      | false => rfl
      | true =>
        rw [isToolCall_not_approval isTool] at approval
        cases approval
    exact .answer (plain noTool) (.declined display asked approval) rfl
  rw [if_neg approves]
  by_cases calls : method = "item/tool/call"
  · rw [if_pos calls]
    rw [decide_eq_true calls] at tool
    unfold hasCallParams at able
    rw [tool] at able
    cases params : message.lookup "params" with
    | none => exact .answer (by rw [able, params]; rfl) (.called display asked tool _) rfl
    | some given =>
      cases given with
      | obj members => exact .answer (by rw [able, params]; rfl) (.called display asked tool _) rfl
      | null | bool | int | real | str | arr => exact .raised (by rw [able, params]; rfl) rfl rfl
  · rw [if_neg calls]
    rw [decide_eq_false approves] at approval
    rw [decide_eq_false calls] at tool
    exact .answer (plain tool) (.refused display asked approval tool _) rfl

/-- A request with an id is answered under it, or raises where its method cannot be looked up or its parameters are
no object. -/
theorem handleServerRequest_adds (exchange : Exchange) {incoming : Incoming}
    (named : incoming.message.lookup "method" = some method) (asked : incoming.message.lookup "id" = some id) :
    Adds display exchange
      (match handleServerRequest library exchange.bridge incoming method with
        | none => { exchange with raised := true }
        | some (bridge, answers) => { exchange with bridge := bridge, answers := exchange.answers ++ answers })
      incoming.message := by
  obtain ⟨message, renders⟩ := incoming
  dsimp only at named asked
  have name : methodName message = method.str? := by simp [methodName, named]
  unfold handleServerRequest
  dsimp only
  rw [asked]
  cases id with
  | null => exact .nothing (by simp [asksServer, asked, isRequestId]) (List.append_nil _)
  | bool | int | real | str | arr | obj =>
    have asks : asksServer message = true := by simp [asksServer, named, asked, isRequestId]
    have able : answerable message = (hasHash method && (!isToolCall message || hasCallParams message)) := by
      unfold answerable
      rw [asks, named, Bool.true_and, Option.any_some]
    dsimp only
    cases method with
    | str text => exact adds_named exchange name asked able
    | arr | obj => exact .raised able rfl rfl
    | null | bool | int | real =>
      have noTool : isToolCall message = false := by simp [isToolCall, name, Json.str?]
      have noApproval : isApproval message = false := by simp [isApproval, name, Json.str?]
      exact .answer (by rw [able, noTool]; rfl) (.refused display asked noApproval noTool _) rfl

theorem handleMessage_adds (exchange : Exchange) (incoming : Incoming) :
    Adds display exchange (handleMessage library loads exchange incoming) incoming.message := by
  unfold handleMessage
  cases named : incoming.message.lookup "method" with
  | none => exact .nothing (by simp [asksServer, named]) rfl
  | some method =>
    dsimp only
    cases asked : incoming.message.lookup "id" with
    | none =>
      have silent : asksServer incoming.message = false := by simp [asksServer, asked]
      cases method <;> exact .nothing silent rfl
    | some id => exact handleServerRequest_adds exchange named asked

/-- A message that is read. The response that starts the turn is no request. -/
theorem exchangeStep_adds {exchange : Exchange} (reads : exchange.reads) (incoming : Incoming) :
    Adds display exchange (exchangeStep library loads start exchange incoming) incoming.message := by
  unfold Exchange.reads at reads
  rw [Bool.and_eq_true, Bool.not_eq_true', Bool.not_eq_true'] at reads
  obtain ⟨going, running⟩ := reads
  unfold exchangeStep
  rw [if_neg (by rw [going]; exact Bool.false_ne_true)]
  cases turn : exchange.turn with
  | none =>
    dsimp only
    split_ifs with starts
    · have silent : asksServer incoming.message = false := by
        unfold answersStart at starts
        rw [Bool.and_eq_true, Option.isNone_iff_eq_none] at starts
        simp [asksServer, starts.2]
      cases startedTurnId incoming.message with
      | none => exact .nothing silent rfl
      | some turnId => exact .nothing silent rfl
    · exact handleMessage_adds exchange incoming
  | some state =>
    rw [turn, Option.any_some] at running
    dsimp only
    rw [if_neg (by rw [running]; exact Bool.false_ne_true)]
    exact handleMessage_adds exchange incoming

/-- Once the turn is over, or an exception has left the loop, nothing is read. -/
theorem exchangeStep_closed {exchange : Exchange} (closed : exchange.reads = false) (incoming : Incoming) :
    exchangeStep library loads start exchange incoming = exchange := by
  unfold Exchange.reads at closed
  unfold exchangeStep
  by_cases raised : exchange.raised
  · rw [if_pos raised]
  · rw [if_neg raised]
    cases turn : exchange.turn with
    | none => simp [raised, turn] at closed
    | some state =>
      have completed : state.completed = true := by simpa [raised, turn] using closed
      simp [completed]

theorem run_closed {exchange : Exchange} (closed : exchange.reads = false) (messages : List Incoming) :
    run (exchangeStep library loads start) exchange messages = exchange := by
  induction messages with
  | nil => rfl
  | cons incoming rest ih =>
    rw [run_cons, exchangeStep_closed closed]
    exact ih

theorem messagesRead_closed {exchange : Exchange} (closed : exchange.reads = false) (messages : List Incoming) :
    messagesRead library loads start exchange messages = [] := by
  cases messages with
  | nil => rfl
  | cons incoming rest => exact if_neg (by rw [closed]; exact Bool.false_ne_true)

theorem messagesRead_cons {exchange : Exchange} (reads : exchange.reads) (incoming : Incoming) (rest : List Incoming) :
    messagesRead library loads start exchange (incoming :: rest) =
      incoming.message :: messagesRead library loads start (exchangeStep library loads start exchange incoming) rest :=
  if_pos reads

theorem filter_answerable_cons (message : JsonObject) (rest : List JsonObject) :
    (message :: rest).filter answerable = (if answerable message then [message] else []) ++ rest.filter answerable := by
  rw [List.filter_cons]
  split_ifs <;> rfl

/-- The answers that a run adds, one for each message that is read and can be answered. -/
theorem run_answers (exchange : Exchange) (messages : List Incoming) :
    ∃ added, (run (exchangeStep library loads start) exchange messages).answers = exchange.answers ++ added ∧
      List.Forall₂ AnsweredBy ((messagesRead library loads start exchange messages).filter answerable)
        (added.map (Answer.payload display)) := by
  induction messages generalizing exchange with
  | nil => exact ⟨[], (List.append_nil _).symm, .nil⟩
  | cons incoming rest ih =>
    cases reads : exchange.reads with
    | false =>
      refine ⟨[], ?_, ?_⟩
      · rw [run_closed reads, List.append_nil]
      · rw [messagesRead_closed reads]
        exact .nil
    | true =>
      have adds := @exchangeStep_adds library loads start display exchange reads incoming
      obtain ⟨added, answers, answered⟩ := adds.answers
      obtain ⟨later, laterAnswers, laterAnswered⟩ := ih (exchangeStep library loads start exchange incoming)
      rw [messagesRead_cons reads, run_cons, filter_answerable_cons]
      refine ⟨added ++ later, ?_, ?_⟩
      · rw [laterAnswers, answers, List.append_assoc]
      · rw [List.map_append]
        exact List.rel_append answered laterAnswered

/-- A request that cannot be answered raises, and the exception leaves the loop at once. -/
theorem run_unanswerable {exchange : Exchange} {messages : List Incoming} {earlier later : List JsonObject}
    (split : messagesRead library loads start exchange messages = earlier ++ message :: later)
    (asks : asksServer message) (hopeless : answerable message = false) :
    later = [] ∧ (run (exchangeStep library loads start) exchange messages).raised := by
  induction messages generalizing exchange earlier with
  | nil => exact absurd split.symm (List.append_ne_nil_of_right_ne_nil _ (List.cons_ne_nil _ _))
  | cons incoming rest ih =>
    cases reads : exchange.reads with
    | false =>
      rw [messagesRead_closed reads] at split
      exact absurd split.symm (List.append_ne_nil_of_right_ne_nil _ (List.cons_ne_nil _ _))
    | true =>
      rw [messagesRead_cons reads] at split
      rw [run_cons]
      cases earlier with
      | nil =>
        obtain ⟨rfl, rfl⟩ := List.cons.inj split
        -- how the error writes a method has no part in it
        have adds := @exchangeStep_adds library loads start (fun _ => "") exchange reads incoming
        have raised := adds.raises asks hopeless
        have closed : (exchangeStep library loads start exchange incoming).reads = false := by
          simp [Exchange.reads, raised]
        rw [run_closed closed, messagesRead_closed closed]
        exact ⟨rfl, raised⟩
      | cons first others => exact ih (List.cons.inj split).2

variable (library loads start display)

/-- Of the messages that are read in a turn, whatever they are, each request of the app-server that can be answered is
answered once, in order and under its own id; approvals are declined and no other answer decides anything; and a
request that cannot be answered is the last message that is read. -/
theorem requests_answered_once (exchange : Exchange) (messages : List Incoming) :
    let last := run (exchangeStep library loads start) exchange messages
    let read := messagesRead library loads start exchange messages
    (∃ added, last.answers = exchange.answers ++ added ∧
      List.Forall₂ AnsweredBy (read.filter answerable) (added.map (Answer.payload display))) ∧
    ∀ earlier message later, read = earlier ++ message :: later → asksServer message →
      answerable message = false → later = [] ∧ last.raised := by
  intro last read
  exact ⟨run_answers exchange messages, fun earlier message later split => run_unanswerable split⟩

end Answers

end DarktableAgent.Server
