import DarktableAgent.Protocol.WellFormed
import DarktableAgent.Stream.Sse
import DarktableAgent.Client.ChatRequest
import DarktableAgent.Chat.MainLoop

/-! The background job of a chat request: one transfer, read as an event stream.

What the transfer library delivers and how it ends is the environment's choice, and
so is whether the user has cancelled meanwhile. The job posts a snapshot for each
progress event while it reads, and one result when it is done.
-/

set_option autoImplicit false

namespace DarktableAgent.Chat

open Foundation Protocol DarktableAgent.Stream

/-- `json_parser_load_from_data`. A text without a document is loaded as null. -/
abbrev JsonLoader := Bytes → Except String Json

/-- How `curl_easy_perform` ends; another error comes with the library's description of it. -/
inductive CurlCode where
  | ok
  | abortedByCallback
  | other (description : String)
  deriving DecidableEq, Repr

def CurlCode.description : CurlCode → String
  | .ok => "No error"
  | .abortedByCallback => "Operation was aborted by an application callback"
  | .other description => description

/-- The handle keeps the ids of the request that is sent. -/
def requestHandle (request : Client.ChatRequest) : ClientRequest where
  requestId := request.requestId
  appSessionId := request.appSessionId
  imageSessionId := request.imageSessionId
  conversationId := request.conversationId
  turnId := request.turnId

/-- What the job has delivered so far, and the result it is going to deliver. -/
structure Received where
  progress : List (ClientProgress ℚ) := []
  result : ClientResult ℚ := {}
  deriving DecidableEq

section Events

variable (load : JsonLoader) (handle : ClientRequest)

/-- What `_parse_progress_payload` has filled in when it turns a payload down. -/
def filledBefore : Json → ClientProgress ℚ
  | .obj object => {
      found := optionalBool object "found"
      status := optionalStr object "status"
      message := optionalStr object "message"
      lastToolName := optionalStr object "lastToolName"
      toolCallsUsed := optionalCount object "toolCallsUsed"
      toolCallsMax := optionalCount object "maxToolCalls"
      appliedOperationCount := optionalCount object "appliedOperationCount"
      requiresRenderCallback := optionalBool object "requiresRenderCallback" }
  | _ => {}

/-- The snapshot that is delivered for the payload of a progress event. -/
def deliveredProgress (payload : Bytes) : ClientProgress ℚ :=
  match load payload with
  | .error complaint => { transportError := some complaint }
  | .ok document =>
    match parseProgressPayload handle document with
    | .ok progress => progress
    | .error complaint => { filledBefore document with transportError := some complaint }

/-- A final or error event. The first one that can be read is the response, the first complaint is kept. -/
def readFinal (payload : Bytes) (result : ClientResult ℚ) : ClientResult ℚ :=
  if result.response.isSome then result
  else
    match load payload >>= chatResponseParseData with
    | .ok response => { result with response := some response }
    | .error complaint => { result with transportError := some (result.transportError.getD complaint) }

/-- What `_sse_dispatch_current_event` does with an event that has data. -/
def receiveEvent (received : Received) (event : Bytes × Bytes) : Received :=
  if event.1 = ascii "progress".toList then
    { received with progress := received.progress ++ [deliveredProgress load handle event.2] }
  else if event.1 = ascii "final".toList ∨ event.1 = ascii "error".toList then
    { received with result := readFinal load event.2 received.result }
  else received

def receiveEvents (received : Received) (events : List (Bytes × Bytes)) : Received :=
  events.foldl (receiveEvent load handle) received

end Events

/-- What the environment makes of a job. The bytes arrive in the deliveries of the transfer library, and a
cancellation is never taken back. -/
structure ChatTransfer where
  cancelledBefore : Bool
  curlReady : Bool
  deliveries : List Bytes
  code : CurlCode
  cancelRequested : Bool
  stays : cancelledBefore → cancelRequested

/-- What the job has sent, and what it has posted when it returns. -/
structure JobRun where
  sent : Option Json
  received : Received

section Job

variable (load : JsonLoader) (request : Client.ChatRequest) (transfer : ChatTransfer)

/-- The event parser when the transfer is over. -/
def transferred : SseParser := transfer.deliveries.foldl writeSseResponse SseParser.start

/-- The result after `curl_easy_perform`. An event that no empty line has ended is taken up when the transfer is
complete, and a transfer that broke off is an error whatever was read before. -/
def concludeTransfer : Received :=
  let parser := transferred transfer
  let arrived := receiveEvents load (requestHandle request) {} parser.current.dispatched
  match transfer.code with
  | .ok =>
    let ended := receiveEvents load (requestHandle request) {} (sseDispatchCurrentEvent parser.current).dispatched
    if ended.result.response = none ∧ ended.result.transportError = none then
      { ended with result.transportError := some "chat stream ended without a final response" }
    else ended
  | code =>
    if code = .abortedByCallback ∧ transfer.cancelRequested then
      { arrived with result.transportError := some "chat request canceled", result.cancelled := true }
    else { arrived with result.transportError := some ("chat request failed: " ++ code.description) }

/-- `_chat_job_run` -/
def chatJobRun : JobRun :=
  if transfer.cancelledBefore then
    ⟨none, { result := { transportError := some "chat request canceled", cancelled := true } }⟩
  else
    match Client.chatRequestSerialize request with
    | .error message => ⟨none, { result := { transportError := some message } }⟩
    | .ok document =>
      if ¬ transfer.curlReady then
        ⟨none, { result := { transportError := some "failed to initialize network client" } }⟩
      else ⟨some document, concludeTransfer load request transfer⟩

section Bytes

/-- A parser that has read a list of deliveries has read their concatenation. -/
theorem transferred_reader (deliveries : List Bytes) :
    (deliveries.foldl writeSseResponse SseParser.start).reader =
      lines.drain handleLine SseParser.start.current deliveries.flatten := by
  have read := foldl_writeSseResponse_reader SseParser.start lines.split_nil deliveries
  rw [lines.feed_chunks handleLine SseParser.start.reader lines.split_nil] at read
  exact read

theorem transferred_congr {first second : List Bytes} (same : first.flatten = second.flatten) :
    first.foldl writeSseResponse SseParser.start = second.foldl writeSseResponse SseParser.start := by
  have readers : (first.foldl writeSseResponse SseParser.start).reader =
      (second.foldl writeSseResponse SseParser.start).reader := by
    rw [transferred_reader, transferred_reader, same]
  obtain ⟨current, lineBuffer⟩ := Prod.mk.inj readers
  generalize first.foldl writeSseResponse SseParser.start = parser at current lineBuffer ⊢
  cases parser
  simp_all

theorem dispatched_handleLine (current : CurrentEvent) (line : Bytes) :
    current.dispatched <+: (handleLine current line).dispatched := by
  unfold handleLine
  dsimp only
  split_ifs
  · unfold sseParserResetEvent sseDispatchCurrentEvent
    split_ifs
    · exact List.prefix_rfl
    · exact List.prefix_append ..
  all_goals exact List.prefix_rfl

/-- Reading on dispatches further events behind those that were dispatched. -/
theorem dispatched_drain (current : CurrentEvent) (buffer : Bytes) :
    current.dispatched <+: (lines.drain handleLine current buffer).1.dispatched := by
  induction current, buffer using Framing.drain.induct lines handleLine with
  | case1 current buffer incomplete =>
    simp [lines.drain_of_none handleLine incomplete]
  | case2 current buffer line rest found _ ih =>
    rw [lines.drain_of_some handleLine found]
    exact (dispatched_handleLine current line).trans ih

theorem dispatched_transferred (deliveries more : List Bytes) :
    (deliveries.foldl writeSseResponse SseParser.start).current.dispatched <+:
      ((deliveries ++ more).foldl writeSseResponse SseParser.start).current.dispatched := by
  have first := congrArg Prod.fst (transferred_reader deliveries)
  have whole := congrArg Prod.fst (transferred_reader (deliveries ++ more))
  rw [List.flatten_append, lines.drain_append] at whole
  have grows := dispatched_drain (lines.drain handleLine SseParser.start.current deliveries.flatten).1
    ((lines.drain handleLine SseParser.start.current deliveries.flatten).2 ++ more.flatten)
  rw [← whole, ← first] at grows
  exact grows

end Bytes

section Unterminated

theorem splitLine_unterminated {buffer : Bytes} (unterminated : newline ∉ buffer) : splitLine buffer = none := by
  induction buffer with
  | nil => rfl
  | cons byte rest ih =>
    obtain ⟨here, later⟩ := not_or.mp (List.mem_cons.not.mp unterminated)
    unfold splitLine
    rw [if_neg (Ne.symm here), ih later]
    split_ifs <;> rfl

/-- A body without a line feed, as the server writes its refusals, is never read. The job makes an error of its own. -/
theorem concludeTransfer_unterminated (complete : transfer.code = .ok)
    (unterminated : newline ∉ transfer.deliveries.flatten) : concludeTransfer load request transfer =
      { result := { transportError := some "chat stream ended without a final response" } } := by
  have reader := transferred_reader transfer.deliveries
  rw [lines.drain_of_none handleLine (splitLine_unterminated unterminated)] at reader
  have untouched : (transferred transfer).current = SseParser.start.current := congrArg Prod.fst reader
  unfold concludeTransfer
  dsimp only
  rw [complete, untouched]
  rfl

end Unterminated

section Growth

variable {load} {handle : ClientRequest}

/-- What was received begins what is received later, and a response stays the response. -/
structure Received.Before (earlier later : Received) : Prop where
  progress : earlier.progress <+: later.progress
  response : ∀ response, earlier.result.response = some response → later.result.response = some response

theorem Received.Before.refl (received : Received) : received.Before received := ⟨List.prefix_rfl, fun _ same => same⟩

theorem Received.Before.trans {first second third : Received} (left : first.Before second) (right : second.Before third) :
    first.Before third :=
  ⟨left.progress.trans right.progress, fun response same => right.response response (left.response response same)⟩

theorem readFinal_response {payload : Bytes} {result : ClientResult ℚ} {response : ChatResponse ℚ}
    (answered : result.response = some response) : readFinal load payload result = result := by
  unfold readFinal
  rw [answered]
  rfl

theorem before_receiveEvent (received : Received) (event : Bytes × Bytes) :
    received.Before (receiveEvent load handle received event) := by
  unfold receiveEvent
  split_ifs with isProgress isFinal
  · exact ⟨List.prefix_append .., fun _ same => same⟩
  · refine ⟨List.prefix_rfl, fun response answered => ?_⟩
    dsimp only
    rw [readFinal_response answered, answered]
  · exact Received.Before.refl received

theorem before_receiveEvents (received : Received) (events : List (Bytes × Bytes)) :
    received.Before (receiveEvents load handle received events) := by
  induction events generalizing received with
  | nil => exact Received.Before.refl received
  | cons event rest ih => exact (before_receiveEvent received event).trans (ih _)

theorem before_of_front (received : Received) {first second : List (Bytes × Bytes)} (front : first <+: second) :
    (receiveEvents load handle received first).Before (receiveEvents load handle received second) := by
  obtain ⟨rest, rfl⟩ := front
  have split : receiveEvents load handle received (first ++ rest) =
      receiveEvents load handle (receiveEvents load handle received first) rest := List.foldl_append
  rw [split]
  exact before_receiveEvents _ rest

theorem cancelled_receiveEvents (events : List (Bytes × Bytes)) (received : Received) :
    (receiveEvents load handle received events).result.cancelled = received.result.cancelled := by
  induction events generalizing received with
  | nil => rfl
  | cons event rest ih =>
    refine (ih _).trans ?_
    unfold receiveEvent
    split_ifs
    · rfl
    · unfold readFinal
      split
      · rfl
      · dsimp only
        split <;> rfl
    · rfl

end Growth

section Outcome

/-- A result that was not cancelled is one that the panel expects from a transfer, unless it says nothing at all. -/
theorem ending_of_uncancelled {result : ClientResult ℚ} (uncancelled : result.cancelled = false)
    (speaks : ¬ (result.response = none ∧ result.transportError = none)) (cancelRequested : Bool) :
    ∃ ending : TransferEnd ℚ, result = ending.result cancelRequested := by
  obtain ⟨response, transportError, cancelled⟩ := result
  obtain rfl : cancelled = false := uncancelled
  cases transportError with
  | some message => exact ⟨.failed message response, rfl⟩
  | none =>
    cases response with
    | some response => exact ⟨.completed response, rfl⟩
    | none => exact absurd ⟨rfl, rfl⟩ speaks

theorem concludeTransfer_ending : ∃ ending : TransferEnd ℚ,
    (concludeTransfer load request transfer).result = ending.result transfer.cancelRequested := by
  have uncancelled := fun events => @cancelled_receiveEvents load (requestHandle request) events {}
  unfold concludeTransfer
  dsimp only
  split
  · split_ifs with silent
    · refine ending_of_uncancelled ?_ (fun nothing => Option.some_ne_none _ nothing.2) _
      exact uncancelled _
    · exact ending_of_uncancelled (uncancelled _) silent _
  · split_ifs with aborted
    · rw [aborted.2]
      exact ⟨.aborted _, rfl⟩
    · refine ending_of_uncancelled ?_ (fun nothing => Option.some_ne_none _ nothing.2) _
      exact uncancelled _

theorem chatJobRun_ending : ∃ ending : TransferEnd ℚ,
    (chatJobRun load request transfer).received.result = ending.result transfer.cancelRequested := by
  unfold chatJobRun
  by_cases cancelled : transfer.cancelledBefore
  · refine ⟨.aborted none, ?_⟩
    rw [if_pos cancelled, transfer.stays cancelled]
    rfl
  rw [if_neg cancelled]
  cases Client.chatRequestSerialize request with
  | error message => exact ⟨.unreadable message, rfl⟩
  | ok document =>
    dsimp only
    split_ifs
    · exact concludeTransfer_ending load request transfer
    · exact ⟨.unreadable _, rfl⟩

/-- The events that the job takes up. -/
def takenEvents : List (Bytes × Bytes) :=
  if transfer.code = .ok then (sseDispatchCurrentEvent (transferred transfer).current).dispatched
  else (transferred transfer).current.dispatched

/-- How the transfer ended decides on the error, not on what was read. -/
theorem concludeTransfer_delivers : ∃ transportError cancelled, concludeTransfer load request transfer =
    let taken := receiveEvents load (requestHandle request) {} (takenEvents transfer)
    { taken with result.transportError := transportError, result.cancelled := cancelled } := by
  unfold concludeTransfer
  dsimp only
  split
  case h_1 completed =>
    have taken : takenEvents transfer = (sseDispatchCurrentEvent (transferred transfer).current).dispatched :=
      if_pos completed
    rw [taken]
    split_ifs <;> exact ⟨_, _, rfl⟩
  case h_2 broken =>
    have taken : takenEvents transfer = (transferred transfer).current.dispatched := if_neg broken
    rw [taken]
    split_ifs <;> exact ⟨_, _, rfl⟩

theorem takenEvents_grow (broken : transfer.code ≠ .ok) (more : List Bytes) : takenEvents transfer <+:
    takenEvents { transfer with deliveries := transfer.deliveries ++ more, code := .ok } := by
  unfold takenEvents
  rw [if_neg broken, if_pos rfl]
  refine (dispatched_transferred transfer.deliveries more).trans ?_
  unfold sseDispatchCurrentEvent
  split_ifs
  · exact List.prefix_rfl
  · exact List.prefix_append ..

/-- What a transfer delivers before it breaks begins what it would have delivered. -/
theorem concludeTransfer_before (broken : transfer.code ≠ .ok) (more : List Bytes) :
    (concludeTransfer load request transfer).Before
      (concludeTransfer load request { transfer with deliveries := transfer.deliveries ++ more, code := .ok }) := by
  obtain ⟨_, _, early⟩ := concludeTransfer_delivers load request transfer
  obtain ⟨_, _, late⟩ := concludeTransfer_delivers load request
    { transfer with deliveries := transfer.deliveries ++ more, code := .ok }
  have grows := @before_of_front load (requestHandle request) {} _ _
    (takenEvents_grow transfer broken more)
  rw [early, late]
  exact ⟨grows.progress, grows.response⟩

/-- The job reads a byte stream: deliveries may be cut anywhere, a transfer that breaks off has posted the beginning of
what the whole one posts, and the result is one that the panel expects. -/
theorem chatJobRun_reads_bytes :
    (∀ deliveries, deliveries.flatten = transfer.deliveries.flatten →
      chatJobRun load request { transfer with deliveries } = chatJobRun load request transfer) ∧
    (transfer.code ≠ .ok → ∀ more, (chatJobRun load request transfer).received.Before (chatJobRun load request
      { transfer with deliveries := transfer.deliveries ++ more, code := .ok }).received) ∧
    ∃ ending : TransferEnd ℚ,
      (chatJobRun load request transfer).received.result = ending.result transfer.cancelRequested := by
  refine ⟨fun deliveries same => ?_, fun broken more => ?_, chatJobRun_ending load request transfer⟩
  · unfold chatJobRun concludeTransfer transferred
    rw [transferred_congr same]
  · unfold chatJobRun
    by_cases cancelled : transfer.cancelledBefore
    · rw [if_pos cancelled, if_pos cancelled]
      exact Received.Before.refl _
    rw [if_neg cancelled, if_neg cancelled]
    cases Client.chatRequestSerialize request with
    | error message => exact Received.Before.refl _
    | ok document =>
      dsimp only
      split_ifs
      · exact concludeTransfer_before load request transfer broken more
      · exact Received.Before.refl _

end Outcome

section WellFormed

/-- Every response that was delivered, with a snapshot or as the result, is well-formed. -/
structure Received.WellFormed (received : Received) : Prop where
  progress : ∀ progress ∈ received.progress, ∀ response, progress.response = some response → ResponseWellFormed response
  result : ∀ response, received.result.response = some response → ResponseWellFormed response

theorem wellFormed_unanswered {result : ClientResult ℚ} (unanswered : result.response = none) :
    Received.WellFormed ⟨[], result⟩ := by
  refine ⟨fun progress member => absurd member List.not_mem_nil, fun response answered => ?_⟩
  have noResponse : result.response = some response := answered
  rw [unanswered] at noResponse
  cases noResponse

theorem deliveredProgress_wellFormed (handle : ClientRequest) (payload : Bytes) (response : ChatResponse ℚ)
    (answered : (deliveredProgress load handle payload).response = some response) : ResponseWellFormed response := by
  unfold deliveredProgress at answered
  cases loaded : load payload with
  | error complaint =>
    rw [loaded] at answered
    cases answered
  | ok document =>
    rw [loaded] at answered
    dsimp only at answered
    cases parsed : parseProgressPayload handle document with
    | ok progress =>
      rw [parsed] at answered
      exact parseProgressPayload_wellFormed parsed answered
    | error complaint =>
      rw [parsed] at answered
      -- a payload that is turned down never has its response filled in
      cases document <;> cases answered

theorem readFinal_wellFormed {result : ClientResult ℚ} (payload : Bytes)
    (before : ∀ response, result.response = some response → ResponseWellFormed response) :
    ∀ response, (readFinal load payload result).response = some response → ResponseWellFormed response := by
  unfold readFinal
  split_ifs
  · exact before
  · cases read : load payload >>= chatResponseParseData with
    | error complaint => exact before
    | ok found =>
      intro response answered
      obtain rfl := Option.some.inj answered
      obtain ⟨document, -, accepted⟩ := bind_eq_ok.mp read
      exact accepted_wellFormed accepted

theorem receiveEvents_wellFormed (handle : ClientRequest) (events : List (Bytes × Bytes)) {received : Received}
    (before : received.WellFormed) : (receiveEvents load handle received events).WellFormed := by
  induction events generalizing received with
  | nil => exact before
  | cons event rest ih =>
    apply ih
    unfold receiveEvent
    split_ifs
    · refine ⟨fun progress member => ?_, before.result⟩
      rcases List.mem_append.mp member with earlier | new
      · exact before.progress progress earlier
      · rw [List.mem_singleton.mp new]
        exact deliveredProgress_wellFormed load handle event.2
    · exact ⟨before.progress, readFinal_wellFormed load event.2 before.result⟩
    · exact before

/-- Whatever bytes arrive, whatever the JSON reader makes of them and however the transfer ends, every response that the
job posts is well-formed. -/
theorem chatJobRun_wellFormed : (chatJobRun load request transfer).received.WellFormed := by
  unfold chatJobRun
  by_cases cancelled : transfer.cancelledBefore
  · rw [if_pos cancelled]
    exact wellFormed_unanswered rfl
  rw [if_neg cancelled]
  cases Client.chatRequestSerialize request with
  | error message => exact wellFormed_unanswered rfl
  | ok document =>
    dsimp only
    split_ifs
    · obtain ⟨transportError, cancelled, delivers⟩ := concludeTransfer_delivers load request transfer
      have empty : Received.WellFormed {} := wellFormed_unanswered rfl
      have taken := receiveEvents_wellFormed load (requestHandle request) (takenEvents transfer) empty
      rw [delivers]
      exact ⟨taken.progress, taken.result⟩
    · exact wellFormed_unanswered rfl

end WellFormed

end Job

end DarktableAgent.Chat
