import Mathlib.Data.List.Destutter
import DarktableAgent.Protocol.ErrorAgreement
import DarktableAgent.Chat.Job
import DarktableAgent.Live.ExactlyOnce

/-! The event stream of a request, from the generator on the server to what the job posts.

The generator's events are encoded one after the other, their bytes reach the job in
any pieces, and the job posts one snapshot for each progress event and the response
that the stream ends with. The JSON reader is assumed to read back what was written.
-/

set_option autoImplicit false

namespace DarktableAgent.Live

open Foundation Protocol Client Chat DarktableAgent.Stream
open Server hiding Bytes

section Wire

variable (floatRepr : ℚ → Bytes)

def eventNames : List String := ["accepted", "progress", "final", "error", "completed"]

theorem eventNames_graphic : ∀ name ∈ eventNames, ascii name.toList ≠ [] ∧
    ∀ byte ∈ ascii name.toList, asciiIsspace byte = false ∧ byte ≠ 0 := by decide +kernel

/-- `_encode_sse` for an event of the generator. -/
def eventBytes (event : ServerEvent) : Bytes := encodeSse floatRepr (ascii event.name.toList) event.payload

def streamBytes (events : List ServerEvent) : Bytes := events.flatMap (eventBytes floatRepr)

/-- An event as the parser dispatches it. -/
def dispatchedAs (event : ServerEvent) : Bytes × Bytes :=
  (ascii event.name.toList, (Json.obj event.payload).dumps floatRepr)

variable {floatRepr}

/-- Events with known names are encoded as the parser expects them. -/
theorem streamBytes_encoded (oneLine : ∀ value, ∀ byte ∈ floatRepr value, Printable byte) {events : List ServerEvent}
    (named : ∀ event ∈ events, event.name ∈ eventNames) : ∃ texts : List (EventName × ObjectText),
      encodeEvents texts = streamBytes floatRepr events ∧
        texts.map (fun (name, text) => (name.bytes, text.bytes)) = events.map (dispatchedAs floatRepr) := by
  induction events with
  | nil => exact ⟨[], rfl, rfl⟩
  | cons event rest ih =>
    obtain ⟨texts, bytes, dispatched⟩ := ih fun other member => named other (List.mem_cons_of_mem _ member)
    obtain ⟨present, graphic⟩ := eventNames_graphic event.name (named event List.mem_cons_self)
    refine ⟨(⟨_, present, graphic⟩, ObjectText.dumps oneLine event.payload) :: texts, ?_, ?_⟩
    · change _ ++ encodeEvents texts = _ ++ streamBytes floatRepr rest
      rw [bytes]
      rfl
    · rw [List.map_cons, List.map_cons, dispatched]
      rfl

/-- However the stream is cut, the parser ends with every event dispatched and nothing pending. -/
theorem transferred_stream (oneLine : ∀ value, ∀ byte ∈ floatRepr value, Printable byte) {events : List ServerEvent}
    (named : ∀ event ∈ events, event.name ∈ eventNames) {deliveries : List Bytes}
    (cut : deliveries.flatten = streamBytes floatRepr events) :
    deliveries.foldl writeSseResponse SseParser.start = ⟨[], ⟨none, [], events.map (dispatchedAs floatRepr)⟩⟩ := by
  obtain ⟨texts, bytes, dispatched⟩ := streamBytes_encoded oneLine named
  rw [foldl_writeSseResponse texts deliveries (cut.trans bytes.symm), dispatched]

end Wire

section Polled

/-- The snapshots that differ in their signature from the one sent before them. -/
def changedPayloads (last : Option RequestProgressPayload) :
    List RequestProgressPayload → List RequestProgressPayload
  | [] => []
  | payload :: rest =>
    if last.map progressSignature = some (progressSignature payload) then changedPayloads last rest
    else payload :: changedPayloads (some payload) rest

theorem pollProgress_changed (last : Option RequestProgressPayload) (snapshots : List RequestProgressPayload) :
    pollProgress last snapshots =
      ((changedPayloads last snapshots).map .progress, (changedPayloads last snapshots).getLast?.or last) := by
  induction snapshots generalizing last with
  | nil => cases last <;> rfl
  | cons payload rest ih =>
    unfold pollProgress changedPayloads
    split_ifs
    · exact ih last
    · rw [ih, List.getLast?_cons]
      cases (changedPayloads (some payload) rest).getLast? <;> rfl

theorem changedPayloads_sublist (last : Option RequestProgressPayload) (snapshots : List RequestProgressPayload) :
    (changedPayloads last snapshots).Sublist snapshots := by
  induction snapshots generalizing last with
  | nil => exact .slnil
  | cons payload rest ih =>
    unfold changedPayloads
    split_ifs
    · exact (ih last).cons _
    · exact (ih _).cons_cons _

variable (request : RequestEnvelope) (snapshots : List RequestProgressPayload)

/-- The response that a stream ends with, if one can be built. -/
def reportedResponse : PlanOutcome → Option ResponseEnvelope
  | .planned plan => some (buildResponseFromPlan request plan)
  | .codexAppServerError code message => report code message
  | .validationError | .otherException => report "internal_error" (.ofString "Unexpected server error")
where
  report (code : String) (message : PyJson) : Option ResponseEnvelope :=
    (buildErrorPayload request.requestId request.session.toResponseSession (some (buildRequestErrorRefinement request))
      code message).toOption

/-- The payloads of the progress events, in the order in which they are sent. -/
def sentPayloads : PlanOutcome → List RequestProgressPayload
  | .planned plan => changedPayloads none snapshots ++
      [completionProgress request (buildResponseFromPlan request plan) (changedPayloads none snapshots).getLast?]
  | _ => changedPayloads none snapshots

def resultName : ResponseStatus → String
  | .ok => "final"
  | .error => "error"

theorem resultName_known (status : ResponseStatus) : resultName status ∈ eventNames := by cases status <;> decide

/-- The event that carries the result. -/
def resultEvent (response : ResponseEnvelope) : ServerEvent := ⟨resultName response.status, response.members⟩

/-- The stream: its opening, the snapshots, and the result with the closing event unless it cannot be built. -/
theorem chatStream_events (outcome : PlanOutcome) : (chatStream request snapshots outcome).events =
    ⟨"accepted", [("requestId", .str request.requestId)]⟩ ::
      ((sentPayloads request snapshots outcome).map .progress ++
        match reportedResponse request outcome with
        | some response => [resultEvent response, ⟨"completed", [("requestId", .str request.requestId)]⟩]
        | none => []) := by
  have reported : ∀ code message, reportError request code message =
      (buildErrorPayload request.requestId request.session.toResponseSession
        (some (buildRequestErrorRefinement request)) code message).map fun response => [resultEvent response] := by
    intro code message
    unfold reportError buildErrorPayload
    cases requireTextValue "text" message <;> cases requireText "code" code <;>
      cases requireTextValue "message" message <;> rfl
  have failed : ∀ code message, outcomeEvents request (changedPayloads none snapshots).getLast? outcome =
      reportError request code message → reportedResponse request outcome = reportedResponse.report request code message →
      sentPayloads request snapshots outcome = changedPayloads none snapshots → (chatStream request snapshots outcome).events =
      ⟨"accepted", [("requestId", .str request.requestId)]⟩ ::
      ((sentPayloads request snapshots outcome).map .progress ++
        match reportedResponse request outcome with
        | some response => [resultEvent response, ⟨"completed", [("requestId", .str request.requestId)]⟩]
        | none => []) := by
    intro code message events response sent
    unfold chatStream
    rw [pollProgress_changed, Option.or_none]
    dsimp only
    rw [events, response, sent, reported, reportedResponse.report]
    cases buildErrorPayload request.requestId request.session.toResponseSession
      (some (buildRequestErrorRefinement request)) code message with
    | error raised => simp [Except.map, Except.toOption]
    | ok response => simp [Except.map, Except.toOption]
  cases outcome with
  | planned plan =>
    unfold chatStream
    rw [pollProgress_changed, Option.or_none]
    simp [outcomeEvents, sentPayloads, reportedResponse, resultEvent, buildResponseFromPlan, resultName]
  | codexAppServerError code message => exact failed code message rfl rfl rfl
  | validationError | otherException =>
    exact failed "internal_error" (.ofString "Unexpected server error") rfl rfl rfl

/-- An exception leaves the generator exactly where no response can be built. -/
theorem chatStream_raised (outcome : PlanOutcome) :
    (chatStream request snapshots outcome).raised.isNone = (reportedResponse request outcome).isSome := by
  have failed : ∀ code message, outcomeEvents request (changedPayloads none snapshots).getLast? outcome =
      reportError request code message → reportedResponse request outcome = reportedResponse.report request code message →
      (chatStream request snapshots outcome).raised.isNone = (reportedResponse request outcome).isSome := by
    intro code message events response
    unfold chatStream
    rw [pollProgress_changed, Option.or_none]
    dsimp only
    rw [events, response, reportedResponse.report, reportError]
    cases buildErrorPayload request.requestId request.session.toResponseSession
      (some (buildRequestErrorRefinement request)) code message <;> rfl
  cases outcome with
  | planned plan => rfl
  | codexAppServerError code message => exact failed code message rfl rfl
  | validationError | otherException => exact failed "internal_error" (.ofString "Unexpected server error") rfl rfl

theorem chatStream_named (outcome : PlanOutcome) :
    ∀ event ∈ (chatStream request snapshots outcome).events, event.name ∈ eventNames := by
  rw [chatStream_events]
  intro event member
  rcases List.mem_cons.mp member with rfl | member
  · change "accepted" ∈ eventNames
    decide
  rcases List.mem_append.mp member with isProgress | isResult
  · obtain ⟨payload, -, rfl⟩ := List.mem_map.mp isProgress
    change "progress" ∈ eventNames
    decide
  · generalize reportedResponse request outcome = reported at isResult
    cases reported with
    | none => cases isResult
    | some response =>
      rcases List.mem_cons.mp isResult with rfl | isLast
      · exact resultName_known response.status
      · rw [List.mem_singleton.mp isLast]
        change "completed" ∈ eventNames
        decide

end Polled

section Received

variable {load : JsonLoader} {floatRepr : ℚ → Bytes} {request : RequestEnvelope}
  {snapshots : List RequestProgressPayload} {outcome : PlanOutcome}

/-- A snapshot without NUL that fits the client's fields and counts what it lists. -/
structure SnapshotFits (payload : RequestProgressPayload) : Prop extends PayloadFits payload where
  counted : payload.appliedOperationCount = 0 → payload.operations = []

def OutcomeFits : PlanOutcome → Prop
  | .planned plan => PlanFits plan ∧ plan.operations.length < 2 ^ 32
  | .codexAppServerError code message => NulFree code ∧ ∀ text, message.text? = some text → NulFree text
  | .validationError | .otherException => True

theorem completionProgress_fits (requestFits : RequestFits request) {plan : AgentPlan}
    (short : plan.operations.length < 2 ^ 32) {last : Option RequestProgressPayload}
    (lastFits : ∀ payload, last = some payload → SnapshotFits payload) :
    SnapshotFits (completionProgress request (buildResponseFromPlan request plan) last) := by
  have completed : NulFree "completed" := by unfold NulFree; decide
  have message : NulFree "Codex plan completed" := by unfold NulFree; decide
  cases last with
  | some payload =>
    have fits := lastFits payload rfl
    exact { fits with status := completed, message := message }
  | none =>
    have maxPasses := requestFits.maxPasses
    constructor
    case counted => exact fun _ => rfl
    case toPayloadFits =>
      constructor
      case status => exact completed
      case message => exact message
      case lastToolName =>
        intro name known
        exact absurd known (Option.some_ne_none name).symm
      case toolCallsUsed => change 0 < 2 ^ 32; omega
      case maxToolCalls =>
        change (if request.refinement.enabled then request.refinement.maxPasses.toNat else 1) < 2 ^ 32
        split_ifs <;> omega
      case appliedOperationCount => exact short
      case operations =>
        intro dict member
        exact absurd member List.not_mem_nil

theorem sentPayloads_fit (requestFits : RequestFits request) (outcomeFits : OutcomeFits outcome)
    (snapshotsFit : ∀ payload ∈ snapshots, SnapshotFits payload) :
    ∀ payload ∈ sentPayloads request snapshots outcome, SnapshotFits payload := by
  have changed : ∀ payload ∈ changedPayloads none snapshots, SnapshotFits payload := fun payload member =>
    snapshotsFit payload ((changedPayloads_sublist none snapshots).subset member)
  cases outcome with
  | planned plan =>
    intro payload member
    rcases List.mem_append.mp member with polled | last
    · exact changed payload polled
    · rw [List.mem_singleton.mp last]
      exact completionProgress_fits requestFits outcomeFits.2 fun payload isLast =>
        changed payload (List.mem_of_getLast? isLast)
  | codexAppServerError | validationError | otherException => exact changed

/-- What the stream ends with is read back. -/
theorem reportedResponse_read (requestFits : RequestFits request) (outcomeFits : OutcomeFits outcome)
    {response : ResponseEnvelope} (reported : reportedResponse request outcome = some response) :
    ∃ parsed, chatResponseParseData response.modelDump = .ok parsed ∧ ResponseAgrees response parsed := by
  have failure : ∀ code message, NulFree code → (∀ text, message.text? = some text → NulFree text) →
      reportedResponse.report request code message = some response →
      ∃ parsed, chatResponseParseData response.modelDump = .ok parsed ∧ ResponseAgrees response parsed := by
    intro code message codeFree messageFree built
    replace built : buildErrorPayload request.requestId request.session.toResponseSession
        (some (buildRequestErrorRefinement request)) code message = .ok response := by
      unfold reportedResponse.report at built
      cases payload : buildErrorPayload request.requestId request.session.toResponseSession
        (some (buildRequestErrorRefinement request)) code message with
      | error raised => simp [payload, Except.toOption] at built
      | ok other => simpa [payload, Except.toOption] using built
    obtain ⟨error, reports, sameCode, sameMessage, sameRequest, sameSession, sameText, sameRefinement⟩ :=
      buildErrorPayload_eq_ok built
    have texts := requestFits.texts
    have present := request.session.present
    simp only [List.forall_mem_cons] at texts present
    obtain ⟨requestFree, appFree, imageFree, conversationFree, turnFree, -⟩ := texts
    obtain ⟨app, image, conversation, turn, -⟩ := present
    have fits : ErrorFits response error := by
      refine ⟨reports, ?_, ?_, by rwa [sameCode], messageFree _ sameMessage, ?_, ?_, ?_⟩
      · simp only [ResponseEnvelope.ids, List.forall_mem_cons, sameRequest, sameSession]
        exact ⟨requestFree, appFree, imageFree, conversationFree, turnFree, List.forall_mem_nil _⟩
      · rw [sameText]
        exact messageFree _ sameMessage
      all_goals rw [sameRefinement]
      · exact request.refinement.passIndex_le
      · exact requestFits.maxPasses
      · rfl
    refine (error_readable_iff fits).mpr ?_
    simp only [ResponseEnvelope.ids, List.forall_mem_cons, sameRequest, sameSession]
    exact ⟨request.requestIdPresent, app, image, conversation, turn, List.forall_mem_nil _⟩
  cases outcome with
  | planned plan =>
    obtain rfl := Option.some.inj reported
    exact chatResponseParseData_buildResponseFromPlan requestFits outcomeFits.1
  | codexAppServerError code message => exact failure code message outcomeFits.1 outcomeFits.2 reported
  | validationError | otherException =>
    refine failure _ _ (by unfold NulFree; decide) (fun text same => ?_) reported
    rw [← Option.some.inj ((PyJson.text?_ofString _).symm.trans same)]
    unfold NulFree
    decide

/-- The reader of JSON gives back what the server has written for an event. -/
def Loads (load : JsonLoader) (floatRepr : ℚ → Bytes) (event : ServerEvent) : Prop :=
  load ((Json.obj event.payload).dumps floatRepr) = .ok (.obj event.payload)

theorem receiveEvents_progress (requestFits : RequestFits request) {payloads : List RequestProgressPayload}
    (fits : ∀ payload ∈ payloads, SnapshotFits payload)
    (loads : ∀ payload ∈ payloads, Loads load floatRepr (.progress payload)) (received : Received) :
    receiveEvents load request.clientRequest received
        ((payloads.map ServerEvent.progress).map (dispatchedAs floatRepr)) =
      { received with progress := received.progress ++ payloads.map (progressRead request) } := by
  induction payloads generalizing received with
  | nil => simp [receiveEvents]
  | cons payload rest ih =>
    have snapshot := fits payload List.mem_cons_self
    have read : deliveredProgress load request.clientRequest ((Json.obj payload.members).dumps floatRepr) =
        progressRead request payload := by
      unfold deliveredProgress
      have loaded : load ((Json.obj payload.members).dumps floatRepr) = .ok payload.json :=
        loads payload List.mem_cons_self
      rw [loaded]
      dsimp only
      rw [parseProgressPayload_read requestFits snapshot.toPayloadFits snapshot.counted]
    have first : receiveEvent load request.clientRequest received (dispatchedAs floatRepr (.progress payload)) =
        { received with progress := received.progress ++ [progressRead request payload] } := by
      simp only [receiveEvent, dispatchedAs, ServerEvent.progress, read, if_true]
    have later := ih (fun other member => fits other (List.mem_cons_of_mem _ member))
      (fun other member => loads other (List.mem_cons_of_mem _ member))
      { received with progress := received.progress ++ [progressRead request payload] }
    rw [List.map_cons, List.map_cons, receiveEvents, List.foldl_cons, first]
    refine later.trans ?_
    simp

theorem resultName_distinct (status : ResponseStatus) :
    ascii (resultName status).toList ≠ ascii "progress".toList ∧
      (ascii (resultName status).toList = ascii "final".toList ∨
        ascii (resultName status).toList = ascii "error".toList) := by
  cases status <;> decide

theorem receiveEvent_result {response : ResponseEnvelope} (loads : Loads load floatRepr (resultEvent response))
    {parsed : ChatResponse ℚ} (read : chatResponseParseData response.modelDump = .ok parsed) (handle : ClientRequest)
    {received : Received} (waiting : received.result = {}) :
    receiveEvent load handle received (dispatchedAs floatRepr (resultEvent response)) =
      { received with result := { response := some parsed } } := by
  have final : readFinal load ((Json.obj response.members).dumps floatRepr) received.result =
      { response := some parsed } := by
    have loaded : load ((Json.obj response.members).dumps floatRepr) = .ok response.modelDump := loads
    rw [waiting, readFinal, loaded]
    have known : (Except.ok response.modelDump >>= chatResponseParseData) = .ok parsed := read
    simp [known]
  have name : (dispatchedAs floatRepr (resultEvent response)).1 = ascii (resultName response.status).toList := rfl
  obtain ⟨notProgress, isResult⟩ := resultName_distinct response.status
  unfold receiveEvent
  rw [name, if_neg notProgress, if_pos isResult, ← final]
  rfl

/-- The opening and the closing event say nothing to the job. -/
theorem receiveEvent_bystander {event : ServerEvent} (bystander : event.name = "accepted" ∨ event.name = "completed")
    (handle : ClientRequest) (received : Received) :
    receiveEvent load handle received (dispatchedAs floatRepr event) = received := by
  have other : ∀ name ∈ ["progress", "final", "error"], ascii event.name.toList ≠ ascii name.toList := by
    rcases bystander with opening | closing
    · rw [opening]
      decide
    · rw [closing]
      decide
  unfold receiveEvent dispatchedAs
  rw [if_neg (other "progress" (by decide)), if_neg]
  rintro (isFinal | isError)
  · exact other "final" (by decide) isFinal
  · exact other "error" (by decide) isError

/-- A stream whose request, snapshots and outcome fit the client, with a JSON reader that reads its events back. -/
structure StreamFits (load : JsonLoader) (floatRepr : ℚ → Bytes) (request : RequestEnvelope)
    (snapshots : List RequestProgressPayload) (outcome : PlanOutcome) : Prop where
  requestFits : RequestFits request
  snapshotsFit : ∀ payload ∈ snapshots, SnapshotFits payload
  outcomeFits : OutcomeFits outcome
  oneLine : ∀ value, ∀ byte ∈ floatRepr value, Printable byte
  loads : ∀ event ∈ (chatStream request snapshots outcome).events, Loads load floatRepr event

/-- A response that is sent in chunks and broken off before the last one. -/
def CurlCode.partialFile : CurlCode := .other "Transferred a partial file"

/-- The transfer brings everything that was generated, in any pieces. When an exception leaves the generator, the
connection is closed without the chunk that ends the response. -/
structure Arrives (floatRepr : ℚ → Bytes) (generated : Generated) (transfer : ChatTransfer) : Prop where
  code : transfer.code = if generated.raised.isNone then .ok else CurlCode.partialFile
  bytes : transfer.deliveries.flatten = streamBytes floatRepr generated.events

/-- All events have ended with their empty lines, so that nothing is left to be taken up. -/
theorem transferred_arrived (fits : StreamFits load floatRepr request snapshots outcome) {transfer : ChatTransfer}
    (arrives : Arrives floatRepr (chatStream request snapshots outcome) transfer) :
    (transferred transfer).current.dispatched =
        (chatStream request snapshots outcome).events.map (dispatchedAs floatRepr) ∧
      (sseDispatchCurrentEvent (transferred transfer).current).dispatched =
        (chatStream request snapshots outcome).events.map (dispatchedAs floatRepr) := by
  have ended : transferred transfer = _ :=
    transferred_stream fits.oneLine (chatStream_named request snapshots outcome) arrives.bytes
  rw [ended]
  exact ⟨rfl, congrArg CurrentEvent.dispatched (if_pos rfl)⟩

/-- What the job reads of a stream, in the order of its events. -/
theorem receiveEvents_stream (fits : StreamFits load floatRepr request snapshots outcome) :
    let received := receiveEvents load request.clientRequest {}
      ((chatStream request snapshots outcome).events.map (dispatchedAs floatRepr))
    received.progress = (sentPayloads request snapshots outcome).map (progressRead request) ∧
      match reportedResponse request outcome with
      | some response => ∃ parsed, chatResponseParseData response.modelDump = .ok parsed ∧
          ResponseAgrees response parsed ∧ received.result = { response := some parsed }
      | none => received.result = {} := by
  have loads := fits.loads
  have sentFit := sentPayloads_fit fits.requestFits fits.outcomeFits fits.snapshotsFit
  have read := fun response => @reportedResponse_read request outcome fits.requestFits fits.outcomeFits response
  rw [chatStream_events] at loads ⊢
  generalize reportedResponse request outcome = reported at loads read ⊢
  have sent : ∀ payload ∈ sentPayloads request snapshots outcome, Loads load floatRepr (.progress payload) :=
    fun payload member => loads _ (List.mem_cons_of_mem _ (List.mem_append_left _ (List.mem_map_of_mem member)))
  have opened := @receiveEvent_bystander load floatRepr ⟨"accepted", [("requestId", .str request.requestId)]⟩ (.inl rfl)
    request.clientRequest {}
  have polled := @receiveEvents_progress load floatRepr request fits.requestFits _ sentFit sent {}
  simp only [receiveEvents] at polled
  simp only [receiveEvents, List.map_cons, List.map_append, List.foldl_cons, List.foldl_append, opened, polled]
  cases reported with
  | none => exact ⟨rfl, rfl⟩
  | some response =>
    obtain ⟨parsed, readBack, agrees⟩ := read response rfl
    have ended := @receiveEvent_result load floatRepr response (loads _ (by simp)) parsed readBack request.clientRequest
      { progress := [] ++ (sentPayloads request snapshots outcome).map (progressRead request) } rfl
    have closed := @receiveEvent_bystander load floatRepr ⟨"completed", [("requestId", .str request.requestId)]⟩
      (.inr rfl) request.clientRequest
    simp only [List.map_cons, List.map_nil, List.foldl_cons, List.foldl_nil, ended, closed]
    exact ⟨rfl, parsed, readBack, agrees, rfl⟩

/-- The job posts one snapshot for each progress event and the response that the stream ends with. A stream that was
broken off before its response becomes an error of the transfer. -/
theorem concludeTransfer_stream (fits : StreamFits load floatRepr request snapshots outcome) {sent : Client.ChatRequest}
    (own : requestHandle sent = request.clientRequest) {transfer : ChatTransfer}
    (arrives : Arrives floatRepr (chatStream request snapshots outcome) transfer) :
    let received := concludeTransfer load sent transfer
    received.progress = (sentPayloads request snapshots outcome).map (progressRead request) ∧
      match reportedResponse request outcome with
      | some response => ∃ parsed, chatResponseParseData response.modelDump = .ok parsed ∧
          ResponseAgrees response parsed ∧ received.result = { response := some parsed }
      | none => received.result =
          { transportError := some "chat request failed: Transferred a partial file" } := by
  obtain ⟨progress, result⟩ := receiveEvents_stream fits
  obtain ⟨arrived, taken⟩ := transferred_arrived fits arrives
  have code := arrives.code
  rw [chatStream_raised] at code
  unfold concludeTransfer
  rw [own]
  dsimp only
  rw [arrived, taken]
  generalize receiveEvents load request.clientRequest {}
    ((chatStream request snapshots outcome).events.map (dispatchedAs floatRepr)) = received at progress result
  cases reported : reportedResponse request outcome with
  | none =>
    rw [reported] at result code
    have broken : transfer.code = .other "Transferred a partial file" := code
    rw [broken]
    dsimp only at result ⊢
    rw [if_neg (by rintro ⟨aborted, -⟩; cases aborted), result]
    exact ⟨progress, rfl⟩
  | some response =>
    rw [reported] at result code
    have complete : transfer.code = .ok := code
    obtain ⟨parsed, readBack, agrees, posted⟩ := result
    rw [complete]
    dsimp only
    rw [if_neg (by rw [posted]; exact fun nothing => Option.some_ne_none _ nothing.1)]
    exact ⟨progress, parsed, readBack, agrees, posted⟩

/-- The code and the message that a failed request is answered with. -/
def PlanOutcome.failure? : PlanOutcome → Option (String × PyJson)
  | .planned _ => none
  | .codexAppServerError code message => some (code, message)
  | .validationError | .otherException => some ("internal_error", .ofString "Unexpected server error")

theorem reportedResponse_failure {code : String} {message : PyJson}
    (failed : PlanOutcome.failure? outcome = some (code, message)) :
    reportedResponse request outcome = (buildErrorPayload request.requestId request.session.toResponseSession
      (some (buildRequestErrorRefinement request)) code message).toOption ∧
    sentPayloads request snapshots outcome = changedPayloads none snapshots := by
  cases outcome with
  | planned plan => cases failed
  | codexAppServerError | validationError | otherException =>
    obtain ⟨rfl, rfl⟩ := Prod.mk.inj (Option.some.inj failed)
    exact ⟨rfl, rfl⟩

/-- A failure reaches the panel with its code, its message and nothing to execute, behind all changes of the snapshots.
A failure without a code, or with a message that is no text, cannot be encoded or is empty, cannot be reported; the
stream breaks off before its result, and the job reports a transfer that failed. -/
theorem failure_delivered (fits : StreamFits load floatRepr request snapshots outcome) {sent : Client.ChatRequest}
    (own : requestHandle sent = request.clientRequest) {transfer : ChatTransfer}
    (arrives : Arrives floatRepr (chatStream request snapshots outcome) transfer) {code : String} {message : PyJson}
    (failed : PlanOutcome.failure? outcome = some (code, message)) :
    let received := concludeTransfer load sent transfer
    received.progress = (changedPayloads none snapshots).map (progressRead request) ∧
      if code = "" ∨ message.text?.getD "" = "" then
        received.result = { transportError := some "chat request failed: Transferred a partial file" }
      else ∃ response, received.result = { response := some response } ∧ response.status = "error" ∧
        response.errorCode = some code ∧ response.errorMessage = message.text? ∧
        message.text? = some response.messageText ∧ response.operations = [] := by
  obtain ⟨reported, onlyChanges⟩ := @reportedResponse_failure request snapshots outcome code message failed
  obtain ⟨progress, result⟩ := concludeTransfer_stream fits own arrives
  have reportable := buildErrorPayload_isOk request.requestId request.session.toResponseSession
    (some (buildRequestErrorRefinement request)) code message
  rw [onlyChanges] at progress
  rw [reported] at result
  refine ⟨progress, ?_⟩
  cases built : buildErrorPayload request.requestId request.session.toResponseSession
      (some (buildRequestErrorRefinement request)) code message with
  | error raised =>
    rw [built] at result reportable
    rw [if_pos (by simpa [or_iff_not_imp_left] using reportable)]
    exact result
  | ok response =>
    rw [built] at result reportable
    obtain ⟨codePresent, messagePresent⟩ := reportable.mp ⟨response, rfl⟩
    obtain ⟨parsed, readBack, agrees, posted⟩ := result
    obtain ⟨error, reports, sameCode, sameMessage, -, -, text, -⟩ := buildErrorPayload_eq_ok built
    rw [if_neg (not_or.mpr ⟨codePresent, messagePresent⟩)]
    have noOperations := agrees.operations
    rw [reports.plan] at noOperations
    refine ⟨parsed, posted, ?_, ?_, ?_, ?_, List.forall₂_nil_left_iff.mp noOperations⟩
    · rw [agrees.status, reports.status]
      rfl
    · rw [agrees.errorCode, reports.error, ← sameCode]
      rfl
    · rw [agrees.errorMessage, reports.error, sameMessage]
      rfl
    · rw [sameMessage, agrees.messageText, text]

end Received

section Run

variable {library : ToolLibrary} {request : RequestEnvelope} {waiting : List RequestEnvelope}
  {cancelled : Dict CancelRequestKey String} {work : List TurnRunEvent}

/-- In one run a snapshot is known by its signature, since the operations of a run only grow. -/
theorem snapshotAt_signature {first second : List TurnRunEvent} (firstPast : first <+: work)
    (secondPast : second <+: work)
    (same : progressSignature (snapshotAt library request waiting cancelled first) =
      progressSignature (snapshotAt library request waiting cancelled second)) :
    snapshotAt library request waiting cancelled first = snapshotAt library request waiting cancelled second := by
  obtain ⟨ledger, shown, -⟩ := snapshots_begin library request waiting cancelled work
  have front := shown first firstPast
  have others := shown second secondPast
  generalize snapshotAt library request waiting cancelled first = left at same front ⊢
  generalize snapshotAt library request waiting cancelled second = right at same others ⊢
  injection same with version found status used limit applied count message tool render
  have operations : left.operations = right.operations :=
    (List.prefix_of_prefix_length_le front others count.le).eq_of_length count
  cases left
  cases right
  simp_all

theorem changedPayloads_destutter' {snapshots : List RequestProgressPayload} {last : RequestProgressPayload}
    (known : ∀ first ∈ last :: snapshots, ∀ second ∈ last :: snapshots,
      progressSignature first = progressSignature second → first = second) :
    last :: changedPayloads (some last) snapshots = snapshots.destutter' (· ≠ ·) last := by
  induction snapshots generalizing last with
  | nil => rfl
  | cons payload rest ih =>
    unfold changedPayloads
    by_cases same : last = payload
    · rw [if_pos (by rw [same]; rfl), List.destutter'_cons_neg _ (by simpa using same)]
      refine ih fun first member second others => ?_
      refine known first ?_ second ?_
      · exact (List.mem_cons.mp member).elim (· ▸ List.mem_cons_self) (List.mem_cons_of_mem _ ∘ List.mem_cons_of_mem _)
      · exact (List.mem_cons.mp others).elim (· ▸ List.mem_cons_self) (List.mem_cons_of_mem _ ∘ List.mem_cons_of_mem _)
    · have differ : progressSignature last ≠ progressSignature payload := fun equal =>
        same (known last List.mem_cons_self payload (List.mem_cons_of_mem _ List.mem_cons_self) equal)
      rw [if_neg (by simpa using differ), List.destutter'_cons_pos _ same]
      exact congrArg (last :: ·) (ih fun first member second others =>
        known first (List.mem_cons_of_mem _ member) second (List.mem_cons_of_mem _ others))

/-- What the polling loop sends of a run: every change of its snapshots, once and in order. -/
theorem changedPayloads_run {moments : List (List TurnRunEvent)} (past : ∀ moment ∈ moments, moment <+: work) :
    changedPayloads none (moments.map (snapshotAt library request waiting cancelled)) =
      (moments.map (snapshotAt library request waiting cancelled)).destutter (· ≠ ·) := by
  cases moments with
  | nil => rfl
  | cons moment rest =>
    refine (if_neg nofun).trans (changedPayloads_destutter' fun first member second others same => ?_)
    rw [← List.map_cons] at member others
    obtain ⟨left, leftPast, rfl⟩ := List.mem_map.mp member
    obtain ⟨right, rightPast, rfl⟩ := List.mem_map.mp others
    exact snapshotAt_signature (past left leftPast) (past right rightPast) same

theorem sentPayloads_stream {moments : List (List TurnRunEvent)} (past : ∀ moment ∈ moments, moment <+: work)
    (outcome : PlanOutcome) : ∀ payload ∈ sentPayloads request
      (moments.map (snapshotAt library request waiting cancelled)) outcome,
      Streams library request waiting cancelled work payload := by
  have polled : ∀ payload ∈ changedPayloads none (moments.map (snapshotAt library request waiting cancelled)),
      ∃ moment, moment <+: work ∧ snapshotAt library request waiting cancelled moment = payload := by
    intro payload member
    obtain ⟨moment, known, same⟩ := List.mem_map.mp ((changedPayloads_sublist none _).subset member)
    exact ⟨moment, past moment known, same⟩
  have snapshot : ∀ payload ∈ changedPayloads none (moments.map (snapshotAt library request waiting cancelled)),
      Streams library request waiting cancelled work payload := by
    intro payload member
    obtain ⟨moment, known, rfl⟩ := polled payload member
    exact .snapshot moment known
  cases outcome with
  | planned plan =>
    intro payload member
    rcases List.mem_append.mp member with earlier | isLast
    · exact snapshot payload earlier
    rw [List.mem_singleton.mp isLast]
    cases last : (changedPayloads none (moments.map (snapshotAt library request waiting cancelled))).getLast? with
    | none => exact .completed _
    | some payload =>
      obtain ⟨moment, known, rfl⟩ := polled payload (List.mem_of_getLast? last)
      exact .completedAfter _ moment known
  | codexAppServerError | validationError | otherException => exact snapshot

/-- What the job posts of a payload of the run may be shown to the panel. -/
theorem shows_progressRead {payload : RequestProgressPayload}
    (streams : Streams library request waiting cancelled work payload) :
    Shows library request waiting cancelled work (progressRead request payload) := by
  cases found : payload.found with
  | true => exact .inr (.inr ⟨payload, streams, progressRead_agrees request found⟩)
  | false => exact .inr (.inl found)

/-- A planned run, polled at any moments, whose stream reaches the client in any pieces: the job posts every change of
the snapshots once, and a panel that serves what the job posts executes every operation of the plan exactly once. -/
theorem streamed_plan_executed {load : JsonLoader} {floatRepr : ℚ → Bytes} {moments : List (List TurnRunEvent)}
    (past : ∀ moment ∈ moments, moment <+: work) {plan : AgentPlan}
    (returned : (runTo library request waiting cancelled work).phase.plan? = some plan)
    (fits : StreamFits load floatRepr request (moments.map (snapshotAt library request waiting cancelled)) (.planned plan))
    {sent : Client.ChatRequest} (own : requestHandle sent = request.clientRequest) {transfer : ChatTransfer}
    (arrives : Arrives floatRepr
      (chatStream request (moments.map (snapshotAt library request waiting cancelled)) (.planned plan)) transfer) :
    let received := concludeTransfer load sent transfer
    let changes := (moments.map (snapshotAt library request waiting cancelled)).destutter (· ≠ ·)
    received.progress = (changes ++ [completionProgress request (buildResponseFromPlan request plan)
        changes.getLast?]).map (progressRead request) ∧
      ∀ {κ W : Type} (host : Host κ ℚ W) (client : LiveRun host (· ∈ received.progress)
          (fun response => received.result = { response := some response })),
        SentAs request client.transfer → List.Forall₂ Performs plan.operations client.executed := by
  obtain ⟨progress, parsed, -, agrees, result⟩ := concludeTransfer_stream fits own arrives
  obtain ⟨ledger, shown, planned⟩ := streams_begin library request waiting cancelled work
  have front : ∀ payload, Streams library request waiting cancelled work payload →
      shownEdits payload <+: plan.operations.map plannedEdit :=
    fun payload streams => ((shown payload streams).map _).trans (planned plan returned)
  refine ⟨?_, fun host client sentAs => ?_⟩
  · rw [progress, sentPayloads, changedPayloads_run past]
  · let live := @liveRequest library request waiting cancelled work _ sentAs client.live plan front
    have posted : ∀ snapshot ∈ (concludeTransfer load sent transfer).progress, live.shown snapshot := by
      intro snapshot member
      rw [progress] at member
      obtain ⟨payload, known, rfl⟩ := List.mem_map.mp member
      exact shows_progressRead (sentPayloads_stream past _ payload known)
    have answered : ∀ response, (concludeTransfer load sent transfer).result = { response := some response } →
        live.final response := by
      intro response same
      rw [result] at same
      injection same with same
      rw [← Option.some.inj same]
      exact agrees
    exact executed_exactly { live with
      shown := (· ∈ (concludeTransfer load sent transfer).progress)
      final := fun response => (concludeTransfer load sent transfer).result = { response := some response }
      reads := fun snapshot member => live.reads snapshot (posted snapshot member)
      answers := fun response same => live.answers response (answered response same) } client rfl

end Run

/-! The raising turn again, over the wire. The stream is cut within an event. -/

section Raised

def wholeRepr (value : ℚ) : Bytes :=
  if value = 1 then ascii "1.0".toList else if value = 9 then ascii "9.0".toList else ascii "0.0".toList

/-- A reader that knows some objects as they are written. -/
def loadFrom (payloads : List (List (String × Json))) : JsonLoader := fun bytes =>
  match payloads.find? fun payload => decide ((Json.obj payload).dumps wholeRepr = bytes) with
  | some payload => .ok (.obj payload)
  | none => .error "Parse error"

theorem loadFrom_known {payloads : List (List (String × Json))}
    (distinct : (payloads.map fun payload => (Json.obj payload).dumps wholeRepr).Nodup) {payload : List (String × Json)}
    (known : payload ∈ payloads) : loadFrom payloads ((Json.obj payload).dumps wholeRepr) = .ok (.obj payload) := by
  unfold loadFrom
  cases found : payloads.find? fun other => decide ((Json.obj other).dumps wholeRepr = (Json.obj payload).dumps wholeRepr) with
  | none =>
    have missing := List.find?_eq_none.mp found payload known
    simp at missing
  | some other =>
    have same := List.inj_on_of_nodup_map distinct (List.mem_of_find?_eq_some found) known
      (by simpa using List.find?_some found)
    rw [same]

def raisingSnapshots : List RequestProgressPayload := [firstStep].map (snapshotAt plainToolLibrary raisingRequest [] .empty)

/-- The payloads of a stream. Its opening and its closing event have one payload. -/
def streamPayloads (request : RequestEnvelope) (snapshots : List RequestProgressPayload) (outcome : PlanOutcome) :
    List (List (String × Json)) :=
  [("requestId", .str request.requestId)] :: ((sentPayloads request snapshots outcome).map RequestProgressPayload.members ++
    ((reportedResponse request outcome).map ResponseEnvelope.members).toList)

theorem loads_streamPayloads {request : RequestEnvelope} {snapshots : List RequestProgressPayload} {outcome : PlanOutcome}
    (distinct : ((streamPayloads request snapshots outcome).map fun payload =>
      (Json.obj payload).dumps wholeRepr).Nodup) :
    ∀ event ∈ (chatStream request snapshots outcome).events,
      Loads (loadFrom (streamPayloads request snapshots outcome)) wholeRepr event := by
  intro event member
  refine loadFrom_known distinct ?_
  rw [chatStream_events] at member
  unfold streamPayloads
  generalize reportedResponse request outcome = reported at member ⊢
  rcases List.mem_cons.mp member with rfl | member
  · exact List.mem_cons_self
  rcases List.mem_append.mp member with isProgress | isResult
  · obtain ⟨payload, sent, rfl⟩ := List.mem_map.mp isProgress
    exact List.mem_cons_of_mem _ (List.mem_append_left _ (List.mem_map_of_mem sent))
  · cases reported with
    | none => cases isResult
    | some response =>
      rcases List.mem_cons.mp isResult with rfl | isLast
      · exact List.mem_cons_of_mem _ (List.mem_append_right _ List.mem_cons_self)
      · rw [List.mem_singleton.mp isLast]
        exact List.mem_cons_self

theorem wholeRepr_printable : ∀ value, ∀ byte ∈ wholeRepr value, Printable byte := by
  intro value
  unfold wholeRepr
  split_ifs <;> simp [ascii, Printable]

theorem raisingRequest_fits : RequestFits raisingRequest := ⟨by unfold NulFree; decide, by decide⟩

/-- What the snapshot shows, from one evaluation of the turn. -/
theorem raisingSnapshot_shown : raisingSnapshot.status = "running" ∧
    raisingSnapshot.message = "Applied live edit step 1/2: exposure / exposure +1.000" ∧
    raisingSnapshot.lastToolName = some "apply_operations" ∧ raisingSnapshot.toolCallsUsed = 1 ∧
    raisingSnapshot.maxToolCalls = 15 ∧ raisingSnapshot.appliedOperationCount = 1 ∧
    raisingSnapshot.operations.map (·.operation) = raisedPlan.operations.take 1 := by decide +kernel

theorem raisingStream_fits : StreamFits (loadFrom (streamPayloads raisingRequest raisingSnapshots (.planned raisedPlan)))
    wholeRepr raisingRequest raisingSnapshots (.planned raisedPlan) := by
  have operation : ∀ operation ∈ raisedPlan.operations, OperationFits operation := by
    intro operation member
    constructor
    case texts =>
      revert operation
      unfold NulFree
      decide
    case choiceId =>
      revert operation
      simp [raisedPlan, raiseOperation]
    case choiceValue =>
      revert operation
      simp [raisedPlan, raiseOperation]
    case sequence =>
      revert operation
      decide
  obtain ⟨status, message, lastToolName, used, allowed, count, shown⟩ := raisingSnapshot_shown
  constructor
  case requestFits => exact raisingRequest_fits
  case snapshotsFit =>
    intro payload member
    obtain rfl : payload = raisingSnapshot := List.mem_singleton.mp member
    constructor
    case counted =>
      intro none
      rw [count] at none
      cases none
    case toPayloadFits =>
      constructor
      case status => rw [status]; unfold NulFree; decide
      case message => rw [message]; unfold NulFree; decide
      case lastToolName =>
        intro _ same
        rw [lastToolName] at same
        rw [← Option.some.inj same]
        unfold NulFree
        decide
      case toolCallsUsed => rw [used]; decide
      case maxToolCalls => rw [allowed]; decide
      case appliedOperationCount => rw [count]; decide
      case operations =>
        intro dict member
        have planned := List.mem_map_of_mem (f := OperationDict.operation) member
        rw [shown] at planned
        exact operation _ (List.mem_of_mem_take planned)
  case outcomeFits => exact ⟨⟨by unfold NulFree; decide, operation⟩, by decide⟩
  case oneLine => exact wholeRepr_printable
  case loads => exact loads_streamPayloads (by decide +kernel)

/-- The download of a stream in two pieces. -/
def twoPieces (generated : Generated) : ChatTransfer where
  cancelledBefore := false
  curlReady := true
  deliveries := [(streamBytes wholeRepr generated.events).take 100, (streamBytes wholeRepr generated.events).drop 100]
  code := if generated.raised.isNone then .ok else CurlCode.partialFile
  cancelRequested := false
  stays := nofun

theorem twoPieces_arrive (generated : Generated) : Arrives wholeRepr generated (twoPieces generated) :=
  ⟨rfl, by simp [twoPieces]⟩

def raisingChatRequest : Client.ChatRequest where
  schemaVersion := some "3.0"
  requestId := some (sampleUuid 2)
  appSessionId := some "app-1"
  imageSessionId := some (sampleUuid 0)
  conversationId := some (sampleUuid 1)
  turnId := some "turn-1"
  imageRevisionId := some "image-1-history-0-0"
  messageText := some "brighten"
  refinementMode := some .multiTurn
  refinementEnabled := true
  refinementPassIndex := 1
  refinementMaxPasses := 4
  fastMode := false
  refinementGoalText := some "brighten"
  uiContext := ⟨some "darkroom", some 1, none⟩
  capabilities := []
  imageState := ⟨0, 0, ⟨some 1, none, none, none, 0, 0, 0, 0, 0, 0⟩, [], [], none, none⟩

theorem raisingChatRequest_own : requestHandle raisingChatRequest = raisingRequest.clientRequest := rfl

/-- What is posted of a stream that answers the raising request. -/
def postedOf (snapshots : List RequestProgressPayload) (outcome : PlanOutcome) : Received :=
  concludeTransfer (loadFrom (streamPayloads raisingRequest snapshots outcome)) raisingChatRequest
    (twoPieces (chatStream raisingRequest snapshots outcome))

def failedTurn : PlanOutcome := .codexAppServerError "codex_turn_failed" (.ofString "Codex turn failed")

theorem failure_delivered_raising : (postedOf [] failedTurn).progress = [] ∧
    ∃ response, (postedOf [] failedTurn).result = { response := some response } ∧ response.status = "error" ∧
      response.errorCode = some "codex_turn_failed" ∧ response.errorMessage = some "Codex turn failed" ∧
      response.messageText = "Codex turn failed" ∧ response.operations = [] := by
  have fits : StreamFits (loadFrom (streamPayloads raisingRequest [] failedTurn)) wholeRepr raisingRequest [] failedTurn := by
    constructor
    case requestFits => exact raisingRequest_fits
    case snapshotsFit => exact List.forall_mem_nil _
    case outcomeFits => exact ⟨by unfold NulFree; decide, by unfold NulFree; decide⟩
    case oneLine => exact wholeRepr_printable
    case loads => exact loads_streamPayloads (by decide +kernel)
  obtain ⟨progress, result⟩ := failure_delivered fits raisingChatRequest_own (twoPieces_arrive _) rfl
  rw [if_neg (by decide)] at result
  obtain ⟨response, posted, status, code, message, text, nothing⟩ := result
  rw [PyJson.text?_ofString] at message text
  exact ⟨progress, response, posted, status, code, message, (Option.some.inj text).symm, nothing⟩

def raisingReceived : Received := postedOf raisingSnapshots (.planned raisedPlan)

theorem raisingReceived_eq : raisingReceived.progress = (sentPayloads raisingRequest raisingSnapshots
      (.planned raisedPlan)).map (progressRead raisingRequest) ∧
    raisingReceived.result = { response := some (raisedResponse raisedPlan.operations) } := by
  obtain ⟨progress, parsed, readBack, -, result⟩ :=
    concludeTransfer_stream raisingStream_fits raisingChatRequest_own (twoPieces_arrive _)
  have known : chatResponseParseData (buildResponseFromPlan raisingRequest raisedPlan).modelDump =
      .ok (raisedResponse raisedPlan.operations) := rfl
  obtain rfl := Except.ok.inj (readBack.symm.trans known)
  exact ⟨progress, result⟩

def streamedProgress : ClientProgress ℚ := progressRead raisingRequest raisingSnapshot

def streamedCompletion : ClientProgress ℚ :=
  progressRead raisingRequest
    (completionProgress raisingRequest (buildResponseFromPlan raisingRequest raisedPlan) (some raisingSnapshot))

def streamedEvents : List (Event SampleEdit ℚ) :=
  [.streamed (sampleUuid 2) streamedProgress, .dispatch .queued, .leave, .enter 1 ⟨1, 1⟩,
    .streamed (sampleUuid 2) streamedCompletion, .dispatch .queued,
    .ended (sampleUuid 2) (.completed (raisedResponse raisedPlan.operations))]

/-- The panel behind one, three, five and all of the events. -/
theorem streamedEvents_reach :
    (run (step raisingHost) raisingSent.start (streamedEvents.take 1)).queue =
        [.progress raisingTransfer.submission streamedProgress] ∧
      (run (step raisingHost) raisingSent.start (streamedEvents.take 3)).develop.content = ⟨1, 1⟩ ∧
      (run (step raisingHost) raisingSent.start (streamedEvents.take 3)).chat.currentImageId = 1 ∧
      (run (step raisingHost) raisingSent.start (streamedEvents.take 5)).queue =
        [.progress raisingTransfer.submission streamedCompletion] ∧
      (run (step raisingHost) raisingSent.start streamedEvents).queue =
        [.result raisingSent.transfer.submission raisingResult] ∧
      (run (step raisingHost) raisingSent.start streamedEvents).develop.visible = true ∧
      ∀ batch ∈ raisingSent.start.executedSince (step raisingHost
        (run (step raisingHost) raisingSent.start streamedEvents) (.dispatch .queued)), batch.ok := by
  decide +kernel

theorem streamedEvents_alone : EveryStep (step raisingHost) (Alone raisingTransfer.submission.requestId
    (· ∈ raisingReceived.progress) (fun response => raisingReceived.result = { response := some response }))
    raisingSent.start streamedEvents := by
  obtain ⟨progress, result⟩ := raisingReceived_eq
  obtain ⟨first, -, image, second, -⟩ := streamedEvents_reach
  have sent : raisingReceived.progress = [streamedProgress, streamedCompletion] := progress
  refine ⟨⟨rfl, ?_⟩, ?_, trivial, ?_, ⟨rfl, ?_⟩, ?_, ⟨rfl, _, result, rfl⟩, trivial⟩
  · rw [sent]
    exact List.mem_cons_self
  · exact alone_of_snapshot first .queued
  · exact image.symm
  · rw [sent]
    exact List.mem_cons_of_mem _ List.mem_cons_self
  · exact alone_of_snapshot second .queued

theorem streamedEvents_accepted : EveryStep (step raisingHost) Unedited raisingSent.start streamedEvents := by
  obtain ⟨-, content, -⟩ := streamedEvents_reach
  exact ⟨trivial, trivial, trivial, content.symm, trivial, trivial, trivial, trivial⟩

def streamedClient : LiveRun raisingHost (· ∈ raisingReceived.progress)
    (fun response => raisingReceived.result = { response := some response }) :=
  ⟨raisingSent, streamedEvents, raisingResult, [], .queued, streamedEvents_alone, streamedEvents_reach.2.2.2.2.1,
    streamedEvents_reach.2.2.2.2.2.1, .inl streamedEvents_accepted, streamedEvents_reach.2.2.2.2.2.2⟩

theorem streamed_plan_executed_raising :
    raisingReceived.progress = [streamedProgress, streamedCompletion] ∧
      List.Forall₂ Performs raisedPlan.operations streamedClient.executed := by
  have past : ∀ moment ∈ [firstStep], moment <+: raisingTurn := by
    intro moment member
    rw [List.mem_singleton.mp member]
    exact List.prefix_append ..
  obtain ⟨progress, executed⟩ := streamed_plan_executed past raisingTurn_planned raisingStream_fits
    raisingChatRequest_own (twoPieces_arrive _)
  exact ⟨progress, executed raisingHost streamedClient (by constructor <;> rfl)⟩

end Raised

end DarktableAgent.Live
