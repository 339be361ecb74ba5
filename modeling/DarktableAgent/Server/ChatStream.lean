import DarktableAgent.Protocol.Response

/-! `POST /v1/chat/stream`: the event generator around one planner run.

The worker thread shows itself through the snapshots that the polling loop reads
and through its outcome. Payload builders validate what they build, so the
generator itself can be left by an exception.
-/

set_option autoImplicit false

namespace DarktableAgent.Server

open Foundation Protocol

/-- How `bridge.plan` ends. -/
inductive PlanOutcome where
  | planned (plan : AgentPlan)
  -- the message need not be a text: `_extract_error_message` hands on what it cannot read
  | codexAppServerError (code : String) (message : PyJson)
  | validationError
  | otherException

/-- The error branch of `_send_request_locked`, for the error member of a JSON-RPC response. -/
def jsonRpcError (method : String) (error : PyJson) : PlanOutcome :=
  match error.member? "message" with
  | some (.str message) => .codexAppServerError "codex_jsonrpc_error" (.str message)
  | _ => .codexAppServerError "codex_jsonrpc_error" (.ofString ("Codex " ++ method ++ " failed"))

structure ServerEvent where
  name : String
  payload : List (String × Json)

/-- What the generator yielded, and the exception that left it, if any. -/
structure Generated where
  events : List ServerEvent
  raised : Option ValidationError

def ServerEvent.progress (payload : RequestProgressPayload) : ServerEvent := ⟨"progress", payload.members⟩

/-- What has to change for a snapshot to be sent again. -/
structure ProgressSignature where
  progressVersion : Nat
  found : Bool
  status : String
  toolCallsUsed : Nat
  maxToolCalls : Nat
  appliedOperationCount : Nat
  operationCount : Nat
  message : String
  lastToolName : Option String
  requiresRenderCallback : Bool
  deriving DecidableEq

def progressSignature (payload : RequestProgressPayload) : ProgressSignature :=
  ⟨payload.progressVersion, payload.found, payload.status, payload.toolCallsUsed, payload.maxToolCalls,
    payload.appliedOperationCount, payload.operations.length, payload.message, payload.lastToolName,
    payload.requiresRenderCallback⟩

/-- The polling loop: the events it yields and the last payload it sent. -/
def pollProgress (last : Option RequestProgressPayload) :
    List RequestProgressPayload → List ServerEvent × Option RequestProgressPayload
  | [] => ([], last)
  | payload :: rest =>
    if last.map progressSignature = some (progressSignature payload) then pollProgress last rest
    else
      let (events, final) := pollProgress (some payload) rest
      (.progress payload :: events, final)

/-- The progress payload sent once the plan is there. -/
def completionProgress (request : RequestEnvelope) (response : ResponseEnvelope)
    (last : Option RequestProgressPayload) : RequestProgressPayload :=
  let progress := match last with
    | some payload => { payload with requiresRenderCallback := false }
    | none => {
        found := true
        status := "running"
        toolCallsUsed := 0
        maxToolCalls := if request.refinement.enabled then request.refinement.maxPasses.toNat else 1
        appliedOperationCount := (response.plan.elim 0 fun plan => plan.operations.length)
        operations := []
        message := "Waiting for Codex turn output"
        lastToolName := none
        progressVersion := 0
        requiresRenderCallback := false }
  { progress with
    found := true
    status := "completed"
    message := "Codex plan completed"
    progressVersion := progress.progressVersion + 1 }

def reportError (request : RequestEnvelope) (code : String) (message : PyJson) :
    Except ValidationError (List ServerEvent) := do
  let payload ← buildErrorPayload request.requestId request.session.toResponseSession
    (some (buildRequestErrorRefinement request)) code message
  return [⟨"error", payload.members⟩]

/-- The `try` statement behind the polling loop. -/
def outcomeEvents (request : RequestEnvelope) (last : Option RequestProgressPayload) :
    PlanOutcome → Except ValidationError (List ServerEvent)
  | .planned plan =>
    let response := buildResponseFromPlan request plan
    .ok [.progress (completionProgress request response last), ⟨"final", response.members⟩]
  | .codexAppServerError code message => reportError request code message
  -- an exception inside an except clause is not caught by its sibling clauses
  | .validationError | .otherException => reportError request "internal_error" (.ofString "Unexpected server error")

/-- `chat_stream`, for the snapshots the worker shows while it runs. -/
def chatStream (request : RequestEnvelope) (snapshots : List RequestProgressPayload) (outcome : PlanOutcome) :
    Generated :=
  let identity := [("requestId", Json.str request.requestId)]
  let (polled, last) := pollProgress none snapshots
  match outcomeEvents request last outcome with
  | .ok events => ⟨⟨"accepted", identity⟩ :: polled ++ events ++ [⟨"completed", identity⟩], none⟩
  | .error raised => ⟨⟨"accepted", identity⟩ :: polled, some raised⟩

/-- The stream grammar: accepted, any number of progress events, one result, completed. -/
def WellFormed (names : List String) : Prop :=
  ∃ (progress : Nat) (result : String), (result = "final" ∨ result = "error") ∧
    names = "accepted" :: (List.replicate progress "progress" ++ [result, "completed"])

def Generated.names (generated : Generated) : List String := generated.events.map (·.name)

theorem pollProgress_names (last : Option RequestProgressPayload) (snapshots : List RequestProgressPayload) :
    ∃ count, (pollProgress last snapshots).1.map (·.name) = List.replicate count "progress" := by
  induction snapshots generalizing last with
  | nil => exact ⟨0, rfl⟩
  | cons payload rest ih =>
    simp only [pollProgress]
    split
    · exact ih last
    · obtain ⟨count, names⟩ := ih (some payload)
      exact ⟨count + 1, by simp [ServerEvent.progress, names, List.replicate_succ]⟩

/-- A stream that was left by an exception breaks off behind its last progress event. -/
theorem not_wellFormed_of_polled (count : Nat) :
    ¬ WellFormed ("accepted" :: List.replicate count "progress") := by
  rintro ⟨progress, result, -, same⟩
  have completed : "completed" ∈ List.replicate count "progress" := by
    rw [(List.cons.inj same).2]
    simp
  exact absurd (List.eq_of_mem_replicate completed) (by decide)

/-- The exceptions whose report cannot be built. -/
def PlanOutcome.Unreportable : PlanOutcome → Prop
  | .codexAppServerError code message => code = "" ∨ message.text?.getD "" = ""
  | _ => False

instance (outcome : PlanOutcome) : Decidable outcome.Unreportable :=
  match outcome with
  | .codexAppServerError code message => inferInstanceAs (Decidable (code = "" ∨ message.text?.getD "" = ""))
  | .planned _ | .validationError | .otherException => inferInstanceAs (Decidable False)

theorem reportError_ok (request : RequestEnvelope) {code : String} {message : PyJson} (codePresent : code ≠ "")
    (messagePresent : message.text?.getD "" ≠ "") :
    ∃ event, reportError request code message = .ok [event] ∧ event.name = "error" := by
  obtain ⟨response, built⟩ := (buildErrorPayload_isOk request.requestId request.session.toResponseSession
    (some (buildRequestErrorRefinement request)) code message).mpr ⟨codePresent, messagePresent⟩
  exact ⟨⟨"error", response.members⟩, by rw [reportError, built]; rfl, rfl⟩

theorem reportError_raises (request : RequestEnvelope) {code : String} {message : PyJson}
    (absent : code = "" ∨ message.text?.getD "" = "") : ∃ raised, reportError request code message = .error raised := by
  cases built : buildErrorPayload request.requestId request.session.toResponseSession
    (some (buildRequestErrorRefinement request)) code message with
  | error raised => exact ⟨raised, by rw [reportError, built]; rfl⟩
  | ok response =>
    obtain ⟨codePresent, messagePresent⟩ := (buildErrorPayload_isOk ..).mp ⟨response, built⟩
    exact absurd absent (not_or.mpr ⟨codePresent, messagePresent⟩)

/-- Every other outcome ends in further progress events and exactly one result. -/
theorem outcomeEvents_ok (request : RequestEnvelope) (last : Option RequestProgressPayload)
    {outcome : PlanOutcome} (reportable : ¬ outcome.Unreportable) :
    ∃ events count result, outcomeEvents request last outcome = .ok events ∧
      (result = "final" ∨ result = "error") ∧
      events.map (·.name) = List.replicate count "progress" ++ [result] := by
  cases outcome with
  | planned plan => exact ⟨_, 1, "final", rfl, .inl rfl, rfl⟩
  | codexAppServerError code message =>
    obtain ⟨codePresent, messagePresent⟩ := not_or.mp reportable
    obtain ⟨event, reported, named⟩ := reportError_ok request codePresent messagePresent
    exact ⟨[event], 0, "error", reported, .inr rfl, by simp [named]⟩
  | validationError | otherException =>
    obtain ⟨event, reported, named⟩ := reportError_ok request
      (show "internal_error" ≠ "" by decide)
      (show (PyJson.ofString "Unexpected server error").text?.getD "" ≠ "" by simp)
    exact ⟨[event], 0, "error", reported, .inr rfl, by simp [named]⟩

/-- The stream follows its grammar exactly when the outcome is not an app-server error without a
code, or with a message that is no text, cannot be encoded or is empty. -/
theorem chatStream_wellFormed_iff (request : RequestEnvelope) (snapshots : List RequestProgressPayload)
    (outcome : PlanOutcome) :
    WellFormed (chatStream request snapshots outcome).names ↔ ¬ outcome.Unreportable := by
  obtain ⟨polled, names⟩ := pollProgress_names none snapshots
  constructor
  · intro wellFormed unreportable
    cases outcome with
    | codexAppServerError code message =>
      obtain ⟨raised, report⟩ := reportError_raises request unreportable
      have broken : (chatStream request snapshots (.codexAppServerError code message)).names =
          "accepted" :: List.replicate polled "progress" := by
        simp [chatStream, outcomeEvents, report, Generated.names, names]
      exact not_wellFormed_of_polled polled (broken ▸ wellFormed)
    | planned | validationError | otherException => exact unreportable
  · intro reportable
    obtain ⟨events, count, result, reported, isResult, eventNames⟩ :=
      outcomeEvents_ok request (pollProgress none snapshots).2 reportable
    refine ⟨polled + count, result, isResult, ?_⟩
    simp [chatStream, reported, Generated.names, names, eventNames, ← List.replicate_append_replicate]

/-- A JSON-RPC error with an empty message ends the stream behind `accepted`. -/
theorem chatStream_emptyMessage :
    ¬ WellFormed (chatStream exposureRequest [] (jsonRpcError "turn/start" (.obj [(.ofString "message", .ofString "")]))).names :=
  not_wellFormed_of_polled 0

-- `{"message": {"detail": null}}` as the error of a turn
example : ¬ WellFormed (chatStream exposureRequest []
    (.codexAppServerError "codex_turn_failed" (.obj [(.ofString "detail", .null)]))).names :=
  not_wellFormed_of_polled 0

end DarktableAgent.Server
