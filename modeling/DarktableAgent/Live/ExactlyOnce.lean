import DarktableAgent.Chat.Serving
import DarktableAgent.Server.ChatStream
import DarktableAgent.Server.Ledger

/-! One live request, from the tool calls of its turn to the edits in the darkroom.

The bridge shows a list that grows while the turn runs and ends as the plan of the
response. The panel executes each snapshot from where the last one ended, and the
response from where the snapshots ended.
-/

set_option autoImplicit false

namespace DarktableAgent.Live

open Foundation Protocol Client Server Chat

/-- The operation is the planned one, up to its id and its sequence number. -/
def Performs (planned : PlannedOperationDraft) (executed : ChatOperation ℚ) : Prop :=
  ∃ numbered, plannedEdit numbered = plannedEdit planned ∧ OperationAgrees numbered executed

/-- What the operations of a payload do. -/
def shownEdits (payload : RequestProgressPayload) : List Edit :=
  payload.operations.map fun dict => plannedEdit dict.operation

theorem performs_of_agrees {planned : PlannedOperationDraft} {executed : ChatOperation ℚ}
    (agrees : OperationAgrees planned executed) : Performs planned executed := ⟨planned, rfl, agrees⟩

theorem performs_congr (planned other : PlannedOperationDraft) (executed : ChatOperation ℚ)
    (same : plannedEdit planned = plannedEdit other) (performs : Performs planned executed) : Performs other executed := by
  obtain ⟨numbered, does, agrees⟩ := performs
  exact ⟨numbered, does.trans same, agrees⟩

section Stream

variable (library : ToolLibrary) (request : RequestEnvelope) (waiting : List RequestEnvelope)
  (cancelled : Dict CancelRequestKey String) (work : List TurnRunEvent)

/-- The progress payloads that can be sent about a run: its snapshots, taken at any moment, and the last payload
before the result, which repeats the operations that were sent before it. -/
inductive Streams : RequestProgressPayload → Prop where
  | snapshot (moment : List TurnRunEvent) (past : moment <+: work) :
    Streams (snapshotAt library request waiting cancelled moment)
  | completed (response : ResponseEnvelope) : Streams (completionProgress request response none)
  | completedAfter (response : ResponseEnvelope) (moment : List TurnRunEvent) (past : moment <+: work) :
    Streams (completionProgress request response (some (snapshotAt library request waiting cancelled moment)))

/-- What may reach the panel as a snapshot: an error, an answer that the request is unknown, or a payload. -/
def Shows (progress : ClientProgress ℚ) : Prop :=
  passedOver progress ∨ progress.found = false ∨
    ∃ payload, Streams library request waiting cancelled work payload ∧ ProgressAgrees payload progress

/-- The response that is sent for a plan, as the panel reads it. -/
def Answers (plan : AgentPlan) (response : ChatResponse ℚ) : Prop :=
  ResponseAgrees (buildResponseFromPlan request plan) response

/-- The request that the server runs is the one that the panel sent. -/
structure SentAs (transfer : Transfer) : Prop where
  requestId : request.requestId = transfer.submission.requestId
  conversationId : request.session.conversationId = transfer.submission.conversationId
  imageRevisionId : request.imageSnapshot.imageRevisionId = transfer.submission.baseImageRevisionId
  mode : request.refinement.mode = transfer.refinementMode

/-- One list begins with all that can be sent, and the plan begins with it. -/
theorem streams_begin : ∃ ledger : List OperationDict,
    (∀ payload, Streams library request waiting cancelled work payload → payload.operations <+: ledger) ∧
      ∀ plan, (runTo library request waiting cancelled work).phase.plan? = some plan →
        ledger.map (fun dict => plannedEdit dict.operation) <+: plan.operations.map plannedEdit := by
  obtain ⟨ledger, shown, planned⟩ := snapshots_begin library request waiting cancelled work
  refine ⟨ledger, ?_, planned⟩
  intro payload streams
  -- a completed response without a snapshot lists no operations
  cases streams with
  | snapshot moment past => exact shown moment past
  | completed response => exact List.nil_prefix
  | completedAfter response moment past => exact shown moment past

variable {library request waiting cancelled work}

/-- What the client's parser makes of a snapshot is shown. -/
theorem shows_of_parsed (requestFits : RequestFits request) {moment : List TurnRunEvent} (past : moment <+: work)
    (found : (snapshotAt library request waiting cancelled moment).found = true)
    (payloadFits : PayloadFits (snapshotAt library request waiting cancelled moment)) {progress : ClientProgress ℚ}
    (parsed : parseProgressPayload request.clientRequest
      (snapshotAt library request waiting cancelled moment).json = .ok progress) :
    Shows library request waiting cancelled work progress := by
  obtain ⟨read, same, agrees⟩ :=
    parseProgressPayload_json requestFits payloadFits found (BridgeState.getRequestProgress_counted ..)
  rw [parsed] at same
  rw [Except.ok.inj same]
  exact .inr (.inr ⟨_, .snapshot moment past, agrees⟩)

/-- What the client's parser makes of the response answers the request. -/
theorem answers_of_parsed (requestFits : RequestFits request) {plan : AgentPlan} (planFits : PlanFits plan)
    {response : ChatResponse ℚ}
    (parsed : chatResponseParseData (buildResponseFromPlan request plan).modelDump = .ok response) :
    Answers request plan response := by
  obtain ⟨read, same, agrees⟩ := chatResponseParseData_buildResponseFromPlan requestFits planFits
  rw [parsed] at same
  rw [Except.ok.inj same]
  exact agrees

/-- A record of the panel begins the plan whose front the payload shows. -/
theorem begins_of_agrees {plan : AgentPlan} {payload : RequestProgressPayload} {progress : ClientProgress ℚ}
    (front : shownEdits payload <+: plan.operations.map plannedEdit) (agrees : ProgressAgrees payload progress) :
    ∃ response, progress.response = some response ∧ Begins Performs plan.operations response.operations := by
  obtain ⟨response, answered, operations⟩ := agrees.operations
  refine ⟨response, answered, begins_of_prefix performs_congr ?_ (operations.imp fun _ _ => performs_of_agrees)⟩
  rw [List.map_map]
  exact front

/-- The request as the panel serves it, once its plan is known. -/
def liveRequest {transfer : Transfer} (sent : SentAs request transfer) (live : transfer.refinementMode = .multiTurn)
    {plan : AgentPlan}
    (front : ∀ payload, Streams library request waiting cancelled work payload →
      shownEdits payload <+: plan.operations.map plannedEdit) : LiveRequest PlannedOperationDraft ℚ where
  submission := transfer.submission
  plan := plan.operations
  relates := Performs
  shown := Shows library request waiting cancelled work
  final := Answers request plan
  reads := by
    rintro progress (passed | missing | ⟨payload, streams, agrees⟩)
    · exact .inl passed
    · exact .inr (.inl missing)
    · exact .inr (.inr (begins_of_agrees (front payload streams) agrees))
  answers := by
    intro response agrees
    refine ⟨agrees.operations.imp fun _ _ => performs_of_agrees, agrees.status, ?_, ?_, ?_, ?_⟩
    · exact agrees.requestId.trans sent.requestId
    · exact agrees.conversationId.trans sent.conversationId
    · rw [agrees.refinementMode]
      exact congrArg some (sent.mode.trans live)
    · rw [agrees.baseImageRevisionId]
      exact congrArg some sent.imageRevisionId

end Stream

/-- Snapshots of a run list beginnings of one another and of its plan, and a client that serves the request executes
every operation of the plan exactly once, in the order of the plan. -/
theorem plan_executed_exactly_once (library : ToolLibrary) (request : RequestEnvelope) (waiting : List RequestEnvelope)
    (cancelled : Dict CancelRequestKey String) (work : List TurnRunEvent) :
    (∀ first second, Streams library request waiting cancelled work first →
        Streams library request waiting cancelled work second →
        shownEdits first <+: shownEdits second ∨ shownEdits second <+: shownEdits first) ∧
      ∀ plan, (runTo library request waiting cancelled work).phase.plan? = some plan →
        (∀ payload, Streams library request waiting cancelled work payload →
            shownEdits payload <+: plan.operations.map plannedEdit) ∧
          ∀ {κ W : Type} (host : Host κ ℚ W)
            (client : LiveRun host (Shows library request waiting cancelled work) (Answers request plan)),
            SentAs request client.transfer → List.Forall₂ Performs plan.operations client.executed := by
  obtain ⟨ledger, shown, planned⟩ := streams_begin library request waiting cancelled work
  refine ⟨fun first second streams others => ?_, fun plan returned => ?_⟩
  -- both are beginnings of one list
  · exact List.prefix_or_prefix_of_prefix ((shown first streams).map _) ((shown second others).map _)
  · have front : ∀ payload, Streams library request waiting cancelled work payload →
        shownEdits payload <+: plan.operations.map plannedEdit :=
      fun payload streams => ((shown payload streams).map _).trans (planned plan returned)
    exact ⟨front, fun host client sent => executed_exactly (liveRequest sent client.live front) client rfl⟩

/-! A turn that raises the exposure in two steps. The panel sees the first of them live, is left and entered again,
and applies the second one with the response. -/

def raisingRequest : RequestEnvelope where
  requestId := sampleUuid 2
  session := ⟨"app-1", sampleUuid 0, sampleUuid 1, "turn-1", by decide +kernel⟩
  refinement := exposureRequest.refinement
  capabilities := [exposureCapability]
  imageSnapshot := ⟨"image-1-history-0-0", [exposureSetting], by decide⟩
  requestIdPresent := by decide +kernel
  capabilitiesPresent := exposureRequest.capabilitiesPresent
  capabilityIdsUnique := exposureRequest.capabilityIdsUnique
  consistent := by decide +kernel

/-- The turn up to the moment at which the first step can be seen. -/
def firstStep : List TurnRunEvent :=
  [.threadStarted "thread-1", .turnStarted "codex-1" "data:image/jpeg;base64," "image/jpeg" [],
    .toolCall [("threadId", .str "thread-1"), ("turnId", .str "codex-1"), ("tool", .str "apply_operations"),
      ("arguments", .obj raiseExposure)] fun _ => none,
    .write, .write, .write, .write, .write]

def raisingTurn : List TurnRunEvent :=
  firstStep ++ [.write, .write, .write, .write, .write, .write, .planReturned exposurePlan]

def raisingSnapshot : RequestProgressPayload := snapshotAt plainToolLibrary raisingRequest [] .empty firstStep

def raiseOperation (operationId : String) (present : operationId ≠ "") (sequence : Int) (positive : 1 ≤ sequence)
    (mode : OperationMode) (number : ℚ) : PlannedOperationDraft where
  operationId := operationId
  sequence := sequence
  kind := .setFloat
  target := exposureTarget
  value := { mode, number := some number }
  reason := none
  operationIdPresent := present
  sequencePositive := positive
  valid := validateKindAndValue_float mode number

def raisedPlan : AgentPlan where
  assistantText := exposurePlan.assistantText
  continueRefining := false
  operations := [raiseOperation "tool-op-1" (by decide) 1 one_positive .delta 1,
    raiseOperation "tool-op-2" (by decide) 2 two_positive .set 9]
  canonicalActions := none
  assistantTextPresent := exposurePlan.assistantTextPresent
  operationIdsUnique := by decide
  sequencesUnique := by decide

theorem raisingTurn_planned :
    (runTo plainToolLibrary raisingRequest [] .empty raisingTurn).phase.plan? = some raisedPlan := by
  decide +kernel

def raisedResponse (operations : List PlannedOperationDraft) : ChatResponse ℚ where
  schemaVersion := "3.0"
  requestId := raisingRequest.requestId
  appSessionId := raisingRequest.session.appSessionId
  imageSessionId := raisingRequest.session.imageSessionId
  conversationId := raisingRequest.session.conversationId
  turnId := raisingRequest.session.turnId
  planId := some ("plan-" ++ raisingRequest.session.turnId)
  baseImageRevisionId := some raisingRequest.imageSnapshot.imageRevisionId
  status := "ok"
  messageRole := "assistant"
  messageText := exposurePlan.assistantText
  operations := operations.map clientOperation
  refinementMode := some .multiTurn
  refinementEnabled := true
  refinementPassIndex := 1
  refinementMaxPasses := 2
  refinementContinue := false
  refinementStopReason := (buildRefinementStatus raisingRequest raisedPlan).stopReason.name
  errorCode := none
  errorMessage := none

def raisedProgress : ClientProgress ℚ where
  found := true
  response := some (raisedResponse (raisingSnapshot.operations.map (·.operation)))
  status := some "running"
  message := some "Applied live edit step 1/2: exposure / exposure +1.000"
  lastToolName := some "apply_operations"
  toolCallsUsed := 1
  toolCallsMax := 15
  appliedOperationCount := 1

theorem raisedProgress_shown : Shows plainToolLibrary raisingRequest [] .empty raisingTurn raisedProgress := by
  refine .inr (.inr ⟨raisingSnapshot, .snapshot firstStep (List.prefix_append ..), ?_⟩)
  constructor
  case operations => exact ⟨_, rfl, clientOperations_agree _⟩
  all_goals decide +kernel

theorem raisedResponse_answers : Answers raisingRequest raisedPlan (raisedResponse raisedPlan.operations) := by
  constructor
  case operations => exact clientOperations_agree _
  all_goals decide +kernel

def raisingHost : Host SampleEdit ℚ Unit :=
  { sampleHost with darkroom := { sampleRoom with
      candidates := fun _ => some [sampleDescriptor "setting.exposure" "iop/exposure/exposure" .widget] } }

def raisingEvents : List (Event SampleEdit ℚ) :=
  [.streamed (sampleUuid 2) raisedProgress, .dispatch .queued, .leave, .enter 1 ⟨1, 1⟩,
    .ended (sampleUuid 2) (.completed (raisedResponse raisedPlan.operations))]

def raisingTransfer : Transfer where
  submission := {
    requestId := sampleUuid 2
    promptText := "brighten"
    goalText := "brighten"
    conversationId := sampleUuid 1
    imageSessionId := sampleUuid 0
    baseImageRevisionId := "image-1-history-0-0"
    hasImageId := true
    imageId := 1
    refinementEnabled := true
    fastModeEnabled := false
    refinementPassIndex := 1
    refinementMaxPasses := 4 }
  refinementMode := .multiTurn
  historyPosition := 0
  historyCount := 0

def raisingSent : SentLive raisingHost where
  before := step raisingHost sampleStart (.enter 1 ⟨0, 0⟩)
  prompt := "brighten"
  outcome := .queued
  transfer := raisingTransfer
  reachable := ⟨sampleStart, ⟨_, _, rfl⟩, [.enter 1 ⟨0, 0⟩], rfl⟩
  idle := by decide +kernel
  sent := by decide +kernel
  live := rfl

theorem raisingEvents_alone : EveryStep (step raisingHost) (Alone raisingTransfer.submission.requestId
    (Shows plainToolLibrary raisingRequest [] .empty raisingTurn) (Answers raisingRequest raisedPlan)) raisingSent.start
    raisingEvents := by
  refine ⟨⟨rfl, raisedProgress_shown⟩, ?_, trivial, ?_, ⟨rfl, _, raisedResponse_answers, rfl⟩, trivial⟩
  · have queue : (step raisingHost raisingSent.start (.streamed (sampleUuid 2) raisedProgress)).queue =
        [.progress raisingTransfer.submission raisedProgress] := by decide +kernel
    exact alone_of_snapshot queue .queued
  · unfold Alone
    decide +kernel

theorem raisingEvents_accepted : EveryStep (step raisingHost) Unedited raisingSent.start raisingEvents := by
  refine ⟨trivial, trivial, trivial, ?_, trivial, trivial⟩
  unfold Unedited
  decide +kernel

def raisingResult : ClientResult ℚ := { response := some (raisedResponse raisedPlan.operations) }

theorem raisingEvents_queue : (run (step raisingHost) raisingSent.start raisingEvents).queue =
    .result raisingSent.transfer.submission raisingResult :: [] := by
  decide +kernel

theorem raisingEvents_ok : ∀ batch ∈ raisingSent.start.executedSince (step raisingHost
    (run (step raisingHost) raisingSent.start raisingEvents) (.dispatch .queued)), batch.ok := by
  decide +kernel

def raisingClient : LiveRun raisingHost (Shows plainToolLibrary raisingRequest [] .empty raisingTurn)
    (Answers raisingRequest raisedPlan) :=
  ⟨raisingSent, raisingEvents, raisingResult, [], .queued, raisingEvents_alone, raisingEvents_queue, by decide +kernel,
    .inl raisingEvents_accepted, raisingEvents_ok⟩

theorem plan_executed_exactly_once_raising :
    List.Forall₂ Performs raisedPlan.operations raisingClient.executed ∧
      shownEdits raisingSnapshot <+: raisedPlan.operations.map plannedEdit := by
  obtain ⟨-, planned⟩ := plan_executed_exactly_once plainToolLibrary raisingRequest [] .empty raisingTurn
  obtain ⟨shown, executed⟩ := planned raisedPlan raisingTurn_planned
  refine ⟨executed raisingHost raisingClient ?_, shown raisingSnapshot (.snapshot firstStep (List.prefix_append ..))⟩
  constructor <;> decide +kernel

end DarktableAgent.Live
