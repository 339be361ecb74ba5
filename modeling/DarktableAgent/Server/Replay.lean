import DarktableAgent.Server.Ledger

/-! The simulated settings of a turn are a replay of what was applied.

A turn's context carries the settings and the list of applied operations side by side.
Whoever reads a context, also between the writes of a tool call, finds the settings
that the list leaves when it is applied to what the request reported.
-/

set_option autoImplicit false

namespace DarktableAgent.Server

open Foundation Protocol

/-- The settings of the context are what its operations leave of the request's. -/
structure Replays (request : RequestEnvelope) (context : TurnContext) : Prop where
  settings : applyBatch (settingById request) context.appliedOperations = .ok context.settingById
  baseRequest : context.baseRequest = request
  liveRunEnabled : context.liveRunEnabled = request.refinement.enabled

section Calls

variable {request : RequestEnvelope} {context : TurnContext}

theorem applyBatch_singleton (settings : SettingMap) (operation : OperationDict) :
    applyBatch settings [operation] = (applyOperationToSettings settings operation).map (·.1) := by
  unfold applyBatch
  rw [List.foldlM_cons]
  cases applyOperationToSettings settings operation <;> rfl

theorem Replays.sameEdits (replays : Replays request context) {after : TurnContext} (same : SameEdits context after) :
    Replays request after := by
  constructor
  · rw [same.appliedOperations, same.settingById]
    exact replays.settings
  · exact same.baseRequest.trans replays.baseRequest
  · exact same.liveRunEnabled.trans replays.liveRunEnabled

theorem replays_registerTurnContext (request : RequestEnvelope) (previewDataUrl previewMimeType : String)
    (previewBytes : Bytes) :
    Replays request (registerTurnContext request previewDataUrl previewMimeType previewBytes) := ⟨rfl, rfl, rfl⟩

/-- One more operation, with the settings it leaves. -/
theorem Replays.applied (replays : Replays request context) {operation : OperationDict} {settings : SettingMap}
    {record : AppliedOperation}
    (accepted : applyOperationToSettings context.settingById operation = .ok (settings, record))
    {after : TurnContext} (isSettings : after.settingById = settings)
    (isApplied : after.appliedOperations = context.appliedOperations ++ [operation])
    (baseRequest : after.baseRequest = context.baseRequest) (live : after.liveRunEnabled = context.liveRunEnabled) :
    Replays request after := by
  constructor
  · rw [isApplied, isSettings, applyBatch_append replays.settings, applyBatch_singleton, accepted]
    rfl
  · exact baseRequest.trans replays.baseRequest
  · exact live.trans replays.liveRunEnabled

/-- A context that the loop shows, and the one it leaves. -/
theorem runLiveBatch_replays (library : ToolLibrary) (renders : Nat → Option Bytes) (total stepIndex : Nat)
    (operations : List OperationDict) (replays : Replays request context) :
    let batch := runLiveBatch library renders total stepIndex context operations
    Replays request batch.context ∧ ∀ seen, .context seen ∈ batch.effects → Replays request seen := by
  induction operations generalizing context stepIndex with
  | nil => exact ⟨replays, fun seen member => by simp [runLiveBatch] at member⟩
  | cons operation rest ih =>
    simp only [runLiveBatch]
    cases accepted : applyOperationToSettings context.settingById operation with
    | error text =>
      have refused : applyLiveOperationStep context operation = .error text := by
        rw [applyLiveOperationStep, accepted]
        rfl
      rw [refused]
      exact ⟨replays, fun seen member => by simp at member⟩
    | ok written =>
      obtain ⟨staged, step, stagedSettings, stagedApplied, -, -, stagedLive, stagedRequest, -⟩ :=
        applyLiveOperationStep_ok accepted
      rw [step]
      let summarized := staged.withSummary (summarizeLiveOperation library staged operation)
      have next : Replays request summarized :=
        replays.applied accepted stagedSettings stagedApplied stagedRequest stagedLive
      have rendered := next.sameEdits (waitForLiveRender_sameEdits library summarized (renders stepIndex))
      obtain ⟨left, seenLater⟩ := ih (stepIndex + 1) rendered
      refine ⟨left, fun seen member => ?_⟩
      simp only [List.cons_append, List.nil_append, List.mem_cons, LiveEffect.context.injEq, reduceCtorEq,
        false_or] at member
      rcases member with rfl | rfl | rfl | later
      -- the list and the settings change together, before the flag is raised
      · exact replays.applied accepted stagedSettings stagedApplied rfl rfl
      · exact next
      · exact rendered
      · exact seenLater seen later

theorem callTool_replays (library : ToolLibrary) (guardrailError : Option String) (toolName : String)
    (arguments : JsonObject) (renders : Nat → Option Bytes) (replays : Replays request context) :
    let called := (callTool library context guardrailError toolName arguments renders).1
    Replays request called.context ∧ ∀ seen, .context seen ∈ called.effects → Replays request seen := by
  have quiet : ∀ seen, LiveEffect.context seen ∈ ([] : List LiveEffect) → Replays request seen :=
    fun seen member => absurd member List.not_mem_nil
  unfold callTool
  cases guardrailError with
  | some text => exact ⟨replays, quiet⟩
  | none =>
    dsimp only
    unfold dispatchTool
    split_ifs
    · exact ⟨replays, quiet⟩
    · exact ⟨replays, quiet⟩
    · exact ⟨replays, quiet⟩
    · rcases applyOperationsToolCall_cases library context arguments renders with
        ⟨-, unchanged, nothing⟩ | ⟨prepared, settings, -, -, -, -, batch, rfl, left, effects⟩
      · dsimp only
        rw [unchanged, nothing]
        exact ⟨replays, quiet⟩
      · dsimp only
        rw [left, effects]
        exact runLiveBatch_replays library renders _ 1 _ replays
    · exact ⟨replays, quiet⟩

/-- Every context that a tool call writes. -/
theorem handleToolCall_replays (library : ToolLibrary) (toolName : String) (arguments : JsonObject)
    (renders : Nat → Option Bytes) (replays : Replays request context) :
    ∀ seen, .context seen ∈ (handleToolCall library context toolName arguments renders).effects →
      Replays request seen := by
  obtain ⟨counted, isCounted⟩ : ∃ counted, registerToolCallProgress library context toolName = counted := ⟨_, rfl⟩
  have sameCounted := registerToolCallProgress_sameEdits library context toolName
  rw [isCounted] at sameCounted
  have first := replays.sameEdits sameCounted
  obtain ⟨left, seenCalled⟩ := callTool_replays library counted.2 toolName arguments renders first
  have rendered := left.sameEdits (awaitLateRender_sameEdits library _ toolName
    (callTool library counted.1 counted.2 toolName arguments renders).1.response (renders 0))
  intro seen member
  unfold handleToolCall at member
  simp only [isCounted, List.cons_append, List.mem_cons, List.mem_append, LiveEffect.context.injEq, reduceCtorEq,
    false_or, List.not_mem_nil, or_false] at member
  rcases member with rfl | called | rfl
  · exact first
  · exact seenCalled seen called
  · exact rendered

end Calls

section Run

variable {library : ToolLibrary} {request : RequestEnvelope} {run : TurnRun}

/-- All contexts of the run, those that are still to be written included. -/
structure AllReplay (request : RequestEnvelope) (run : TurnRun) : Prop where
  contexts : ∀ key context, run.bridge.turnContexts.get? key = some context → Replays request context
  pending : ∀ write ∈ run.writes, ∀ seen, write.effect = .context seen → Replays request seen

namespace AllReplay

theorem sameContexts (replay : AllReplay request run) {after : BridgeState}
    (same : after.turnContexts = run.bridge.turnContexts) (phase : TurnPhase) :
    AllReplay request { run with bridge := after, phase := phase } := by
  refine ⟨fun key context found => ?_, replay.pending⟩
  rw [same] at found
  exact replay.contexts key context found

theorem entered (replay : AllReplay request run) (key : String × String) {context : TurnContext}
    (replays : Replays request context) {after : Dict (String × String) TurnContext}
    (isAfter : after = run.bridge.turnContexts.set key context) :
    ∀ other found, after.get? other = some found → Replays request found := by
  intro other found entry
  rw [isAfter, Dict.get?_set] at entry
  split_ifs at entry with here
  · rw [← Option.some.inj entry]
    exact replays
  · exact replay.contexts other found entry

theorem write (replay : AllReplay request run) (tracked : Tracked request run) {write : BridgeWrite}
    {rest : List BridgeWrite} (writes : run.writes = write :: rest) :
    AllReplay request { run with bridge := run.bridge.write write, writes := rest } := by
  obtain ⟨threadId, turnId, effect⟩ := write
  have later : ∀ other ∈ rest, other ∈ run.writes := by
    intro other member
    rw [writes]
    exact List.mem_cons_of_mem _ member
  refine ⟨?_, fun other member => replay.pending other (later other member)⟩
  cases effect with
  | status message lastToolName =>
    have same := (sameTurns_setStatusForTurn tracked.keyed threadId turnId message lastToolName).turnContexts
    exact (replay.sameContexts same run.phase).contexts
  | context written =>
    have replays := replay.pending ⟨threadId, turnId, .context written⟩ (by rw [writes]; exact List.mem_cons_self) _ rfl
    exact replay.entered (threadId, turnId) replays rfl

theorem toolCall (replay : AllReplay request run) (params : JsonObject) (renders : Nat → Option Bytes) :
    AllReplay request { run with writes := (handleDynamicToolCall library run.bridge params renders).2 } := by
  refine ⟨replay.contexts, fun write member seen same => ?_⟩
  rcases handleDynamicToolCall_writes library run.bridge params renders with
    refused | ⟨threadId, turnId, context, toolName, arguments, found, writes⟩
  · have none : write ∈ (handleDynamicToolCall library run.bridge params renders).2 := member
    rw [refused] at none
    exact absurd none List.not_mem_nil
  · have listed : write ∈ (handleDynamicToolCall library run.bridge params renders).2 := member
    rw [writes] at listed
    obtain ⟨effect, called, rfl⟩ := List.mem_map.mp listed
    have isContext : effect = .context seen := same
    rw [isContext] at called
    exact handleToolCall_replays library toolName arguments renders (replay.contexts _ context found) seen called

theorem leave (replay : AllReplay request run) (requestId : String) (phase : TurnPhase) {writes : List BridgeWrite}
    (kept : ∀ write ∈ writes, write ∈ run.writes) :
    AllReplay request ⟨leaveTurn requestId run.bridge run.phase, phase, writes⟩ := by
  have closed : ∀ threadId turnId key context,
      ((run.bridge.closeTurn threadId turnId).changeActive requestId fun active =>
        { active with codexTurnId := none }).turnContexts.get? key = some context → Replays request context := by
    intro threadId turnId key context found
    rw [changeActive_turnContexts] at found
    unfold BridgeState.closeTurn at found
    rw [Dict.get?_erase] at found
    split_ifs at found
    exact replay.contexts key context found
  refine ⟨fun key context found => ?_, fun write member => replay.pending write (kept write member)⟩
  unfold leaveTurn at found
  split at found
  · exact closed _ _ key context found
  · exact closed _ _ key context found
  all_goals exact replay.contexts key context found

theorem step (replay : AllReplay request run) (tracked : Tracked request run) (event : TurnRunEvent) :
    AllReplay request (turnRunStep library request run event) := by
  have same : ∀ {after : BridgeState}, SameTurns run.bridge after → AllReplay request { run with bridge := after } :=
    fun turns => replay.sameContexts turns.turnContexts run.phase
  cases event with
  | status status message => exact same (sameTurns_setActiveRequestStatus tracked.keyed _ _ _)
  | cancelRequest key reason => exact same (sameTurns_cancelRequest tracked.keyed key reason)
  | threadStarted threadId =>
    unfold turnRunStep
    dsimp only
    split
    · exact replay.sameContexts (changeActive_turnContexts ..) _
    · exact replay
  | turnStarted turnId previewDataUrl previewMimeType previewBytes =>
    unfold turnRunStep
    dsimp only
    split
    · rename_i threadId _
      split_ifs
      · exact replay
      · have fresh := replays_registerTurnContext request previewDataUrl previewMimeType previewBytes
        refine ⟨replay.entered (threadId, turnId) fresh ?_, replay.pending⟩
        unfold BridgeState.openTurn
        rw [changeActive_turnContexts]
    · exact replay
  | toolCall params renders =>
    unfold turnRunStep
    dsimp only
    split
    · exact replay.toolCall params renders
    · exact replay
  | write =>
    unfold turnRunStep
    dsimp only
    split
    · exact replay
    · exact replay.write tracked ‹_›
  | planReturned plan =>
    unfold turnRunStep
    dsimp only
    split
    · exact replay.sameContexts rfl _
    · exact replay
  | closed =>
    unfold turnRunStep
    dsimp only
    split
    · rename_i planned
      rw [← planned]
      exact replay.leave request.requestId _ fun _ member => member
    · exact replay
  | raised =>
    unfold turnRunStep
    dsimp only
    split
    · exact replay
    · exact replay.leave request.requestId _ fun _ member => absurd member List.not_mem_nil
  | unregistered =>
    unfold turnRunStep
    dsimp only
    split
    · exact replay.sameContexts (unregisterRequest_turnContexts ..) run.phase
    · exact replay.sameContexts (unregisterRequest_turnContexts ..) run.phase
    · exact replay
  | otherRegistered other =>
    unfold turnRunStep
    dsimp only
    split_ifs
    · exact replay
    · exact ⟨replay.contexts, replay.pending⟩
  | otherUnregistered requestId =>
    unfold turnRunStep
    dsimp only
    split_ifs
    · exact replay
    · exact replay.sameContexts (unregisterRequest_turnContexts ..) run.phase

theorem run_replay (replay : AllReplay request run) (tracked : Tracked request run) (events : List TurnRunEvent) :
    AllReplay request (Foundation.run (turnRunStep library request) run events) := by
  induction events generalizing run with
  | nil => exact replay
  | cons event rest ih => exact ih (replay.step tracked event) (tracked.step event)

theorem startRun (request : RequestEnvelope) (waiting : List RequestEnvelope)
    (cancelled : Dict CancelRequestKey String) : AllReplay request (startRun request waiting cancelled) := by
  refine ⟨fun key context found => ?_, fun write member => absurd member List.not_mem_nil⟩
  have turn := (Staged.startRun request waiting cancelled).only key context found
  cases turn

end AllReplay

end Run

section Snapshots

variable (library : ToolLibrary) (request : RequestEnvelope) (waiting : List RequestEnvelope)
  (cancelled : Dict CancelRequestKey String) (events : List TurnRunEvent)

/-- At every moment of a run, whoever finds a context finds the settings that its operations leave of the request's. -/
theorem runTo_replays : ∀ key context,
    (runTo library request waiting cancelled events).bridge.turnContexts.get? key = some context →
      Replays request context :=
  ((AllReplay.startRun request waiting cancelled).run_replay (tracked_startRun request waiting cancelled) events).contexts

/-- A returned plan begins with what the context of its turn has applied. -/
theorem runTo_planned {threadId turnId : String} {plan : AgentPlan}
    (planned : (runTo library request waiting cancelled events).phase = .planned threadId turnId plan)
    {context : TurnContext}
    (found : (runTo library request waiting cancelled events).bridge.turnContexts.get? (threadId, turnId) =
      some context) :
    context.appliedOperations.map (fun dict => plannedEdit dict.operation) <+: plan.operations.map plannedEdit := by
  obtain ⟨ledger, -, staged, -⟩ := run_staged (Staged.startRun request waiting cancelled)
    (tracked_startRun request waiting cancelled) events
  have idle := staged.idle fun _ _ running => by
    have isPlanned : (runTo library request waiting cancelled events).phase = .running _ _ := running
    rw [planned] at isPlanned
    cases isPlanned
  rw [(staged.context _ context found).2 idle]
  refine staged.planned plan ?_
  exact congrArg TurnPhase.plan? planned

/-- What the tools of a turn read and what its client is shown fit together: the settings of a context are what its
operations leave of the request's settings, and every snapshot lists operations that these settings accept in order. -/
theorem settings_replay_applied :
    (∀ key context, (runTo library request waiting cancelled events).bridge.turnContexts.get? key = some context →
      applyBatch (settingById request) context.appliedOperations = .ok context.settingById) ∧
    ∃ settings, applyBatch (settingById request)
      (snapshotAt library request waiting cancelled events).operations = .ok settings := by
  have replays := runTo_replays library request waiting cancelled events
  refine ⟨fun key context found => (replays key context found).settings, ?_⟩
  have nothing : ∃ settings, applyBatch (settingById request) [] = .ok settings := ⟨_, rfl⟩
  unfold snapshotAt BridgeState.getRequestProgress
  cases (runTo library request waiting cancelled events).bridge.activeRequests.get? (cancelKeyOf request).requestId with
  | none => exact nothing
  | some active =>
    dsimp only
    split_ifs
    · exact nothing
    · dsimp only
      cases shown : (runTo library request waiting cancelled events).bridge.contextOf active with
      | none => exact nothing
      | some context =>
        obtain ⟨threadId, -, turn⟩ := Option.bind_eq_some_iff.mp shown
        obtain ⟨turnId, -, found⟩ := Option.bind_eq_some_iff.mp turn
        exact ⟨_, (replays (threadId, turnId) context found).settings⟩

end Snapshots

end DarktableAgent.Server
