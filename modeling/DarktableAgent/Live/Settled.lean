import DarktableAgent.Live.Delivery
import DarktableAgent.Chat.Content
import DarktableAgent.Server.Replay
import DarktableAgent.Refinement.Reported
import DarktableAgent.Refinement.Reordering

/-! Both sides of a live turn end with the same values.

The server simulates every edit on a copy of the settings, the panel executes them in
batches of its own, each in an order of its own. When the turn is over, every control
holds what the server holds for it.
-/

set_option autoImplicit false

namespace DarktableAgent.Live

open Foundation Protocol Client Chat Refinement DarktableAgent.Stream
open Server hiding Bytes

section Meaning

/-- Settings are changed by what an operation does, not by its id or its place in a list. -/
theorem updateKeyed_congr {first second : OperationDict}
    (same : plannedEdit first.operation = plannedEdit second.operation) (settings : SettingMap) :
    updateKeyed settings first = updateKeyed settings second := by
  have kind : first.kind = second.kind := congrArg Edit.kind same
  have value : first.value = second.value := congrArg Edit.value same
  have actionPath : first.actionPath = second.actionPath := congrArg (·.target.actionPath) same
  have settingId : first.settingId = second.settingId := congrArg (·.target.settingId) same
  have update : ∀ setting, updateSetting setting first = updateSetting setting second := by
    intro setting
    unfold updateSetting applyToSetting
    rw [kind, value, actionPath, settingId]
  unfold updateKeyed applyKeyed Refinement.unknownSetting
  rw [settingId]
  simp only [update]

def editsOf (operations : List OperationDict) : List Edit := operations.map fun dict => plannedEdit dict.operation

theorem applyBatch_congr {first second : List OperationDict} (same : editsOf first = editsOf second)
    (settings : SettingMap) : applyBatch settings first = applyBatch settings second := by
  rw [applyBatch_keyed, applyBatch_keyed]
  induction first generalizing second settings with
  | nil =>
    rw [List.map_eq_nil_iff.mp same.symm]
  | cons operation rest ih =>
    cases second with
    | nil => cases same
    | cons other others =>
      obtain ⟨here, later⟩ := List.cons.inj same
      rw [List.foldlM_cons, List.foldlM_cons, updateKeyed_congr here]
      exact bind_congr fun middle => ih later middle

end Meaning

section Batches

variable {W : Type} [DecidableEq W] {catalog : WidgetCatalog W} {cells : Cells W} {settings settings' : SettingMap}

/-- The executor applies a batch that the server accepts in the order of the batch, in the order of its own. -/
theorem holds_executeResponse (holds : Holds catalog cells settings) {operations : List OperationDict}
    (accepted : applyBatch settings operations = .ok settings') :
    Holds catalog (executeResponse catalog.darkroom cells (operations.map received)).state settings' := by
  have inOrder : applyBatch settings (clientOrder operations) = .ok settings' :=
    (applyBatch_reordered (clientOrder_perm operations) (fun _ addressed => clientOrder_filter addressed) settings
      settings').mpr accepted
  rw [applyBatch_keyed] at inOrder
  obtain ⟨valid, -, -, -, final⟩ := holds.run inOrder
  rw [← orderedOperationsForExecution_received] at final
  -- validation reads no cell, so what each operation passes in turn the batch passes beforehand
  have nothingRejected :
      firstRejection catalog.darkroom cells (orderedOperationsForExecution (operations.map received)) = none := by
    rw [orderedOperationsForExecution_received, firstRejection_none, List.forall_mem_map]
    exact fun dict member => valid dict member cells
  have executes : executeResponse catalog.darkroom cells (operations.map received) =
      executeAll catalog.darkroom cells (orderedOperationsForExecution (operations.map received)) := by
    refine executeResponse_silent (WidgetCatalog.isCurrentView_darkroom catalog cells) fun rejection found => ?_
    rw [nothingRejected] at found
    cases found
  rw [executes]
  exact final

/-- The operation as the client reads it, up to its id and its sequence number. -/
def ReadAs (planned : PlannedOperationDraft) (executed : ChatOperation ℚ) : Prop :=
  ∃ numbered, plannedEdit numbered = plannedEdit planned ∧ executed = clientOperation numbered

theorem dicts_of_readAs {plan : List PlannedOperationDraft} {executed : List (ChatOperation ℚ)}
    (read : List.Forall₂ ReadAs plan executed) : ∃ dicts : List OperationDict, executed = dicts.map received ∧
      editsOf dicts = plan.map plannedEdit := by
  induction read with
  | nil => exact ⟨[], rfl, rfl⟩
  | cons reads _ ih =>
    obtain ⟨dicts, same, edits⟩ := ih
    obtain ⟨numbered, edit, rfl⟩ := reads
    exact ⟨⟨numbered, false⟩ :: dicts, congrArg (_ :: ·) same, congrArg₂ List.cons edit edits⟩

/-- Lists that make up a list of images are images of its parts. -/
theorem parts_of_flatten {α β : Type} {image : α → β} {lists : List (List β)} {items : List α}
    (same : lists.flatten = items.map image) :
    ∃ parts : List (List α), lists = parts.map (·.map image) ∧ parts.flatten = items := by
  induction lists generalizing items with
  | nil => exact ⟨[], rfl, (List.map_eq_nil_iff.mp same.symm).symm⟩
  | cons list rest ih =>
    rw [List.flatten_cons] at same
    obtain ⟨front, behind, rfl, isFront, isBehind⟩ := List.map_eq_append_iff.mp same.symm
    obtain ⟨parts, isRest, whole⟩ := ih isBehind.symm
    exact ⟨front :: parts, by rw [List.map_cons, isFront, isRest], by rw [List.flatten_cons, whole]⟩

/-- Batches of operations that the server accepts one after the other leave what the server holds. -/
theorem holds_replay (holds : Holds catalog cells settings) {host : Host (Cells W) ℚ W}
    (room : host.darkroom = catalog.darkroom) {batches : List (ExecutedBatch ℚ)} {parts : List (List OperationDict)}
    (same : batches.map (·.operations) = parts.map (·.map received))
    (accepted : applyBatch settings parts.flatten = .ok settings') :
    Holds catalog (host.replay cells batches) settings' := by
  induction batches generalizing cells settings parts with
  | nil =>
    obtain rfl := List.map_eq_nil_iff.mp same.symm
    cases accepted
    exact holds
  | cons batch rest ih =>
    cases parts with
    | nil => cases same
    | cons part others =>
      obtain ⟨here, later⟩ := List.cons.inj same
      obtain ⟨middle, first, second⟩ := applyBatch_append_ok accepted
      refine ih ?_ later second
      have after : host.afterBatch cells batch =
          (executeResponse catalog.darkroom cells (part.map received)).state := by
        have operations : batch.operations = part.map received := here
        unfold Host.afterBatch
        rw [room, operations]
        rfl
      rw [after]
      exact holds_executeResponse holds first

end Batches

section Turn

variable {library : ToolLibrary} {request : RequestEnvelope} {waiting : List RequestEnvelope}
  {cancelled : Dict CancelRequestKey String} {work : List TurnRunEvent}

theorem readAs_congr (planned other : PlannedOperationDraft) (executed : ChatOperation ℚ)
    (same : plannedEdit planned = plannedEdit other) (read : ReadAs planned executed) : ReadAs other executed := by
  obtain ⟨numbered, does, isRead⟩ := read
  exact ⟨numbered, does.trans same, isRead⟩

theorem forall₂_readAs (operations : List PlannedOperationDraft) :
    List.Forall₂ ReadAs operations (operations.map clientOperation) := by
  induction operations with
  | nil => exact .nil
  | cons operation rest ih => exact .cons ⟨operation, rfl, rfl⟩ ih

/-- What the job posts of a stream, as the panel serves it. -/
def postedRequest {load : JsonLoader} {floatRepr : ℚ → Bytes} {snapshots : List RequestProgressPayload}
    {plan : AgentPlan} (fits : StreamFits load floatRepr request snapshots (.planned plan))
    {posted : Received} (progress : posted.progress = (sentPayloads request snapshots (.planned plan)).map
      (progressRead request))
    (result : posted.result = { response := some (planRead request plan) })
    (front : ∀ payload ∈ sentPayloads request snapshots (.planned plan),
      shownEdits payload <+: plan.operations.map plannedEdit)
    {transfer : Transfer} (sent : SentAs request transfer) (live : transfer.refinementMode = .multiTurn) :
    LiveRequest PlannedOperationDraft ℚ where
  submission := transfer.submission
  plan := plan.operations
  relates := ReadAs
  shown := (· ∈ posted.progress)
  final := fun response => posted.result = { response := some response }
  reads := by
    intro snapshot member
    rw [progress] at member
    obtain ⟨payload, sent, rfl⟩ := List.mem_map.mp member
    cases found : payload.found with
    | false => exact .inr (.inl found)
    | true =>
      refine .inr (.inr ⟨_, if_pos found, begins_of_prefix readAs_congr ?_ (forall₂_readAs _)⟩)
      rw [List.map_map]
      exact front payload sent
  answers := by
    intro response same
    rw [result] at same
    injection same with same
    obtain rfl := Option.some.inj same
    have agrees : ResponseAgrees (buildResponseFromPlan request plan) (planRead request plan) := by
      obtain ⟨parsed, read, agrees⟩ := chatResponseParseData_buildResponseFromPlan fits.requestFits fits.outcomeFits.1
      rw [chatResponseParseData_planRead fits.requestFits fits.outcomeFits.1] at read
      rwa [Except.ok.inj read]
    refine ⟨forall₂_readAs _, agrees.status, ?_, ?_, ?_, ?_⟩
    · exact agrees.requestId.trans sent.requestId
    · exact agrees.conversationId.trans sent.conversationId
    · rw [agrees.refinementMode]
      exact congrArg some (sent.mode.trans live)
    · rw [agrees.baseImageRevisionId]
      exact congrArg some sent.imageRevisionId

/-- When the turn is planned and nothing of the plan was left to the client alone, every control that the darkroom
shows after the result holds the value that the turn's context holds for its setting. -/
theorem settled_alike {W : Type} [DecidableEq W] (catalog : WidgetCatalog W) (host : Host (Cells W) ℚ W)
    (room : host.darkroom = catalog.darkroom) {threadId turnId : String} {plan : AgentPlan}
    (planned : (runTo library request waiting cancelled work).phase = .planned threadId turnId plan)
    {context : TurnContext}
    (found : (runTo library request waiting cancelled work).bridge.turnContexts.get? (threadId, turnId) = some context)
    (simulated : plan.operations.length = context.appliedOperations.length)
    {load : JsonLoader} {floatRepr : ℚ → Bytes} {moments : List (List TurnRunEvent)}
    (past : ∀ moment ∈ moments, moment <+: work)
    (fits : StreamFits load floatRepr request (moments.map (snapshotAt library request waiting cancelled)) (.planned plan))
    {sent : Client.ChatRequest} (own : requestHandle sent = request.clientRequest) {transfer : ChatTransfer}
    (arrives : Arrives floatRepr
      (chatStream request (moments.map (snapshotAt library request waiting cancelled)) (.planned plan)) transfer)
    (client : LiveRun host (· ∈ (concludeTransfer load sent transfer).progress)
      (fun response => (concludeTransfer load sent transfer).result = { response := some response }))
    (sentAs : SentAs request client.transfer)
    (unedited : EveryStep (step host) Unedited client.start client.events)
    (reported : List.Forall₂ SerializedAs (collectControls catalog.darkroom client.start.develop.content)
      request.imageSnapshot.editableSettings) :
    ∀ control ∈ collectControls catalog.darkroom (step host client.last (.dispatch client.next)).develop.content,
      ∃ setting, context.settingById.get? control.settingId = some setting ∧ SameCurrent control setting := by
  obtain ⟨progress, parsed, readBack, -, result⟩ := concludeTransfer_stream fits own arrives
  rw [chatResponseParseData_planRead fits.requestFits fits.outcomeFits.1] at readBack
  obtain rfl := Except.ok.inj readBack
  -- the panel executes the plan, in batches
  have returned : (runTo library request waiting cancelled work).phase.plan? = some plan :=
    congrArg TurnPhase.plan? planned
  obtain ⟨ledger, shown, begins⟩ := streams_begin library request waiting cancelled work
  have front : ∀ payload ∈ sentPayloads request (moments.map (snapshotAt library request waiting cancelled))
      (.planned plan), shownEdits payload <+: plan.operations.map plannedEdit := fun payload member =>
    ((shown payload (sentPayloads_stream past _ payload member)).map _).trans (begins plan returned)
  have executed : List.Forall₂ ReadAs plan.operations client.executed :=
    executed_exactly (postedRequest fits progress result front sentAs client.live) client rfl
  obtain ⟨dicts, same, edits⟩ := dicts_of_readAs executed
  have logged : ((client.start.executedSince (step host client.last (.dispatch client.next))).map
      (·.operations)).flatten = dicts.map received := same
  obtain ⟨parts, batches, whole⟩ := parts_of_flatten logged
  -- the server has simulated the plan
  have applied := (runTo_planned library request waiting cancelled work planned found).eq_of_length
    (by rw [List.length_map, List.length_map, simulated])
  have accepted : applyBatch (settingById request) parts.flatten = .ok context.settingById := by
    rw [whole, ← (runTo_replays library request waiting cancelled work _ context found).settings]
    exact applyBatch_congr (edits.trans applied.symm) _
  -- what the panel leaves of the edit is a replay of its batches
  have untouched : EveryStep (step host) Unedited client.start (client.events ++ [.dispatch client.next]) :=
    everyStep_append.mpr ⟨unedited, trivial, trivial⟩
  have content := Panel.run_content host untouched
  rw [run_append] at content
  have final := holds_replay (holds_of_reported reported) room batches accepted
  have settled : Holds catalog (step host client.last (.dispatch client.next)).develop.content context.settingById := by
    have lasts : (step host client.last (.dispatch client.next)).develop.content = host.replay _ _ := content
    rw [lasts]
    exact final
  rw [WidgetCatalog.collectControls_darkroom, List.forall_mem_map]
  intro descriptor member
  obtain ⟨setting, lookup, mirrors⟩ := settled.mirrored descriptor member
  exact ⟨setting, lookup, mirrors.current⟩

end Turn

/-! The raising turn in a darkroom with one slider. -/

section Raised

def sliderHost : Host (Cells Unit) ℚ Unit where
  darkroom := exposureCatalog.darkroom
  historyEnd _ := 0
  historyCount _ := 0
  uuid := sampleUuid
  uuid_injective := sampleUuid_injective
  operationSummary _ := ""
  toolProgressMessage _ _ _ _ := none

def sliderStart : Panel (Cells Unit) ℚ := initialPanel samplePreferences exposureCells

def sliderEntered : Panel (Cells Unit) ℚ := step sliderHost sliderStart (.enter 1 exposureCells)

theorem sliderEntered_idle : sliderEntered.queue = [] := rfl

theorem sliderEntered_sent : (step sliderHost sliderEntered (.submit "brighten" .queued)).transfers =
    sliderEntered.transfers ++ [raisingTransfer] := rfl

theorem raisingTransfer_live : raisingTransfer.refinementMode = .multiTurn := rfl

theorem sliderEntered_reachable : Reachable (step sliderHost)
    (fun panel => ∃ configured content, panel = initialPanel configured content) sliderEntered :=
  ⟨sliderStart, ⟨samplePreferences, exposureCells, rfl⟩, [.enter 1 exposureCells], rfl⟩

def sliderSent : SentLive sliderHost where
  before := sliderEntered
  prompt := "brighten"
  outcome := .queued
  transfer := raisingTransfer
  reachable := sliderEntered_reachable
  idle := sliderEntered_idle
  sent := sliderEntered_sent
  live := raisingTransfer_live

def sliderEvents : List (Event (Cells Unit) ℚ) :=
  [.streamed (sampleUuid 2) streamedProgress, .dispatch .queued,
    .ended (sampleUuid 2) (.completed (raisedResponse raisedPlan.operations))]

theorem sliderEvents_alone : EveryStep (step sliderHost) (Alone raisingTransfer.submission.requestId
    (· ∈ raisingReceived.progress) (fun response => raisingReceived.result = { response := some response }))
    sliderSent.start sliderEvents := by
  obtain ⟨progress, result⟩ := raisingReceived_eq
  have sent : raisingReceived.progress = [streamedProgress, streamedCompletion] := progress
  refine ⟨⟨rfl, ?_⟩, ?_, ⟨rfl, _, result, rfl⟩, trivial⟩
  · rw [sent]
    exact List.mem_cons_self
  · have queue : (run (step sliderHost) sliderSent.start (sliderEvents.take 1)).queue =
        [.progress raisingTransfer.submission streamedProgress] := rfl
    exact alone_of_snapshot queue .queued

theorem sliderEvents_unedited : EveryStep (step sliderHost) Unedited sliderSent.start sliderEvents :=
  ⟨trivial, trivial, trivial, trivial⟩

theorem sliderEvents_queue : (run (step sliderHost) sliderSent.start sliderEvents).queue =
    .result sliderSent.transfer.submission raisingResult :: [] := rfl

theorem sliderEvents_ok : ∀ batch ∈ sliderSent.start.executedSince (step sliderHost
    (run (step sliderHost) sliderSent.start sliderEvents) (.dispatch .queued)), batch.ok := by
  decide +kernel

def sliderClient : LiveRun sliderHost (· ∈ raisingReceived.progress)
    (fun response => raisingReceived.result = { response := some response }) :=
  ⟨sliderSent, sliderEvents, raisingResult, [], .queued, sliderEvents_alone, sliderEvents_queue,
    rfl, .inl sliderEvents_unedited, sliderEvents_ok⟩

theorem TurnPhase.eq_planned {phase : TurnPhase} {threadId turnId : String} {plan : AgentPlan}
    (turn : phase.turn? = some (threadId, turnId)) (returned : phase.plan? = some plan) :
    phase = .planned threadId turnId plan := by
  cases phase with
  | planned =>
    cases turn
    cases returned
    rfl
  | running => cases returned
  | registered | threaded | answered | failed => cases turn

/-- The context of the raising turn when its plan is there. -/
theorem raisingTurn_context : ∃ context, (runTo plainToolLibrary raisingRequest [] .empty
    raisingTurn).bridge.turnContexts.get? ("thread-1", "codex-1") = some context ∧
      raisedPlan.operations.length = context.appliedOperations.length ∧
      (context.settingById.get? "setting.exposure").bind (·.currentNumber) = some 4 := by
  have known : ((runTo plainToolLibrary raisingRequest [] .empty raisingTurn).bridge.turnContexts.get?
      ("thread-1", "codex-1")).map (fun context => (context.appliedOperations.length,
        (context.settingById.get? "setting.exposure").bind (·.currentNumber))) = some (2, some 4) := by
    decide +kernel
  obtain ⟨context, found, holds⟩ := Option.map_eq_some_iff.mp known
  obtain ⟨count, current⟩ := Prod.mk.inj holds
  exact ⟨context, found, count.symm, current⟩

theorem settled_alike_raised :
    collectControls exposureCatalog.darkroom
      (step sliderHost sliderClient.last (.dispatch sliderClient.next)).develop.content ≠ [] ∧
    ∀ control ∈ collectControls exposureCatalog.darkroom
      (step sliderHost sliderClient.last (.dispatch sliderClient.next)).develop.content,
        ∃ setting : Setting, setting.currentNumber = some 4 ∧ SameCurrent control setting := by
  obtain ⟨context, found, simulated, current⟩ := raisingTurn_context
  have turn : (runTo plainToolLibrary raisingRequest [] .empty raisingTurn).phase.turn? =
      some ("thread-1", "codex-1") := rfl
  have past : ∀ moment ∈ [firstStep], moment <+: raisingTurn := by
    intro moment member
    rw [List.mem_singleton.mp member]
    exact List.prefix_append ..
  refine ⟨fun none => ?_, fun control shown => ?_⟩
  · have some : exposureCatalog.descriptors ≠ [] := by decide
    rw [WidgetCatalog.collectControls_darkroom] at none
    exact some (List.map_eq_nil_iff.mp none)
  obtain ⟨setting, lookup, same⟩ := settled_alike exposureCatalog sliderHost rfl
    (TurnPhase.eq_planned turn raisingTurn_planned) found simulated past raisingStream_fits raisingChatRequest_own
    (twoPieces_arrive _) sliderClient (by constructor <;> rfl) sliderEvents_unedited exposure_reported control
    shown
  have only : ∀ descriptor ∈ exposureCatalog.descriptors, descriptor.settingId = "setting.exposure" := by decide
  rw [WidgetCatalog.collectControls_darkroom] at shown
  obtain ⟨descriptor, member, rfl⟩ := List.mem_map.mp shown
  have held : context.settingById.get? descriptor.settingId = some setting := lookup
  rw [only descriptor member] at held
  rw [held] at current
  exact ⟨setting, current, same⟩

end Raised

end DarktableAgent.Live
