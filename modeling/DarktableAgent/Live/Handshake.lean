import DarktableAgent.Chat.Confinement
import DarktableAgent.Client.Invalidation
import DarktableAgent.Server.Operations

/-! The mid-turn render handshake.

The tool's thread stages an operation statement by statement and then waits for a
preview. Progress polls, the client's main loop, its preview pipe and the posts of
renders run beside it, each at its own pace. A preview is known by the number of
operations it shows.
-/

set_option autoImplicit false

namespace DarktableAgent.Live

open Foundation Protocol Client Chat Server

/-- What a progress poll shows of a running turn. -/
structure Snapshot where
  operations : Nat
  requiresRenderCallback : Bool
  deriving DecidableEq, Repr

/-- The statement behind which the tool's thread stands. -/
inductive Staging where
  | idle
  -- `_apply_live_operation_step`
  | appended
  | raised
  | cleared
  -- `_wait_for_live_render`
  | waiting
  | returned (arrived : Bool)
  | lowered (arrived : Bool)
  | taken (arrived : Bool) (preview : Option Nat)
  deriving DecidableEq, Repr

/-- What the handshake uses of a `TurnContext`. -/
structure LiveContext where
  appliedOperations : Nat
  requiresRenderCallback : Bool
  renderEvent : Bool
  renderedPreview : Option Nat
  deriving DecidableEq, Repr

inductive PipeStatus where
  | valid
  | dirty
  | running
  deriving DecidableEq, Repr

/-- The preview pipe: what its buffer shows, and what the job in progress was started with. -/
structure PreviewPipe where
  status : PipeStatus
  backbuf : Nat
  job : Option Nat
  deriving DecidableEq, Repr

/-- The pipe after an execution; it is invalidated only by an execution that changes a value. -/
def PreviewPipe.executed (pipe : PreviewPipe) (dirties : Bool) : PreviewPipe :=
  if dirties then { pipe with status := .dirty } else pipe

theorem PreviewPipe.executed_not_valid (pipe : PreviewPipe) {dirties : Bool}
    (leaves : pipe.status = .valid → dirties = true) : (pipe.executed dirties).status ≠ .valid := by
  unfold executed
  cases dirties with
  | true => exact nofun
  | false => exact fun valid => absurd (leaves valid) (by decide)

/-- What the handshake uses of the client. -/
structure LiveClient where
  liveAppliedCount : Nat
  pendingMidTurnRender : Bool
  pipe : PreviewPipe
  deriving DecidableEq, Repr

/-- The turn on both sides and what is on its way between them: a poll that has copied the operations but not read
the flag, the snapshots, the posted previews, and the callbacks that have stored theirs. -/
structure Handshake where
  staging : Staging
  context : LiveContext
  poll : Option Nat
  snapshots : List Snapshot
  client : LiveClient
  posted : List Nat
  signalling : Nat
  accepted : List (Nat × Nat)
  deriving DecidableEq, Repr

inductive HandshakeEvent where
  | serve
  | timesOut
  | pollReads
  | pollReturns
  | takes (visible dirties : Bool)
  | startsJob
  | finishesJob
  | uiPipeFinished (collected : Bool)
  | stores (preview : Nat)
  | signals
  deriving DecidableEq, Repr

/-- The part of `_agent_chat_progress_finished` about live edits, for what the execution does to the pipe. -/
def LiveClient.progressFinished (client : LiveClient) (visible dirties : Bool) (snapshot : Snapshot) : LiveClient :=
  if visible ∧ client.liveAppliedCount < snapshot.operations then
    { liveAppliedCount := snapshot.operations
      pendingMidTurnRender := client.pendingMidTurnRender || snapshot.requiresRenderCallback
      pipe := client.pipe.executed dirties }
  else client

namespace Handshake

variable (state : Handshake)

/-- The tool's thread goes on by one statement. -/
def serve : Handshake :=
  match state.staging with
  | .idle => { state with
      staging := .appended
      context := { state.context with appliedOperations := state.context.appliedOperations + 1 } }
  | .appended => { state with staging := .raised, context := { state.context with requiresRenderCallback := true } }
  | .raised => { state with staging := .cleared, context := { state.context with renderEvent := false } }
  | .cleared => { state with staging := .waiting, context := { state.context with renderedPreview := none } }
  | .waiting => if state.context.renderEvent then { state with staging := .returned true } else state
  | .returned arrived => { state with
      staging := .lowered arrived
      context := { state.context with requiresRenderCallback := false } }
  | .lowered arrived => { state with staging := .taken arrived state.context.renderedPreview }
  | .taken arrived preview => { state with
      staging := .idle
      context := { state.context with renderedPreview := none }
      accepted := match arrived, preview with
        | true, some preview => state.accepted ++ [(state.context.appliedOperations, preview)]
        | _, _ => state.accepted }

/-- Fifteen seconds have passed. -/
def timesOut : Handshake :=
  if state.staging = .waiting ∧ state.context.renderEvent = false then { state with staging := .returned false }
  else state

/-- The first half of `get_request_progress`: the operations are copied. -/
def pollReads : Handshake := { state with poll := some state.context.appliedOperations }

/-- The second half: the flag is read, and the client gets both. -/
def pollReturns : Handshake :=
  match state.poll with
  | none => state
  | some operations => { state with
      poll := none
      snapshots := state.snapshots ++ [⟨operations, state.context.requiresRenderCallback⟩] }

/-- The next snapshot reaches the panel. -/
def takes (visible dirties : Bool) : Handshake :=
  match state.snapshots with
  | [] => state
  | snapshot :: rest => { state with
      snapshots := rest
      client := state.client.progressFinished visible dirties snapshot }

/-- A preview job picks up the edit as it is. -/
def startsJob : Handshake :=
  match state.client.pipe.job with
  | some _ => state
  | none => { state with client := { state.client with pipe := { state.client.pipe with
      status := .running
      job := some state.client.liveAppliedCount } } }

/-- The job leaves a valid pipe, also when the edit has changed since it was started. -/
def finishesJob : Handshake :=
  match state.client.pipe.job with
  | none => state
  | some shown => { state with client := { state.client with pipe := ⟨.valid, shown, none⟩ } }

/-- `_darkroom_ui_pipe_finish_signal_callback`. Collecting the preview may fail. -/
def uiPipeFinished (collected : Bool) : Handshake :=
  if state.client.pipe.status = .valid ∧ state.client.pendingMidTurnRender then
    { state with
      client := { state.client with pendingMidTurnRender := false }
      posted := if collected then state.posted ++ [state.client.pipe.backbuf] else state.posted }
  else state

/-- The first half of `provide_render_callback`: the bytes are stored. -/
def stores (preview : Nat) : Handshake :=
  if preview ∈ state.posted then
    { state with
      posted := state.posted.erase preview
      signalling := state.signalling + 1
      context := { state.context with renderedPreview := some preview } }
  else state

/-- The second half: the event is set. -/
def signals : Handshake :=
  match state.signalling with
  | 0 => state
  | others + 1 => { state with signalling := others, context := { state.context with renderEvent := true } }

def step (state : Handshake) : HandshakeEvent → Handshake
  | .serve => state.serve
  | .timesOut => state.timesOut
  | .pollReads => state.pollReads
  | .pollReturns => state.pollReturns
  | .takes visible dirties => state.takes visible dirties
  | .startsJob => state.startsJob
  | .finishesJob => state.finishesJob
  | .uiPipeFinished collected => state.uiPipeFinished collected
  | .stores preview => state.stores preview
  | .signals => state.signals

/-- A turn without edits, and a pipe that has not run. -/
def beginning : Handshake where
  staging := .idle
  context := ⟨0, false, false, none⟩
  poll := none
  snapshots := []
  client := ⟨0, false, ⟨.dirty, 0, none⟩⟩
  posted := []
  signalling := 0
  accepted := []

end Handshake

/-! The statements of the tool's thread, taken together, are the functions of the tool; the client's part is that of
the panel. -/

section Server

/-- The handshake's view of a context, for what each preview shows. -/
def LiveContext.ofTurn (shows : Bytes → Nat) (renderEvent : Bool) (context : TurnContext) : LiveContext where
  appliedOperations := context.appliedOperations.length
  requiresRenderCallback := context.requiresRenderCallback
  renderEvent := renderEvent
  renderedPreview := context.renderedPreviewBytes.map shows

variable {shows : Bytes → Nat} {renderEvent : Bool} {context : TurnContext} {state : Handshake}

/-- `_apply_live_operation_step` -/
theorem serve_applyLiveOperationStep {operation : OperationDict} {staged : TurnContext}
    (applied : applyLiveOperationStep context operation = .ok staged) (idle : state.staging = .idle)
    (same : state.context = .ofTurn shows renderEvent context) :
    state.serve.serve.serve.serve =
      { state with staging := .waiting, context := .ofTurn shows false staged } := by
  unfold applyLiveOperationStep at applied
  cases settings : applyOperationToSettings context.settingById operation with
  | error text => rw [settings] at applied; cases applied
  | ok result =>
    rw [settings] at applied
    obtain rfl := Except.ok.inj applied
    obtain ⟨staging, view, poll, snapshots, client, posted, signalling, accepted⟩ := state
    obtain rfl : staging = .idle := idle
    obtain rfl : view = .ofTurn shows renderEvent context := same
    simp [Handshake.serve, LiveContext.ofTurn]

/-- `_wait_for_live_render`, when a callback has come in. -/
theorem serve_waitForLiveRender (library : ToolLibrary) {bytes : Bytes} (present : bytes ≠ [])
    (waiting : state.staging = .waiting)
    (same : state.context = .ofTurn shows true { context with renderedPreviewBytes := some bytes }) :
    state.serve.serve.serve.serve = { state with
        staging := .idle
        context := .ofTurn shows true (waitForLiveRender library context (some bytes)).1
        accepted := state.accepted ++ [(context.appliedOperations.length, shows bytes)] } ∧
      (waitForLiveRender library context (some bytes)).1.currentPreviewBytes = bytes := by
  obtain ⟨staging, view, poll, snapshots, client, posted, signalling, accepted⟩ := state
  obtain rfl : staging = .waiting := waiting
  obtain rfl : view = _ := same
  have delivered : (some bytes).filter (· ≠ []) = some bytes := by simp [present]
  unfold waitForLiveRender
  rw [delivered]
  simp [Handshake.serve, LiveContext.ofTurn, buildLiveVerifierFeedback, TurnContext.showRender,
    TurnContext.renderReceived]

/-- `_wait_for_live_render`, when the wait times out. -/
theorem timesOut_waitForLiveRender (library : ToolLibrary) (waiting : state.staging = .waiting)
    (same : state.context = .ofTurn shows false context) :
    state.timesOut.serve.serve.serve = { state with
      staging := .idle
      context := .ofTurn shows false (waitForLiveRender library context none).1 } := by
  obtain ⟨staging, view, poll, snapshots, client, posted, signalling, accepted⟩ := state
  obtain rfl : staging = .waiting := waiting
  obtain rfl : view = _ := same
  simp [Handshake.timesOut, Handshake.serve, LiveContext.ofTurn, waitForLiveRender, TurnContext.renderReceived]

end Server

section Client

/-- The session that the panel shows waits for the preview pipe. -/
def renderArmed (chat : AgentChat) : Bool :=
  (chat.imageSessions.get? chat.currentImageId).any (·.pendingMidTurnRender)

theorem renderArmed_syncCurrentSession (chat : AgentChat) : renderArmed chat.syncCurrentSession = renderArmed chat := by
  unfold AgentChat.syncCurrentSession renderArmed
  dsimp only
  split
  · rw [get?_changeEntry, if_pos rfl]
    cases chat.imageSessions.get? chat.currentImageId <;> rfl
  · rfl

variable {κ ν W : Type} (host : Host κ ν W) (panel : Panel κ ν) (progress : ClientProgress ν)

theorem renderArmed_announceToolCall (before : ActiveRequest) :
    renderArmed (panel.announceToolCall host progress before).chat = renderArmed panel.chat ∧
      (panel.announceToolCall host progress before).chat.active = panel.chat.active := by
  unfold Panel.announceToolCall Panel.onChat
  dsimp only
  split
  · exact ⟨rfl, rfl⟩
  · split
    · split
      · exact ⟨rfl, rfl⟩
      · exact ⟨renderArmed_syncCurrentSession _, rfl⟩
    · exact ⟨rfl, rfl⟩

theorem renderArmed_showRefinement : renderArmed panel.showRefinement.chat = renderArmed panel.chat ∧
    panel.showRefinement.chat.active.liveAppliedCount = panel.chat.active.liveAppliedCount :=
  ⟨renderArmed_syncCurrentSession _, rfl⟩

theorem renderArmed_armRender (stored : (panel.chat.imageSessions.get? panel.chat.currentImageId).isSome = true) :
    renderArmed (panel.armRender progress).chat = (renderArmed panel.chat || progress.requiresRenderCallback) ∧
      (panel.armRender progress).chat.active = panel.chat.active := by
  unfold Panel.armRender
  split_ifs with asks
  · refine ⟨?_, rfl⟩
    rw [asks, Bool.or_true]
    change ((changeEntry panel.chat.imageSessions panel.chat.currentImageId _).get? panel.chat.currentImageId).any _ = true
    rw [get?_changeEntry, if_pos rfl]
    obtain ⟨session, found⟩ := Option.isSome_iff_exists.mp stored
    rw [found]
    rfl
  · rw [Bool.eq_false_iff.mpr asks, Bool.or_false]
    exact ⟨rfl, rfl⟩

/-- The handshake's view of the panel. -/
def LiveClient.ofPanel (pipe : PreviewPipe) (panel : Panel κ ν) : LiveClient where
  liveAppliedCount := panel.chat.active.liveAppliedCount
  pendingMidTurnRender := renderArmed panel.chat
  pipe := pipe

/-- The execution of a snapshot's pending operations invalidates the pipe. -/
def progressDirties [Numeric ν] (invalidation : Invalidation κ ν) : Bool :=
  (panel.pendingOperations progress).any
    (invalidation.responseDirties { host.darkroom with isCurrentView := fun _ => panel.develop.visible }
      panel.develop.content)

/-- `_agent_chat_progress_finished`, for a snapshot that the panel takes and whose operations can be applied. -/
theorem ofPanel_progressFinished [Numeric ν] (invalidation : Invalidation κ ν) (pipe : PreviewPipe)
    (origin : ChatSubmission) {response : ChatResponse ν}
    (taken : panel.takes progress = true)
    (stored : (panel.chat.imageSessions.get? panel.chat.currentImageId).isSome = true)
    (shown : progress.response = some response)
    (applies : ∀ operations, panel.pendingOperations progress = some operations →
      ((panel.countToolCalls progress).execution host operations).ok = true) :
    LiveClient.ofPanel (pipe.executed (progressDirties host panel progress invalidation))
        (panel.progressFinished host origin progress) =
      (LiveClient.ofPanel pipe panel).progressFinished panel.develop.visible
        (progressDirties host panel progress invalidation)
        ⟨response.operations.length, progress.requiresRenderCallback⟩ := by
  simp only [Panel.takes, Bool.and_eq_true, Bool.not_eq_true'] at taken
  obtain ⟨⟨heeded, heard⟩, found⟩ := taken
  have pending : panel.pendingOperations progress =
      if panel.develop.visible ∧ panel.chat.active.liveAppliedCount < response.operations.length then
        some (response.operations.drop panel.chat.active.liveAppliedCount) else none := by
    unfold Panel.pendingOperations
    rw [shown]
  have entered : ¬ (panel.chat.ignoresProgress = true ∨ passedOver progress = true) := by simp [heeded, heard]
  have known : ¬ ¬ progress.found = true := not_not.mpr found
  unfold Panel.progressFinished
  rw [if_neg entered, if_neg known]
  dsimp only
  by_cases executes : panel.develop.visible = true ∧ panel.chat.active.liveAppliedCount < response.operations.length
  · rw [if_pos executes] at pending
    have ok := applies _ pending
    have client : ∀ dirties, (LiveClient.ofPanel pipe panel).progressFinished panel.develop.visible dirties
        ⟨response.operations.length, progress.requiresRenderCallback⟩ =
          ⟨response.operations.length, renderArmed panel.chat || progress.requiresRenderCallback,
            pipe.executed dirties⟩ := fun _ => if_pos executes
    have armed := renderArmed_armRender (((panel.countToolCalls progress).afterExecution host origin
      (response.operations.drop panel.chat.active.liveAppliedCount)).countLiveEdits progress) progress stored
    rw [client, pending]
    dsimp only
    rw [if_pos ok]
    unfold LiveClient.ofPanel
    rw [(renderArmed_showRefinement _).1, (renderArmed_showRefinement _).2, (renderArmed_announceToolCall ..).1,
      (renderArmed_announceToolCall ..).2, armed.1, armed.2]
    have counted : liveEditCount progress = response.operations.length := by
      unfold liveEditCount
      rw [shown]
    rw [← counted]
    rfl
  · rw [if_neg executes] at pending
    have client : ∀ dirties, (LiveClient.ofPanel pipe panel).progressFinished panel.develop.visible dirties
        ⟨response.operations.length, progress.requiresRenderCallback⟩ = LiveClient.ofPanel pipe panel :=
      fun _ => if_neg executes
    have still : progressDirties host panel progress invalidation = false := by
      unfold progressDirties
      rw [pending]
      rfl
    rw [client, pending, still]
    dsimp only
    unfold LiveClient.ofPanel
    rw [(renderArmed_showRefinement _).1, (renderArmed_showRefinement _).2, (renderArmed_announceToolCall ..).1,
      (renderArmed_announceToolCall ..).2]
    rfl

end Client

end DarktableAgent.Live
