import DarktableAgent.Server.Exchange

/-! The app-server that all conversations share, and one request on its way to a turn.

The request waits for the lock of the bridge, checks whether it was cancelled, starts the
app-server if it has to, resumes or starts its thread and asks for its turn. What the other
requests do while it waits is left to the environment, as are the process and its answers.
-/

set_option autoImplicit false

namespace DarktableAgent.Server

open Foundation Protocol

inductive ProcessState where
  | absent
  | running
  | exited
  deriving DecidableEq, Repr

/-- The process of the bridge, with what is remembered for each conversation. -/
structure AppServer where
  process : ProcessState
  initialized : Bool
  nextRequestId : Nat
  conversationThreads : Dict String String
  conversationTurnCounts : Dict String Nat
  conversationHistories : Dict String (List String)

namespace AppServer

variable (server : AppServer)

def clearConversations : AppServer :=
  { server with
    initialized := false
    nextRequestId := 1
    conversationThreads := .empty
    conversationTurnCounts := .empty
    conversationHistories := .empty }

/-- `_reset_process_locked` -/
def resetProcess : AppServer := { server.clearConversations with process := .absent }

/-- `_start_process_locked` -/
def startProcess : AppServer := { server.clearConversations with process := .running }

/-- The sending half of `_send_request_locked`: the number of the request, unless it raises. -/
def sendRequest (written : Bool) : AppServer × Option Nat :=
  if server.process = .absent then ({ server with nextRequestId := server.nextRequestId + 1 }, none)
  else if written then ({ server with nextRequestId := server.nextRequestId + 1 }, some server.nextRequestId)
  else (server.resetProcess, none)

/-- The thread that a request of the conversation goes on with. -/
def existingThread (conversationId : String) : Option String :=
  (server.conversationThreads.get? conversationId).filter (· ≠ "")

end AppServer

/-- How far `plan` is on its way to a turn. -/
inductive PlanPhase where
  -- waits for the lock
  | queued
  | locked
  | initializing (rpcId : Nat)
  | initialized
  | startingThread (rpcId : Nat)
  | threaded (threadId : String)
  | startingTurn (threadId : String) (rpcId : Nat)
  | started (threadId turnId : String)
  | cancelled
  | failed
  deriving DecidableEq, Repr

structure PlanRun where
  server : AppServer
  -- the request has been cancelled
  cancelEvent : Bool
  phase : PlanPhase

inductive PlanEvent where
  -- the other requests and the process
  | others (server : AppServer)
  | cancelRequested
  | processExits
  -- the request itself, up to its next checkpoint or wait
  | lockTaken
  | proceed (launched written : Bool)
  | response (message : JsonObject) (written : Bool)
  | nothingRead
  | raised

namespace PlanRun

variable (run : PlanRun)

/-- `_raise_if_cancelled_locked`, and what comes after it. -/
def checkpoint (next : PlanRun → PlanRun) : PlanRun :=
  if run.cancelEvent then { run with server := run.server.resetProcess, phase := .cancelled } else next run

def fail : PlanRun := { run with phase := .failed }

def send (written : Bool) (wait : Nat → PlanPhase) : PlanRun :=
  let (server, rpcId) := run.server.sendRequest written
  { run with server := server, phase := rpcId.elim .failed wait }

/-- `_ensure_initialized_locked` up to the wait for the response -/
def ensureInitialized (launched written : Bool) : PlanRun :=
  if run.server.process = .running then
    if run.server.initialized then { run with phase := .initialized } else run.send written .initializing
  else if launched then { run with server := run.server.startProcess }.send written .initializing
  -- a process that has exited is reset before the launch fails
  else { run with server := if run.server.process = ProcessState.exited then run.server.resetProcess else run.server }.fail

/-- `_get_or_create_thread_locked` up to the wait for the response -/
def getOrCreateThread (conversationId : String) (written : Bool) : PlanRun :=
  match run.server.existingThread conversationId with
  | some threadId => { run with phase := .threaded threadId }
  | none => run.send written .startingThread

/-- `_run_turn_locked` up to the wait for the response -/
def runTurn (conversationId threadId : String) (written : Bool) : PlanRun :=
  let turnIndex := (run.server.conversationTurnCounts.get? conversationId).getD 0 + 1
  let counts := run.server.conversationTurnCounts.set conversationId turnIndex
  { run with server := { run.server with conversationTurnCounts := counts } }.send written (.startingTurn threadId)

/-- The process is asked for when there was nothing to read. -/
def poll : PlanRun :=
  if run.server.process = .exited then { run with server := run.server.resetProcess, phase := .failed } else run

end PlanRun

def answersRequest (rpcId : Nat) (message : JsonObject) : Bool :=
  isRpcId rpcId (message.lookup "id") && (message.lookup "method").isNone

def startedThreadId (message : JsonObject) : Option String :=
  if (message.lookup "error").isSome then none
  else
    match (objectAt (objectAt message "result") "thread").lookup "id" with
    | some (.str threadId) => some threadId
    | _ => none

section Plan

variable (conversationId : String)

/-- The response to the request that the run waits for; other messages leave the conversations alone. -/
def PlanRun.receive (run : PlanRun) (message : JsonObject) (written : Bool) : PlanRun :=
  match run.phase with
  | .initializing rpcId =>
    if answersRequest rpcId message then
      if (message.lookup "error").isSome || (message.lookup "result").isNone then run.fail
      -- the notification that closes the handshake
      else if written then { run with server := { run.server with initialized := true }, phase := .initialized }
      else { run with server := run.server.resetProcess, phase := .failed }
    else run
  | .startingThread rpcId =>
    if answersRequest rpcId message then
      match startedThreadId message with
      | none => run.fail
      | some threadId =>
        let threads := run.server.conversationThreads.set conversationId threadId
        { run with server := { run.server with conversationThreads := threads }, phase := .threaded threadId }
    else run
  | .startingTurn threadId rpcId =>
    if answersRequest rpcId message then
      match startedTurnId message with
      | none => run.fail
      | some turnId => { run with phase := .started threadId turnId }
    else run
  | _ => run

/-- One step of `plan`, or of its environment. -/
def planStep (run : PlanRun) : PlanEvent → PlanRun
  | .others server => if run.phase = .queued then { run with server := server } else run
  | .cancelRequested => { run with cancelEvent := true }
  | .processExits =>
    if run.server.process = .running then { run with server := { run.server with process := .exited } } else run
  | .lockTaken => if run.phase = .queued then { run with phase := .locked } else run
  | .proceed launched written =>
    match run.phase with
    | .locked => run.checkpoint (·.ensureInitialized launched written)
    | .initialized => run.checkpoint (·.getOrCreateThread conversationId written)
    | .threaded threadId => run.runTurn conversationId threadId written
    | .startingTurn _ _ => run.checkpoint id
    | _ => run
  | .response message written => run.receive conversationId message written
  | .nothingRead =>
    match run.phase with
    | .initializing _ | .startingThread _ => run.poll
    | .startingTurn _ _ => run.checkpoint PlanRun.poll
    | _ => run
  | .raised =>
    match run.phase with
    | .queued | .started _ _ | .cancelled => run
    | _ => run.fail

end Plan

section Teardown

variable {conversationId : String}

structure Cleared (server : AppServer) : Prop where
  threads : server.conversationThreads = .empty
  turnCounts : server.conversationTurnCounts = .empty
  histories : server.conversationHistories = .empty

theorem AppServer.resetProcess_cleared (server : AppServer) : Cleared server.resetProcess := ⟨rfl, rfl, rfl⟩

theorem Cleared.existingThread {server : AppServer} (cleared : Cleared server) (other : String) :
    server.existingThread other = none := by
  rw [AppServer.existingThread, cleared.threads]
  rfl

/-- The entries of all other conversations are as they were. -/
structure KeepsOthers (conversationId : String) (before after : AppServer) : Prop where
  threads : ∀ other, other ≠ conversationId → after.conversationThreads.get? other = before.conversationThreads.get? other
  turnCounts : ∀ other, other ≠ conversationId →
    after.conversationTurnCounts.get? other = before.conversationTurnCounts.get? other
  histories : ∀ other, other ≠ conversationId →
    after.conversationHistories.get? other = before.conversationHistories.get? other

theorem KeepsOthers.refl (server : AppServer) : KeepsOthers conversationId server server :=
  ⟨fun _ _ => rfl, fun _ _ => rfl, fun _ _ => rfl⟩

theorem KeepsOthers.trans {first second third : AppServer} (earlier : KeepsOthers conversationId first second)
    (later : KeepsOthers conversationId second third) : KeepsOthers conversationId first third where
  threads other different := (later.threads other different).trans (earlier.threads other different)
  turnCounts other different := (later.turnCounts other different).trans (earlier.turnCounts other different)
  histories other different := (later.histories other different).trans (earlier.histories other different)

/-- The app-server fails the run: it is not running, or what is written to it does not arrive. -/
def AppServerDown (run : PlanRun) : PlanEvent → Prop
  | .proceed _ written => run.server.process ≠ .running ∨ written = false
  | .response _ written => written = false
  | .nothingRead => run.server.process ≠ .running
  | .others _ | .cancelRequested | .processExits | .lockTaken | .raised => False

/-- What a step of the run can be. -/
inductive Moves (conversationId : String) (run : PlanRun) (event : PlanEvent) (after : PlanRun) : Prop where
  | waited (queued : run.phase = .queued) (going : after.phase ≠ .cancelled)
  | stood (phase : after.phase = run.phase) (threads : after.server.conversationThreads = run.server.conversationThreads)
      (turnCounts : after.server.conversationTurnCounts = run.server.conversationTurnCounts)
      (histories : after.server.conversationHistories = run.server.conversationHistories)
  | advanced (waits : after.phase ≠ .queued) (going : after.phase ≠ .cancelled)
      (keeps : KeepsOthers conversationId run.server after.server)
  | failed (down : AppServerDown run event) (waits : after.phase ≠ .queued) (going : after.phase ≠ .cancelled)
  | cancelled (phase : after.phase = .cancelled) (server : after.server = run.server.resetProcess)

theorem Moves.refl (run : PlanRun) (event : PlanEvent) : Moves conversationId run event run := .stood rfl rfl rfl rfl

theorem PlanRun.checkpoint_moves {run : PlanRun} {event : PlanEvent} {next : PlanRun → PlanRun}
    (goesOn : Moves conversationId run event (next run)) : Moves conversationId run event (run.checkpoint next) := by
  unfold checkpoint
  split_ifs
  · exact .cancelled rfl rfl
  · exact goesOn

/-- The phases in which a request waits for a response. -/
def Waits (wait : Nat → PlanPhase) : Prop := ∀ rpcId, wait rpcId ≠ .queued ∧ wait rpcId ≠ .cancelled

theorem PlanRun.send_phase (run : PlanRun) (written : Bool) {wait : Nat → PlanPhase} (waits : Waits wait) :
    (run.send written wait).phase ≠ .queued ∧ (run.send written wait).phase ≠ .cancelled := by
  unfold send
  dsimp only
  cases (run.server.sendRequest written).2 with
  | none => exact ⟨PlanPhase.noConfusion, PlanPhase.noConfusion⟩
  | some rpcId => exact waits rpcId

/-- A request that is written leaves the conversations as they are. -/
theorem PlanRun.send_keeps (run : PlanRun) (wait : Nat → PlanPhase) :
    KeepsOthers conversationId run.server (run.send true wait).server := by
  unfold send AppServer.sendRequest
  rw [if_pos rfl]
  split_ifs <;> exact ⟨fun _ _ => rfl, fun _ _ => rfl, fun _ _ => rfl⟩

theorem PlanRun.send_moves {run sending : PlanRun} {launched written : Bool} {wait : Nat → PlanPhase}
    (waits : Waits wait) (keeps : KeepsOthers conversationId run.server sending.server) :
    Moves conversationId run (.proceed launched written) (sending.send written wait) := by
  obtain ⟨going, notCancelled⟩ := sending.send_phase written waits
  cases written with
  | true => exact .advanced going notCancelled (keeps.trans (sending.send_keeps wait))
  | false => exact .failed (.inr rfl) going notCancelled

theorem PlanRun.ensureInitialized_moves (run : PlanRun) (launched written : Bool) :
    Moves conversationId run (.proceed launched written) (run.ensureInitialized launched written) := by
  have waits : Waits .initializing := fun _ => ⟨PlanPhase.noConfusion, PlanPhase.noConfusion⟩
  unfold ensureInitialized
  split_ifs with running ready launches exited
  · exact .advanced PlanPhase.noConfusion PlanPhase.noConfusion (.refl _)
  · exact send_moves waits (.refl _)
  · obtain ⟨going, notCancelled⟩ := ({ run with server := run.server.startProcess } : PlanRun).send_phase written waits
    exact .failed (.inl running) going notCancelled
  · exact .failed (.inl running) PlanPhase.noConfusion PlanPhase.noConfusion
  · exact .failed (.inl running) PlanPhase.noConfusion PlanPhase.noConfusion

theorem PlanRun.getOrCreateThread_moves (run : PlanRun) (launched written : Bool) :
    Moves conversationId run (.proceed launched written) (run.getOrCreateThread conversationId written) := by
  unfold getOrCreateThread
  cases run.server.existingThread conversationId with
  | some threadId => exact .advanced PlanPhase.noConfusion PlanPhase.noConfusion (.refl _)
  | none => exact send_moves (fun _ => ⟨PlanPhase.noConfusion, PlanPhase.noConfusion⟩) (.refl _)

theorem PlanRun.runTurn_moves (run : PlanRun) (threadId : String) (launched written : Bool) :
    Moves conversationId run (.proceed launched written) (run.runTurn conversationId threadId written) := by
  unfold runTurn
  refine send_moves (fun _ => ⟨PlanPhase.noConfusion, PlanPhase.noConfusion⟩) ⟨fun _ _ => rfl, ?_, fun _ _ => rfl⟩
  intro other different
  exact Dict.get?_set_ne different

theorem PlanRun.poll_moves (run : PlanRun) : Moves conversationId run .nothingRead run.poll := by
  unfold poll
  split_ifs with exited
  · exact .failed (by rw [AppServerDown, exited]; decide) PlanPhase.noConfusion PlanPhase.noConfusion
  · exact .refl _ _

theorem PlanRun.receive_moves (run : PlanRun) (message : JsonObject) (written : Bool) :
    Moves conversationId run (.response message written) (run.receive conversationId message written) := by
  have failing : Moves conversationId run (.response message written) run.fail :=
    .advanced PlanPhase.noConfusion PlanPhase.noConfusion (.refl _)
  unfold receive
  split
  · split_ifs with answers error writes
    · exact failing
    · exact .advanced PlanPhase.noConfusion PlanPhase.noConfusion ⟨fun _ _ => rfl, fun _ _ => rfl, fun _ _ => rfl⟩
    · exact .failed (Bool.eq_false_iff.mpr writes) PlanPhase.noConfusion PlanPhase.noConfusion
    · exact .refl _ _
  · split_ifs
    · cases startedThreadId message with
      | none => exact failing
      | some threadId =>
        refine .advanced PlanPhase.noConfusion PlanPhase.noConfusion ⟨?_, fun _ _ => rfl, fun _ _ => rfl⟩
        intro other different
        exact Dict.get?_set_ne different
    · exact .refl _ _
  · split_ifs
    · cases startedTurnId message with
      | none => exact failing
      | some turnId => exact .advanced PlanPhase.noConfusion PlanPhase.noConfusion (.refl _)
    · exact .refl _ _
  · exact .refl _ _

theorem planStep_moves (conversationId : String) (run : PlanRun) (event : PlanEvent) :
    Moves conversationId run event (planStep conversationId run event) := by
  cases event with
  | others server =>
    unfold planStep
    dsimp only
    split_ifs with queued
    · exact .waited queued (by rw [queued]; exact PlanPhase.noConfusion)
    · exact .refl _ _
  | cancelRequested => exact .stood rfl rfl rfl rfl
  | processExits =>
    unfold planStep
    dsimp only
    split_ifs
    · exact .stood rfl rfl rfl rfl
    · exact .refl _ _
  | lockTaken =>
    unfold planStep
    dsimp only
    split_ifs with queued
    · exact .waited queued PlanPhase.noConfusion
    · exact .refl _ _
  | proceed launched written =>
    unfold planStep
    dsimp only
    split
    · exact PlanRun.checkpoint_moves (run.ensureInitialized_moves launched written)
    · exact PlanRun.checkpoint_moves (run.getOrCreateThread_moves launched written)
    · exact run.runTurn_moves _ launched written
    · exact PlanRun.checkpoint_moves (.refl _ _)
    · exact .refl _ _
  | response message written => exact run.receive_moves message written
  | nothingRead =>
    unfold planStep
    dsimp only
    split
    · exact run.poll_moves
    · exact run.poll_moves
    · exact PlanRun.checkpoint_moves run.poll_moves
    · exact .refl _ _
  | raised =>
    unfold planStep
    dsimp only
    split
    · exact .refl _ _
    · exact .refl _ _
    · exact .refl _ _
    · exact .advanced PlanPhase.noConfusion PlanPhase.noConfusion (.refl _)

/-- A run that is cancelled leaves nothing of any conversation. -/
theorem planStep_cleared {run : PlanRun} (cleared : run.phase = .cancelled → Cleared run.server) (event : PlanEvent)
    (cancelled : (planStep conversationId run event).phase = .cancelled) :
    Cleared (planStep conversationId run event).server := by
  cases planStep_moves conversationId run event with
  | waited queued going => exact absurd cancelled going
  | stood phase threads turnCounts histories =>
    obtain ⟨noThreads, noCounts, noHistories⟩ := cleared (phase ▸ cancelled)
    exact ⟨threads.trans noThreads, turnCounts.trans noCounts, histories.trans noHistories⟩
  | advanced waits going keeps => exact absurd cancelled going
  | failed down waits going => exact absurd cancelled going
  | cancelled phase server =>
    rw [server]
    exact run.server.resetProcess_cleared

/-- While the app-server is up, a step of a run that holds the lock keeps the other conversations. -/
theorem planStep_keeps {run : PlanRun} {event : PlanEvent} (holds : run.phase ≠ .queued) (up : ¬ AppServerDown run event)
    (going : (planStep conversationId run event).phase ≠ .cancelled) :
    (planStep conversationId run event).phase ≠ .queued ∧
      KeepsOthers conversationId run.server (planStep conversationId run event).server := by
  cases planStep_moves conversationId run event with
  | waited queued => exact absurd queued holds
  | stood phase threads turnCounts histories =>
    rw [phase]
    refine ⟨holds, ?_, ?_, ?_⟩
    · rw [threads]; exact fun _ _ => rfl
    · rw [turnCounts]; exact fun _ _ => rfl
    · rw [histories]; exact fun _ _ => rfl
  | advanced waits notCancelled keeps => exact ⟨waits, keeps⟩
  | failed down => exact absurd down up
  | cancelled phase => exact absurd phase going

theorem planStep_over {run : PlanRun} (isOver : run.phase = .cancelled) (event : PlanEvent) :
    (planStep conversationId run event).phase = .cancelled := by
  cases event with
  | others server => simp [planStep, isOver]
  | cancelRequested => exact isOver
  | processExits =>
    unfold planStep
    dsimp only
    split_ifs <;> exact isOver
  | lockTaken => simp [planStep, isOver]
  | proceed launched written => simp [planStep, isOver]
  | response message written => simp [planStep, PlanRun.receive, isOver]
  | nothingRead => simp [planStep, isOver]
  | raised => simp [planStep, isOver]

theorem run_over {start : PlanRun} (isOver : start.phase = .cancelled) (events : List PlanEvent) :
    (run (planStep conversationId) start events).phase = .cancelled := by
  induction events generalizing start with
  | nil => exact isOver
  | cons event rest ih => exact ih (planStep_over isOver event)

theorem run_cleared {start : PlanRun} (cleared : start.phase = .cancelled → Cleared start.server)
    (events : List PlanEvent) (cancelled : (run (planStep conversationId) start events).phase = .cancelled) :
    Cleared (run (planStep conversationId) start events).server := by
  induction events generalizing start with
  | nil => exact cleared cancelled
  | cons event rest ih => exact ih (planStep_cleared cleared event) cancelled

theorem run_keeps {start : PlanRun} {events : List PlanEvent} (holds : start.phase ≠ .queued)
    (up : EveryStep (planStep conversationId) (fun run event => ¬ AppServerDown run event) start events)
    (going : (run (planStep conversationId) start events).phase ≠ .cancelled) :
    KeepsOthers conversationId start.server (run (planStep conversationId) start events).server := by
  induction events generalizing start with
  | nil => exact .refl _
  | cons event rest ih =>
    -- a run that was cancelled on the way would have stayed so
    have stepGoing : (planStep conversationId start event).phase ≠ .cancelled := fun isOver => going (run_over isOver rest)
    obtain ⟨stillHolds, kept⟩ := planStep_keeps holds up.1 stepGoing
    exact kept.trans (ih stillHolds up.2 going)

/-- A request that is cancelled before its turn takes the app-server down for all conversations;
until then it leaves the others alone. -/
theorem cancelled_beforeTurn (conversationId : String) (start : PlanRun) (events : List PlanEvent) :
    (start.phase ≠ .cancelled → (run (planStep conversationId) start events).phase = .cancelled →
      Cleared (run (planStep conversationId) start events).server ∧
        ∀ other, (run (planStep conversationId) start events).server.existingThread other = none) ∧
    (start.phase ≠ .queued →
      EveryStep (planStep conversationId) (fun run event => ¬ AppServerDown run event) start events →
      (run (planStep conversationId) start events).phase ≠ .cancelled →
      KeepsOthers conversationId start.server (run (planStep conversationId) start events).server) := by
  refine ⟨fun going cancelled => ?_, run_keeps⟩
  have cleared := run_cleared (fun isOver => absurd isOver going) events cancelled
  exact ⟨cleared, cleared.existingThread⟩

/-! Two conversations; the second is cancelled while the first has the lock. -/

def servedFirst : AppServer where
  process := .running
  initialized := true
  nextRequestId := 4
  conversationThreads := Dict.empty.set "conv-1" "thread-1"
  conversationTurnCounts := Dict.empty.set "conv-1" 1
  conversationHistories := Dict.empty.set "conv-1" ["Turn 1: 1 operations. Brighter."]

/-- The second request waits, is cancelled, and reaches its first checkpoint. -/
def cancelledInQueue : List PlanEvent := [.cancelRequested, .lockTaken, .proceed true true]

theorem cancelled_beforeTurn_clears_first :
    ¬ KeepsOthers "conv-2" servedFirst
      (run (planStep "conv-2") ⟨servedFirst, false, .queued⟩ cancelledInQueue).server := by
  intro keeps
  exact absurd (keeps.threads "conv-1" (by decide)) (by decide)

theorem cancelled_beforeTurn_inQueue :
    (Cleared (run (planStep "conv-2") ⟨servedFirst, false, .queued⟩ cancelledInQueue).server ∧
      ∀ other,
        (run (planStep "conv-2") ⟨servedFirst, false, .queued⟩ cancelledInQueue).server.existingThread other = none) ∧
    KeepsOthers "conv-2" servedFirst
      (run (planStep "conv-2") ⟨servedFirst, false, .locked⟩ [.proceed true true, .cancelRequested]).server :=
  ⟨(cancelled_beforeTurn "conv-2" ⟨servedFirst, false, .queued⟩ cancelledInQueue).1 (by decide) (by decide),
    (cancelled_beforeTurn "conv-2" ⟨servedFirst, false, .locked⟩ [.proceed true true, .cancelRequested]).2 (by decide)
      ⟨by unfold AppServerDown; decide, by unfold AppServerDown; decide, trivial⟩ (by decide)⟩

end Teardown

end DarktableAgent.Server
