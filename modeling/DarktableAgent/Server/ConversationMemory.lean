import DarktableAgent.Foundation.Runs
import DarktableAgent.Server.Conversations
import Mathlib.Data.List.DropRight

/-! What the bridge remembers of its conversations, over its whole life.

One plan after the other takes the lock, the process comes and goes, and each entry of the
journal is something that the app-server was told or that a plan returned. The dictionaries
of the bridge are compared with what the journal says since the process was last replaced.
-/

set_option autoImplicit false

namespace DarktableAgent.Server

open Foundation Protocol

/-- The summary of a completed turn, of which long texts keep 200 characters. -/
def turnSummary (turnIndex : Nat) (plan : AgentPlan) : String :=
  let text := plan.assistantText
  "Turn " ++ toString turnIndex ++ ": " ++ toString plan.operations.length ++ " operations. " ++
    if 200 < text.length then String.ofList (text.toList.take 200) ++ "..." else text

/-- The item of `_build_turn_input` that tells of earlier turns. -/
def historyItem (history : List String) : Option String :=
  if history = [] then none
  else some ("Prior turns in this conversation:\n" ++ "\n".intercalate (history.rtake 5))

/-- The end of `_run_turn_locked`. -/
def AppServer.recordTurn (server : AppServer) (conversationId : String) (turnIndex : Nat) (plan : AgentPlan) :
    AppServer :=
  let history := (server.conversationHistories.get? conversationId).getD []
  { server with
    conversationHistories := server.conversationHistories.set conversationId
      ((history ++ [turnSummary turnIndex plan]).rtake 10) }

inductive JournalEntry where
  -- the process was started, or killed
  | processReplaced
  | requestWritten (rpcId : Nat) (method : String)
  | threadStarted (conversationId threadId : String)
  -- the input of a turn was built
  | turnPrepared (conversationId threadId : String) (prior : Option String)
  | turnCompleted (conversationId summary : String)
  deriving DecidableEq, Repr

/-- The plan that has the lock. -/
structure Holder where
  conversationId : String
  cancelEvent : Bool
  phase : PlanPhase
  -- the local `turn_index` of `_run_turn_locked`
  turnIndex : Nat

structure Service where
  server : AppServer
  holder : Option Holder
  journal : List JournalEntry

/-- Why a turn that was started returns no plan. -/
inductive TurnFailure where
  | cancelled
  | processExited
  -- an answer to the app-server could not be written
  | unwritten
  -- the time is over, the turn failed, or its plan is none
  | raised
  deriving DecidableEq, Repr

inductive ServiceEvent where
  | lockTaken (conversationId : String) (cancelled : Bool)
  | processExits
  | plan (event : PlanEvent)
  -- a request of the app-server comes while a response is awaited, and the answer cannot be written
  | answerUnwritten
  | turnCompleted (plan : AgentPlan)
  | turnFailed (failure : TurnFailure)
  -- a plan that came to no turn has raised
  | lockReleased

namespace PlanRun

variable (run : PlanRun) (conversationId : String)

def requestEntries (written : Bool) (method : String) : List JournalEntry :=
  if run.server.process = .absent then []
  else if written then [.requestWritten run.server.nextRequestId method]
  else [.processReplaced]

def checkpointEntries (next : List JournalEntry) : List JournalEntry :=
  if run.cancelEvent then [.processReplaced] else next

def initializeEntries (launched written : Bool) : List JournalEntry :=
  if run.server.process = .running then
    if run.server.initialized then [] else run.requestEntries written "initialize"
  else if launched then
    .processReplaced :: { run with server := run.server.startProcess }.requestEntries written "initialize"
  else if run.server.process = .exited then [.processReplaced] else []

def threadEntries (written : Bool) : List JournalEntry :=
  match run.server.existingThread conversationId with
  | some _ => []
  | none => run.requestEntries written "thread/start"

def turnEntries (threadId : String) (written : Bool) : List JournalEntry :=
  .turnPrepared conversationId threadId
    (historyItem ((run.server.conversationHistories.get? conversationId).getD [])) ::
    run.requestEntries written "turn/start"

def responseEntries (message : JsonObject) (written : Bool) : List JournalEntry :=
  match run.phase with
  | .initializing rpcId =>
    if answersRequest rpcId message then
      if (message.lookup "error").isSome || (message.lookup "result").isNone then []
      else if written then [] else [.processReplaced]
    else []
  | .startingThread rpcId =>
    if answersRequest rpcId message then
      ((startedThreadId message).map (JournalEntry.threadStarted conversationId)).toList
    else []
  | _ => []

def pollEntries : List JournalEntry := if run.server.process = .exited then [.processReplaced] else []

/-- What a step of a plan adds to the journal. -/
def entries : PlanEvent → List JournalEntry
  | .proceed launched written =>
    match run.phase with
    | .locked => run.checkpointEntries (run.initializeEntries launched written)
    | .initialized => run.checkpointEntries (run.threadEntries conversationId written)
    | .threaded threadId => run.turnEntries conversationId threadId written
    | .startingTurn _ _ => run.checkpointEntries []
    | _ => []
  | .response message written => run.responseEntries conversationId message written
  | .nothingRead =>
    match run.phase with
    | .initializing _ | .startingThread _ => run.pollEntries
    | .startingTurn _ _ => run.checkpointEntries run.pollEntries
    | _ => []
  | .others _ | .cancelRequested | .processExits | .lockTaken | .raised => []

end PlanRun

/-- `turn_index` is read when the turn is counted. -/
def Holder.indexAfter (holder : Holder) (server : AppServer) : PlanEvent → Nat
  | .proceed _ _ =>
    match holder.phase with
    | .threaded _ => (server.conversationTurnCounts.get? holder.conversationId).getD 0 + 1
    | _ => holder.turnIndex
  | _ => holder.turnIndex

namespace Service

variable (service : Service)

def planRun (holder : Holder) : PlanRun := ⟨service.server, holder.cancelEvent, holder.phase⟩

/-- A step of the plan that has the lock. -/
def stepPlan (holder : Holder) (event : PlanEvent) : Service :=
  let run := service.planRun holder
  let after := planStep holder.conversationId run event
  { server := after.server
    holder := some { holder with
      cancelEvent := after.cancelEvent
      phase := after.phase
      turnIndex := holder.indexAfter service.server event }
    journal := service.journal ++ run.entries holder.conversationId event }

/-- What a failure of the turn is the end of. -/
def fails (holder : Holder) : TurnFailure → Bool
  | .cancelled => holder.cancelEvent
  | .processExited => service.server.process = .exited
  | .unwritten => service.server.process ≠ .absent
  | .raised => true

/-- The process is killed unless the turn just raises. -/
def failTurn : TurnFailure → Service
  | .raised => { service with holder := none }
  | .cancelled | .processExited | .unwritten => {
      server := service.server.resetProcess
      holder := none
      journal := service.journal ++ [.processReplaced] }

def completeTurn (holder : Holder) (plan : AgentPlan) : Service where
  server := service.server.recordTurn holder.conversationId holder.turnIndex plan
  holder := none
  journal := service.journal ++ [.turnCompleted holder.conversationId (turnSummary holder.turnIndex plan)]

end Service

def PlanPhase.isStarted : PlanPhase → Bool
  | .started _ _ => true
  | _ => false

def PlanPhase.awaitsResponse : PlanPhase → Bool
  | .initializing _ | .startingThread _ | .startingTurn _ _ => true
  | _ => false

/-- `plan` of one request after the other, and the process. -/
def serviceStep (service : Service) : ServiceEvent → Service
  | .lockTaken conversationId cancelled =>
    if service.holder.isNone then { service with holder := some ⟨conversationId, cancelled, .locked, 0⟩ } else service
  | .processExits =>
    if service.server.process = .running then { service with server := { service.server with process := .exited } }
    else service
  | .plan event => service.holder.elim service (service.stepPlan · event)
  | .answerUnwritten =>
    match service.holder with
    | some holder =>
      if holder.phase.awaitsResponse ∧ service.server.process ≠ .absent then {
        server := service.server.resetProcess
        holder := some { holder with phase := .failed }
        journal := service.journal ++ [.processReplaced] }
      else service
    | none => service
  | .turnCompleted plan =>
    match service.holder with
    | some holder => if holder.phase.isStarted then service.completeTurn holder plan else service
    | none => service
  | .turnFailed failure =>
    match service.holder with
    | some holder =>
      if holder.phase.isStarted ∧ service.fails holder failure then service.failTurn failure else service
    | none => service
  | .lockReleased =>
    if service.holder.any fun holder => holder.phase matches .cancelled | .failed then { service with holder := none }
    else service

/-- A bridge that was just created. -/
def initialService : Service where
  server := ⟨.absent, false, 1, .empty, .empty, .empty⟩
  holder := none
  journal := []

/-! What the journal says. -/

structure ConversationMemory where
  threadId : Option String := none
  turns : Nat := 0
  summaries : List String := []

namespace ConversationMemory

variable (memory : ConversationMemory)

def startThread (threadId : String) : ConversationMemory := { memory with threadId := some threadId }

def countTurn : ConversationMemory := { memory with turns := memory.turns + 1 }

def addSummary (summary : String) : ConversationMemory := { memory with summaries := memory.summaries ++ [summary] }

end ConversationMemory

/-- Since the process was last replaced. -/
structure ServerMemory where
  conversations : String → ConversationMemory
  -- the ids of the requests that were written
  written : List Nat

def forgotten : ServerMemory := ⟨fun _ => {}, []⟩

namespace ServerMemory

variable (memory : ServerMemory)

def update (conversationId : String) (change : ConversationMemory → ConversationMemory) : ServerMemory :=
  { memory with
    conversations :=
      Function.update memory.conversations conversationId (change (memory.conversations conversationId)) }

def learn : JournalEntry → ServerMemory
  | .processReplaced => forgotten
  | .requestWritten rpcId _ => { memory with written := memory.written ++ [rpcId] }
  | .threadStarted conversationId threadId => memory.update conversationId (·.startThread threadId)
  | .turnPrepared conversationId _ _ => memory.update conversationId (·.countTurn)
  | .turnCompleted conversationId summary => memory.update conversationId (·.addSummary summary)

/-- What an entry may say, behind entries that left this memory. -/
def Admits : JournalEntry → Prop
  | .processReplaced => True
  | .requestWritten rpcId _ => ∀ earlier ∈ memory.written, earlier < rpcId
  -- a conversation gets one thread
  | .threadStarted conversationId _ => (memory.conversations conversationId).threadId.filter (· ≠ "") = none
  -- the turn is on that thread, and is told of the last five completed turns of the conversation
  | .turnPrepared conversationId threadId prior =>
    (memory.conversations conversationId).threadId = some threadId ∧
      prior = historyItem (memory.conversations conversationId).summaries
  | .turnCompleted conversationId summary =>
    ∃ plan, summary = turnSummary (memory.conversations conversationId).turns plan

end ServerMemory

def memoryOf (journal : List JournalEntry) : ServerMemory := run ServerMemory.learn forgotten journal

/-- The entry is about the conversation, or about the process that all of them share. -/
def JournalEntry.concerns (conversationId : String) : JournalEntry → Bool
  | .processReplaced => true
  | .requestWritten _ _ => false
  | .threadStarted other _ | .turnPrepared other _ _ | .turnCompleted other _ => other = conversationId

theorem ServerMemory.update_other (memory : ServerMemory) {conversationId other : String}
    (change : ConversationMemory → ConversationMemory) (different : other ≠ conversationId) :
    (memory.update conversationId change).conversations other = memory.conversations other :=
  Function.update_of_ne different _ _

theorem ServerMemory.update_own (memory : ServerMemory) (conversationId : String)
    (change : ConversationMemory → ConversationMemory) :
    (memory.update conversationId change).conversations conversationId = change (memory.conversations conversationId) :=
  Function.update_self _ _ _

/-- What is known of a conversation was said of it alone. -/
theorem memoryOf_concerning (journal : List JournalEntry) (conversationId : String) :
    (memoryOf journal).conversations conversationId =
      (memoryOf (journal.filter (·.concerns conversationId))).conversations conversationId := by
  induction journal using List.reverseRecOn with
  | nil => rfl
  | append_singleton journal entry ih =>
    have last : ∀ entries : List JournalEntry, memoryOf (entries ++ [entry]) = (memoryOf entries).learn entry :=
      fun entries => run_append entries [entry]
    rw [last, List.filter_append]
    have updates : ∀ (other : String) (change : ConversationMemory → ConversationMemory),
        (∀ memory : ServerMemory, memory.learn entry = memory.update other change) →
        entry.concerns conversationId = decide (other = conversationId) →
        ((memoryOf journal).learn entry).conversations conversationId =
          (memoryOf (journal.filter (·.concerns conversationId) ++
            [entry].filter (·.concerns conversationId))).conversations conversationId := by
      intro other change isUpdate isConcern
      rw [List.filter_singleton, isConcern, isUpdate]
      by_cases own : other = conversationId
      · rw [own, decide_eq_true rfl, cond_true, last, isUpdate, own, ServerMemory.update_own, ServerMemory.update_own,
          ih]
      · rw [decide_eq_false own, cond_false, List.append_nil, ServerMemory.update_other _ _ (Ne.symm own), ih]
    cases entry with
    | processReplaced =>
      rw [List.filter_cons_of_pos (by rfl), List.filter_nil, last]
      rfl
    | requestWritten rpcId method =>
      rw [List.filter_cons_of_neg (by exact Bool.false_ne_true), List.filter_nil, List.append_nil]
      exact ih
    | threadStarted other threadId => exact updates other (·.startThread threadId) (fun _ => rfl) rfl
    | turnPrepared other threadId prior => exact updates other (·.countTurn) (fun _ => rfl) rfl
    | turnCompleted other summary => exact updates other (·.addSummary summary) (fun _ => rfl) rfl

section Remembering

/-- The entries of a conversation are what is known of it, of the summaries the last ten. -/
structure Recalls (server : AppServer) (conversationId : String) (memory : ConversationMemory) : Prop where
  thread : server.conversationThreads.get? conversationId = memory.threadId
  turnCount : server.conversationTurnCounts.get? conversationId = if memory.turns = 0 then none else some memory.turns
  history : server.conversationHistories.get? conversationId =
    if memory.summaries = [] then none else some (memory.summaries.rtake 10)

/-- The dictionaries hold what the journal says. -/
structure Remembers (server : AppServer) (memory : ServerMemory) : Prop where
  conversations : ∀ conversationId, Recalls server conversationId (memory.conversations conversationId)
  written : ∀ rpcId ∈ memory.written, rpcId < server.nextRequestId

theorem Recalls.congr {server after : AppServer} {conversationId : String} {memory : ConversationMemory}
    (recalls : Recalls server conversationId memory)
    (thread : after.conversationThreads.get? conversationId = server.conversationThreads.get? conversationId)
    (turnCount : after.conversationTurnCounts.get? conversationId = server.conversationTurnCounts.get? conversationId)
    (history : after.conversationHistories.get? conversationId = server.conversationHistories.get? conversationId) :
    Recalls after conversationId memory :=
  ⟨thread.trans recalls.thread, turnCount.trans recalls.turnCount, history.trans recalls.history⟩

/-- What becomes of one conversation leaves the others as they were. -/
theorem Remembers.update {server after : AppServer} {memory : ServerMemory} (remembers : Remembers server memory)
    {conversationId : String} (change : ConversationMemory → ConversationMemory)
    (own : Recalls after conversationId (change (memory.conversations conversationId)))
    (keeps : KeepsOthers conversationId server after) (next : server.nextRequestId ≤ after.nextRequestId) :
    Remembers after (memory.update conversationId change) where
  conversations other := by
    unfold ServerMemory.update
    dsimp only
    by_cases isOwn : other = conversationId
    · rw [isOwn, Function.update_self]
      exact own
    · rw [Function.update_of_ne isOwn]
      exact (remembers.conversations other).congr (keeps.threads other isOwn) (keeps.turnCounts other isOwn)
        (keeps.histories other isOwn)
  written rpcId member := (remembers.written rpcId member).trans_le next

/-- What a plan that has the lock knows of its conversation, by its phase. -/
def Knows (server : AppServer) (conversationId : String) (turnIndex : Nat) : PlanPhase → Prop
  | .queued => False
  | .startingThread _ => server.existingThread conversationId = none
  | .threaded threadId => server.conversationThreads.get? conversationId = some threadId
  | .startingTurn _ _ | .started _ _ => server.conversationTurnCounts.get? conversationId = some turnIndex
  | .locked | .initializing _ | .initialized | .cancelled | .failed => True

theorem rtake_rtake {α : Type} {kept asked : Nat} (covers : asked ≤ kept) (log : List α) :
    (log.rtake kept).rtake asked = log.rtake asked := by
  unfold List.rtake
  rw [List.drop_drop, List.length_drop]
  congr 1
  omega

theorem rtake_append_singleton {α : Type} (kept : Nat) (log : List α) (next : α) :
    (log.rtake (kept + 1) ++ [next]).rtake (kept + 1) = (log ++ [next]).rtake (kept + 1) := by
  rw [List.rtake_concat_succ, List.rtake_concat_succ, rtake_rtake (Nat.le_succ kept)]

/-- The last five of the last ten are the last five. -/
theorem historyItem_rtake (history : List String) : historyItem (history.rtake 10) = historyItem history := by
  unfold historyItem
  rw [rtake_rtake (by omega)]
  cases history with
  | nil => rfl
  | cons first rest =>
    have some : (first :: rest).rtake 10 ≠ [] := by
      unfold List.rtake
      rw [Ne, List.drop_eq_nil_iff, List.length_cons]
      omega
    rw [if_neg some, if_neg (List.cons_ne_nil _ _)]

/-- Knowledge of one's conversation is knowledge of its thread and of its count. -/
theorem Knows.congr {server after : AppServer} {conversationId : String} {turnIndex : Nat} {phase : PlanPhase}
    (knows : Knows server conversationId turnIndex phase)
    (threads : after.conversationThreads = server.conversationThreads)
    (turnCounts : after.conversationTurnCounts = server.conversationTurnCounts) :
    Knows after conversationId turnIndex phase := by
  cases phase with
  | startingThread rpcId =>
    change after.existingThread conversationId = none
    unfold AppServer.existingThread
    rw [threads]
    exact knows
  | threaded threadId =>
    change after.conversationThreads.get? conversationId = some threadId
    rw [threads]
    exact knows
  | startingTurn | started =>
    change after.conversationTurnCounts.get? conversationId = some turnIndex
    rw [turnCounts]
    exact knows
  | queued | locked | initializing | initialized | cancelled | failed => exact knows

/-- The entries are admitted one after the other, and the dictionaries hold what they say. -/
structure Follows (memory : ServerMemory) (entries : List JournalEntry) (server : AppServer) : Prop where
  admitted : EveryStep ServerMemory.learn ServerMemory.Admits memory entries
  remembers : Remembers server (run ServerMemory.learn memory entries)

namespace Follows

variable {memory : ServerMemory} {server after : AppServer}

theorem append {first second : List JournalEntry} {middle : AppServer} (earlier : Follows memory first middle)
    (later : Follows (run ServerMemory.learn memory first) second after) : Follows memory (first ++ second) after where
  admitted := everyStep_append.mpr ⟨earlier.admitted, later.admitted⟩
  remembers := by
    rw [run_append]
    exact later.remembers

/-- The dictionaries are what they were. -/
theorem nothing (remembers : Remembers server memory)
    (threads : after.conversationThreads = server.conversationThreads)
    (turnCounts : after.conversationTurnCounts = server.conversationTurnCounts)
    (histories : after.conversationHistories = server.conversationHistories)
    (next : server.nextRequestId ≤ after.nextRequestId) : Follows memory [] after := by
  refine ⟨trivial, fun conversationId => ?_, fun rpcId member => (remembers.written rpcId member).trans_le next⟩
  exact (remembers.conversations conversationId).congr (by rw [threads]) (by rw [turnCounts]) (by rw [histories])

theorem same (remembers : Remembers server memory) : Follows memory [] server :=
  nothing remembers rfl rfl rfl (Nat.le_refl _)

/-- A process that is replaced has been told nothing. -/
theorem replaced (cleared : Cleared after) : Follows memory [.processReplaced] after := by
  refine ⟨⟨trivial, trivial⟩, fun conversationId => ⟨?_, ?_, ?_⟩, fun _ member => absurd member List.not_mem_nil⟩
  · rw [cleared.threads]
    rfl
  · rw [cleared.turnCounts]
    rfl
  · rw [cleared.histories]
    rfl

/-- A request gets an id above those of all requests that the process was sent. -/
theorem request {planRun : PlanRun} (remembers : Remembers planRun.server memory) (written : Bool) (method : String)
    (wait : Nat → PlanPhase) :
    Follows memory (planRun.requestEntries written method) (planRun.send written wait).server := by
  unfold PlanRun.requestEntries PlanRun.send AppServer.sendRequest
  by_cases absent : planRun.server.process = .absent
  · rw [if_pos absent, if_pos absent]
    exact nothing remembers rfl rfl rfl (Nat.le_succ _)
  · rw [if_neg absent, if_neg absent]
    cases written with
    | false => exact replaced planRun.server.resetProcess_cleared
    | true =>
      refine ⟨⟨remembers.written, trivial⟩, fun conversationId => ?_, fun rpcId member => ?_⟩
      · exact (remembers.conversations conversationId).congr rfl rfl rfl
      rcases List.mem_append.mp member with earlier | now
      · exact (remembers.written rpcId earlier).trans (Nat.lt_succ_self _)
      · rw [List.mem_singleton.mp now]
        exact Nat.lt_succ_self _

/-- A thread that was started is that of its conversation. -/
theorem thread (remembers : Remembers server memory) {conversationId : String}
    (noThread : server.existingThread conversationId = none) (threadId : String) :
    Follows memory [.threadStarted conversationId threadId]
      { server with conversationThreads := server.conversationThreads.set conversationId threadId } := by
  have recalls := remembers.conversations conversationId
  refine ⟨⟨?_, trivial⟩, remembers.update (·.startThread threadId) ⟨?_, recalls.turnCount, recalls.history⟩
    ⟨fun other different => ?_, fun _ _ => rfl, fun _ _ => rfl⟩ (Nat.le_refl _)⟩
  · unfold AppServer.existingThread at noThread
    rw [recalls.thread] at noThread
    exact noThread
  · exact (Dict.get?_set ..).trans (if_pos rfl)
  · exact Dict.get?_set_ne different

/-- A turn is counted, on the thread of its conversation, and told of what the dictionary keeps. -/
theorem turn (remembers : Remembers server memory) {conversationId threadId : String}
    (onThread : server.conversationThreads.get? conversationId = some threadId) :
    Follows memory [.turnPrepared conversationId threadId
        (historyItem ((server.conversationHistories.get? conversationId).getD []))]
      { server with
        conversationTurnCounts := server.conversationTurnCounts.set conversationId
          ((server.conversationTurnCounts.get? conversationId).getD 0 + 1) } := by
  have recalls := remembers.conversations conversationId
  refine ⟨⟨⟨recalls.thread.symm.trans onThread, ?_⟩, trivial⟩,
    remembers.update (·.countTurn) ⟨recalls.thread, ?_, recalls.history⟩
      ⟨fun _ _ => rfl, fun other different => ?_, fun _ _ => rfl⟩ (Nat.le_refl _)⟩
  · rw [recalls.history]
    by_cases silent : (memory.conversations conversationId).summaries = []
    · rw [if_pos silent, silent]
      rfl
    · rw [if_neg silent, Option.getD_some, historyItem_rtake]
  · refine (Dict.get?_set ..).trans ?_
    rw [if_pos rfl, recalls.turnCount, if_neg (show (memory.conversations conversationId).countTurn.turns ≠ 0 from
      Nat.succ_ne_zero _)]
    split_ifs with none
    · unfold ConversationMemory.countTurn
      rw [none]
      rfl
    · rfl
  · exact Dict.get?_set_ne different

/-- The summary of a completed turn is kept among the last ten. -/
theorem completed (remembers : Remembers server memory) {conversationId : String} {turnIndex : Nat}
    (counted : server.conversationTurnCounts.get? conversationId = some turnIndex) (plan : AgentPlan) :
    Follows memory [.turnCompleted conversationId (turnSummary turnIndex plan)]
      (server.recordTurn conversationId turnIndex plan) := by
  have recalls := remembers.conversations conversationId
  refine ⟨⟨⟨plan, ?_⟩, trivial⟩,
    remembers.update (·.addSummary (turnSummary turnIndex plan)) ⟨recalls.thread, recalls.turnCount, ?_⟩
      ⟨fun _ _ => rfl, fun _ _ => rfl, fun other different => ?_⟩ (Nat.le_refl _)⟩
  · rw [recalls.turnCount] at counted
    split_ifs at counted
    rw [Option.some.inj counted]
  · unfold AppServer.recordTurn ConversationMemory.addSummary
    dsimp only
    have told := List.append_ne_nil_of_right_ne_nil (memory.conversations conversationId).summaries
      (List.cons_ne_nil (turnSummary turnIndex plan) [])
    rw [Dict.get?_set, if_pos rfl, recalls.history, if_neg told]
    split_ifs with silent
    · rw [silent]
      rfl
    · rw [Option.getD_some, rtake_append_singleton]
  · exact Dict.get?_set_ne different

end Follows

/-- A step of a plan, by what it does to the dictionaries and what the plan knows then. -/
structure Advances (memory : ServerMemory) (conversationId : String) (turnIndex : Nat) (entries : List JournalEntry)
    (after : PlanRun) : Prop where
  follows : Follows memory entries after.server
  knows : Knows after.server conversationId turnIndex after.phase

namespace Advances

variable {memory : ServerMemory} (planRun : PlanRun) {conversationId : String} {turnIndex : Nat}

/-- What a checkpoint leaves of a cancelled plan. -/
theorem checkpoint (next : PlanRun → PlanRun) {entries : List JournalEntry}
    (goesOn : Advances memory conversationId turnIndex entries (next planRun)) :
    Advances memory conversationId turnIndex (planRun.checkpointEntries entries) (planRun.checkpoint next) := by
  unfold PlanRun.checkpointEntries PlanRun.checkpoint
  split_ifs
  · exact ⟨.replaced planRun.server.resetProcess_cleared, trivial⟩
  · exact goesOn

/-- A request, and the wait for its response. -/
theorem send (remembers : Remembers planRun.server memory) (written : Bool) (method : String) {wait : Nat → PlanPhase}
    (waiting : ∀ rpcId, Knows planRun.server conversationId turnIndex (wait rpcId)) :
    Advances memory conversationId turnIndex (planRun.requestEntries written method) (planRun.send written wait) := by
  refine ⟨.request remembers written method wait, ?_⟩
  unfold PlanRun.send AppServer.sendRequest
  split_ifs
  · trivial
  · exact (waiting _).congr rfl rfl
  · trivial

theorem ensureInitialized (remembers : Remembers planRun.server memory) (launched written : Bool) :
    Advances memory conversationId turnIndex (planRun.initializeEntries launched written)
      (planRun.ensureInitialized launched written) := by
  unfold PlanRun.initializeEntries PlanRun.ensureInitialized
  split_ifs with running ready launches exited
  · exact ⟨.same remembers, trivial⟩
  · exact send planRun remembers written "initialize" fun _ => trivial
  · -- the process is new, whatever was there before
    have started : Follows memory [.processReplaced] planRun.server.startProcess := .replaced ⟨rfl, rfl, rfl⟩
    have sent := @send _ { planRun with server := planRun.server.startProcess } conversationId turnIndex
      started.remembers written "initialize" .initializing fun _ => trivial
    exact ⟨started.append sent.follows, sent.knows⟩
  · exact ⟨.replaced planRun.server.resetProcess_cleared, trivial⟩
  · exact ⟨.same remembers, trivial⟩

theorem getOrCreateThread (remembers : Remembers planRun.server memory) (written : Bool) :
    Advances memory conversationId turnIndex (planRun.threadEntries conversationId written)
      (planRun.getOrCreateThread conversationId written) := by
  unfold PlanRun.threadEntries PlanRun.getOrCreateThread
  cases existing : planRun.server.existingThread conversationId with
  | some threadId =>
    exact ⟨.same remembers, (Option.filter_eq_some_iff.mp existing).1⟩
  | none => exact send planRun remembers written "thread/start" fun _ => existing

theorem runTurn (remembers : Remembers planRun.server memory) {threadId : String}
    (onThread : planRun.server.conversationThreads.get? conversationId = some threadId) (written : Bool) :
    Advances memory conversationId ((planRun.server.conversationTurnCounts.get? conversationId).getD 0 + 1)
      (planRun.turnEntries conversationId threadId written) (planRun.runTurn conversationId threadId written) := by
  have counted := Follows.turn remembers onThread
  obtain ⟨turnIndex, isIndex⟩ : ∃ turnIndex,
    (planRun.server.conversationTurnCounts.get? conversationId).getD 0 + 1 = turnIndex := ⟨_, rfl⟩
  unfold PlanRun.turnEntries PlanRun.runTurn
  rw [isIndex] at counted ⊢
  have sent := @send _ { planRun with server := { planRun.server with
      conversationTurnCounts := planRun.server.conversationTurnCounts.set conversationId turnIndex } }
    conversationId turnIndex counted.remembers written "turn/start" (.startingTurn threadId)
    fun _ => (Dict.get?_set ..).trans (if_pos rfl)
  exact ⟨counted.append sent.follows, sent.knows⟩

theorem poll (remembers : Remembers planRun.server memory)
    (knows : Knows planRun.server conversationId turnIndex planRun.phase) :
    Advances memory conversationId turnIndex planRun.pollEntries planRun.poll := by
  unfold PlanRun.pollEntries PlanRun.poll
  split_ifs
  · exact ⟨.replaced planRun.server.resetProcess_cleared, trivial⟩
  · exact ⟨.same remembers, knows⟩

theorem receive (remembers : Remembers planRun.server memory)
    (knows : Knows planRun.server conversationId turnIndex planRun.phase) (message : JsonObject) (written : Bool) :
    Advances memory conversationId turnIndex (planRun.responseEntries conversationId message written)
      (planRun.receive conversationId message written) := by
  unfold PlanRun.responseEntries PlanRun.receive
  cases phase : planRun.phase with
  | initializing rpcId =>
    dsimp only
    split_ifs
    · exact ⟨.same remembers, trivial⟩
    · exact ⟨.nothing remembers rfl rfl rfl (Nat.le_refl _), trivial⟩
    · exact ⟨.replaced planRun.server.resetProcess_cleared, trivial⟩
    · exact ⟨.same remembers, by rw [phase]; trivial⟩
  | startingThread rpcId =>
    rw [phase] at knows
    dsimp only
    split_ifs
    · cases startedThreadId message with
      | none => exact ⟨.same remembers, trivial⟩
      | some threadId => exact ⟨.thread remembers knows threadId, (Dict.get?_set ..).trans (if_pos rfl)⟩
    · exact ⟨.same remembers, by rw [phase]; exact knows⟩
  | startingTurn threadId rpcId =>
    rw [phase] at knows
    dsimp only
    split_ifs
    · cases startedTurnId message with
      | none => exact ⟨.same remembers, trivial⟩
      | some turnId => exact ⟨.same remembers, knows⟩
    · exact ⟨.same remembers, by rw [phase]; exact knows⟩
  | queued | locked | initialized | threaded | started | cancelled | failed => exact ⟨.same remembers, knows⟩

end Advances

/-- Every step of the plan that has the lock is told in the journal. -/
theorem Holder.advances {memory : ServerMemory} {holder : Holder} {server : AppServer}
    (remembers : Remembers server memory) (knows : Knows server holder.conversationId holder.turnIndex holder.phase)
    (event : PlanEvent) :
    Advances memory holder.conversationId (holder.indexAfter server event)
      (PlanRun.entries ⟨server, holder.cancelEvent, holder.phase⟩ holder.conversationId event)
      (planStep holder.conversationId ⟨server, holder.cancelEvent, holder.phase⟩ event) := by
  obtain ⟨conversationId, cancelEvent, phase, turnIndex⟩ := holder
  dsimp only at knows ⊢
  have stays : Advances memory conversationId turnIndex [] ⟨server, cancelEvent, phase⟩ := ⟨.same remembers, knows⟩
  cases event with
  | others other =>
    unfold planStep
    dsimp only
    split_ifs with queued
    · rw [queued] at knows
      exact knows.elim
    · exact stays
  | cancelRequested => exact ⟨.same remembers, knows⟩
  | processExits =>
    unfold planStep
    dsimp only
    split_ifs
    · exact ⟨.nothing remembers rfl rfl rfl (Nat.le_refl _), knows.congr rfl rfl⟩
    · exact stays
  | lockTaken =>
    unfold planStep
    dsimp only
    split_ifs with queued
    · rw [queued] at knows
      exact knows.elim
    · exact stays
  | proceed launched written =>
    cases phase with
    | locked =>
      exact .checkpoint _ (·.ensureInitialized launched written) (.ensureInitialized _ remembers launched written)
    | initialized =>
      exact .checkpoint _ (·.getOrCreateThread conversationId written) (.getOrCreateThread _ remembers written)
    | threaded threadId => exact .runTurn ⟨server, cancelEvent, .threaded threadId⟩ remembers knows written
    | startingTurn threadId rpcId => exact .checkpoint _ id stays
    | queued | initializing | startingThread | started | cancelled | failed => exact stays
  | response message written =>
    exact .receive ⟨server, cancelEvent, phase⟩ remembers knows message written
  | nothingRead =>
    cases phase with
    | initializing rpcId => exact .poll ⟨server, cancelEvent, .initializing rpcId⟩ remembers knows
    | startingThread rpcId => exact .poll ⟨server, cancelEvent, .startingThread rpcId⟩ remembers knows
    | startingTurn threadId rpcId => exact .checkpoint _ PlanRun.poll (.poll _ remembers knows)
    | queued | locked | initialized | threaded | started | cancelled | failed => exact stays
  | raised =>
    cases phase with
    | queued | started | cancelled => exact stays
    | locked | initializing | initialized | startingThread | threaded | startingTurn | failed =>
      exact ⟨.same remembers, trivial⟩

/-- What every event of the bridge keeps. -/
structure Service.Kept (service : Service) : Prop where
  admitted : EveryStep ServerMemory.learn ServerMemory.Admits forgotten service.journal
  remembers : Remembers service.server (memoryOf service.journal)
  knows : ∀ holder, service.holder = some holder →
    Knows service.server holder.conversationId holder.turnIndex holder.phase

namespace Service.Kept

variable {service : Service}

/-- New entries that follow the journal. -/
theorem follow (kept : service.Kept) {entries : List JournalEntry} {server : AppServer}
    (follows : Follows (memoryOf service.journal) entries server) {holder : Option Holder}
    (knows : ∀ found, holder = some found → Knows server found.conversationId found.turnIndex found.phase) :
    Kept ⟨server, holder, service.journal ++ entries⟩ where
  admitted := everyStep_append.mpr ⟨kept.admitted, follows.admitted⟩
  remembers := by
    unfold memoryOf
    rw [run_append]
    exact follows.remembers
  knows := knows

theorem nobody {server : AppServer} (found : Holder) (isNone : none = some found) :
    Knows server found.conversationId found.turnIndex found.phase := by
  cases isNone

theorem step (kept : service.Kept) (event : ServiceEvent) : (serviceStep service event).Kept := by
  cases event with
  | lockTaken conversationId cancelled =>
    unfold serviceStep
    dsimp only
    split_ifs
    · refine ⟨kept.admitted, kept.remembers, fun holder isHolder => ?_⟩
      rw [← Option.some.inj isHolder]
      trivial
    · exact kept
  | processExits =>
    unfold serviceStep
    dsimp only
    split_ifs
    · have exits : Follows (memoryOf service.journal) [] { service.server with process := .exited } :=
        .nothing kept.remembers rfl rfl rfl (Nat.le_refl _)
      exact ⟨kept.admitted, exits.remembers, fun holder isHolder => (kept.knows holder isHolder).congr rfl rfl⟩
    · exact kept
  | plan event =>
    unfold serviceStep
    dsimp only
    cases isHolder : service.holder with
    | none => exact kept
    | some holder =>
      have advances := Holder.advances kept.remembers (kept.knows holder isHolder) event
      refine kept.follow advances.follows fun found isFound => ?_
      rw [← Option.some.inj isFound]
      exact advances.knows
  | answerUnwritten =>
    unfold serviceStep
    dsimp only
    cases service.holder with
    | none => exact kept
    | some holder =>
      dsimp only
      split_ifs
      · refine kept.follow (.replaced service.server.resetProcess_cleared) fun found isFound => ?_
        rw [← Option.some.inj isFound]
        trivial
      · exact kept
  | turnCompleted plan =>
    unfold serviceStep
    dsimp only
    cases isHolder : service.holder with
    | none => exact kept
    | some holder =>
      obtain ⟨conversationId, cancelEvent, phase, turnIndex⟩ := holder
      have knows := kept.knows _ isHolder
      cases phase with
      | started threadId turnId => exact kept.follow (.completed kept.remembers knows plan) nobody
      | queued | locked | initializing | initialized | startingThread | threaded | startingTurn | cancelled | failed =>
        exact kept
  | turnFailed failure =>
    unfold serviceStep
    dsimp only
    cases service.holder with
    | none => exact kept
    | some holder =>
      dsimp only
      split_ifs
      · have killed : Follows (memoryOf service.journal) [.processReplaced] service.server.resetProcess :=
          .replaced service.server.resetProcess_cleared
        cases failure with
        | raised => exact ⟨kept.admitted, kept.remembers, nobody⟩
        | cancelled | processExited | unwritten => exact kept.follow killed nobody
      · exact kept
  | lockReleased =>
    unfold serviceStep
    dsimp only
    split_ifs
    · exact ⟨kept.admitted, kept.remembers, nobody⟩
    · exact kept

end Service.Kept

theorem initialService_kept : initialService.Kept where
  admitted := trivial
  remembers := ⟨fun _ => ⟨rfl, rfl, rfl⟩, fun _ member => absurd member List.not_mem_nil⟩
  knows _ isHolder := by cases isHolder

/-- Over the whole life of the bridge, whatever plans take the lock and however the process comes and goes: each
request has a new id, each conversation one thread, each turn is on that thread and is told of the last five turns of
its own conversation that were completed since the process was last replaced, and the dictionaries hold this much. -/
theorem conversations_remembered (events : List ServiceEvent) :
    let last := run serviceStep initialService events
    (∀ earlier entry later, last.journal = earlier ++ entry :: later → (memoryOf earlier).Admits entry) ∧
      Remembers last.server (memoryOf last.journal) ∧
      ∀ conversationId, (memoryOf last.journal).conversations conversationId =
        (memoryOf (last.journal.filter (·.concerns conversationId))).conversations conversationId := by
  intro last
  have kept : last.Kept :=
    @run_invariant _ _ serviceStep _ Service.Kept _ (fun _ event kept _ => kept.step event) initialService_kept events
      (everyStep_of_forall (fun _ _ => trivial) _ events)
  exact ⟨everyStep_iff_split.mp kept.admitted, kept.remembers, memoryOf_concerning last.journal⟩

end Remembering

end DarktableAgent.Server
