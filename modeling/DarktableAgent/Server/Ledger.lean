import DarktableAgent.Server.Turn

/-! What has been applied live in the run of a request, and what of it can be seen.

The list of applied operations is written piece by piece while a tool call is under
way, and is dropped with the turn's context. One ledger describes all of it.
-/

set_option autoImplicit false

namespace DarktableAgent.Server

open Foundation Protocol

section Ledger

variable {library : ToolLibrary} {request : RequestEnvelope} {run : TurnRun} {ledger : List OperationDict}

/-- What a planned operation does, apart from its id and its place in a list. -/
def plannedEdit (operation : PlannedOperationDraft) : Edit := editOf ⟨operation, false⟩

/-- The ledger holds what is applied once the tool call under way is over. Everything that can be read is a
beginning of it, and a plan that is returned begins with it. -/
structure Staged (run : TurnRun) (ledger : List OperationDict) : Prop where
  only : ∀ key context, run.bridge.turnContexts.get? key = some context → run.phase.turn? = some key
  opened : ∀ threadId turnId, run.phase = .running threadId turnId →
    (run.bridge.turnContexts.get? (threadId, turnId)).isSome
  context : ∀ key context, run.bridge.turnContexts.get? key = some context →
    context.appliedOperations <+: ledger ∧ (run.writes = [] → context.appliedOperations = ledger)
  addressed : ∀ write ∈ run.writes, run.phase = .running write.threadId write.turnId
  pending : ∀ write ∈ run.writes, ∀ seen, write.effect = .context seen → seen.appliedOperations <+: ledger
  last : ∀ write, run.writes.getLast? = some write →
    ∃ seen, write.effect = .context seen ∧ seen.appliedOperations = ledger
  unopened : (run.phase = .registered ∨ ∃ threadId, run.phase = .threaded threadId) → ledger = []
  planned : ∀ plan, run.phase.plan? = some plan →
    ledger.map (fun dict => plannedEdit dict.operation) <+: plan.operations.map plannedEdit

namespace Staged

/-- Outside a running turn nothing is being written. -/
theorem idle (staged : Staged run ledger) (notRunning : ∀ threadId turnId, run.phase ≠ .running threadId turnId) :
    run.writes = [] := by
  cases writes : run.writes with
  | nil => rfl
  | cons write rest => exact absurd (staged.addressed write (by simp [writes])) (notRunning _ _)

theorem sameContexts (staged : Staged run ledger) {after : BridgeState}
    (same : after.turnContexts = run.bridge.turnContexts) : Staged { run with bridge := after } ledger :=
  { staged with
    only := fun key context found => staged.only key context (by rw [← same]; exact found)
    opened := fun threadId turnId running => by
      have opened := staged.opened threadId turnId running
      rw [← same] at opened
      exact opened
    context := fun key context found => staged.context key context (by rw [← same]; exact found) }

theorem sameTurns (staged : Staged run ledger) {after : BridgeState} (same : SameTurns run.bridge after) :
    Staged { run with bridge := after } ledger := staged.sameContexts same.turnContexts

/-- A write of the call under way. -/
theorem write (staged : Staged run ledger) (keyed : Keyed run.bridge) {write : BridgeWrite} {rest : List BridgeWrite}
    (writes : run.writes = write :: rest) :
    Staged { run with bridge := run.bridge.write write, writes := rest } ledger := by
  obtain ⟨threadId, turnId, effect⟩ := write
  have running : run.phase = .running threadId turnId := staged.addressed _ (by rw [writes]; exact List.mem_cons_self)
  have later : ∀ other ∈ rest, other ∈ run.writes := fun other member => by
    rw [writes]
    exact List.mem_cons_of_mem _ member
  have last : ∀ other, rest.getLast? = some other → run.writes.getLast? = some other := by
    intro other isLast
    rw [writes, List.getLast?_cons, isLast]
    rfl
  cases effect with
  | status message lastToolName =>
    have noted := staged.sameTurns (sameTurns_setStatusForTurn keyed threadId turnId message lastToolName)
    refine { noted with
      context := fun key context found => ⟨(noted.context key context found).1, fun empty => ?_⟩
      addressed := fun other member => staged.addressed other (later other member)
      pending := fun other member => staged.pending other (later other member)
      last := fun other isLast => staged.last other (last other isLast) }
    -- a status note is never the last write of a call
    have isLast : run.writes.getLast? = some ⟨threadId, turnId, .status message lastToolName⟩ := by
      have none : rest = [] := empty
      rw [writes, none]
      rfl
    obtain ⟨seen, impossible, -⟩ := staged.last _ isLast
    cases impossible
  | context written =>
    have begins := staged.pending ⟨threadId, turnId, .context written⟩ (by rw [writes]; exact List.mem_cons_self) written rfl
    have lookup : ∀ key context, (run.bridge.turnContexts.set (threadId, turnId) written).get? key = some context →
        key = (threadId, turnId) ∧ context = written := by
      intro key context found
      rw [Dict.get?_set] at found
      split_ifs at found with here
      · exact ⟨here, (Option.some.inj found).symm⟩
      · have turn := staged.only key context found
        rw [running] at turn
        exact absurd (Option.some.inj turn).symm here
    constructor
    case only =>
      intro key context found
      rw [(lookup key context found).1]
      exact congrArg TurnPhase.turn? running
    case opened =>
      intro otherThread otherTurn other
      have same := running.symm.trans other
      cases same
      exact Option.isSome_iff_exists.mpr ⟨written, Dict.get?_set_self ..⟩
    case context =>
      intro key context found
      rw [(lookup key context found).2]
      refine ⟨begins, fun empty => ?_⟩
      have isLast : run.writes.getLast? = some ⟨threadId, turnId, .context written⟩ := by
        have none : rest = [] := empty
        rw [writes, none]
        rfl
      obtain ⟨seen, same, applied⟩ := staged.last _ isLast
      cases same
      exact applied
    case addressed => exact fun other member => staged.addressed other (later other member)
    case pending => exact fun other member => staged.pending other (later other member)
    case last => exact fun other isLast => staged.last other (last other isLast)
    case unopened => exact staged.unopened
    case planned => exact staged.planned

end Staged

/-- The plan of a turn begins with what was applied live. -/
theorem turnPlan_begins (library : ToolLibrary) (request : RequestEnvelope) (plan : AgentPlan) (context : TurnContext) :
    context.appliedOperations.map (fun dict => plannedEdit dict.operation) <+:
      (turnPlan library request plan (some context)).operations.map plannedEdit := by
  have renumbered : ∀ operations : List OperationDict,
      ((normalizeOperationsWithUniqueIds operations).map (·.operation)).map plannedEdit =
        operations.map fun dict => plannedEdit dict.operation := by
    intro operations
    have edits := congrArg (List.map fun edit : Edit => { edit with bound := false })
      (normalizeOperationsWithUniqueIds_edits operations)
    rw [List.map_map, List.map_map] at edits
    rw [List.map_map]
    exact edits
  unfold turnPlan finalizePlanWithLiveContext
  dsimp only [withOperations]
  rw [renumbered]
  split
  · exact List.prefix_rfl
  · rw [List.map_append]
    exact List.prefix_append _ _

namespace Staged

theorem toolCall (staged : Staged run ledger) {threadId turnId : String} (running : run.phase = .running threadId turnId)
    (idle : run.writes = []) (params : JsonObject) (renders : Nat → Option Bytes) :
    ∃ after, ledger <+: after ∧
      Staged { run with writes := (handleDynamicToolCall library run.bridge params renders).2 } after := by
  rcases handleDynamicToolCall_writes library run.bridge params renders with
    refused | ⟨otherThread, otherTurn, context, toolName, arguments, found, writes⟩
  · refine ⟨ledger, List.prefix_rfl, ?_⟩
    rw [refused, ← idle]
    exact staged
  obtain ⟨call, ends⟩ := handleToolCall_extends library context toolName arguments renders
  have applied := (staged.context _ context found).2 idle
  have sameTurn := staged.only _ context found
  rw [running] at sameTurn
  cases sameTurn
  refine ⟨(handleToolCall library context toolName arguments renders).context.appliedOperations, ?_, ?_⟩
  · rw [← applied]
    exact call.applied
  rw [writes]
  constructor
  case only => exact staged.only
  case opened => exact staged.opened
  case context =>
    intro key other member
    have same := staged.only key other member
    rw [running] at same
    cases same
    have isContext : other = context := Option.some.inj (member.symm.trans found)
    rw [isContext]
    refine ⟨call.applied, fun empty => ?_⟩
    -- a call that is handled writes its context at least
    have nothing := List.map_eq_nil_iff.mp empty
    rw [nothing] at ends
    cases ends
  case addressed =>
    intro write member
    obtain ⟨effect, -, rfl⟩ := List.mem_map.mp member
    exact running
  case pending =>
    intro write member seen same
    obtain ⟨effect, called, rfl⟩ := List.mem_map.mp member
    exact call.seen seen (same ▸ called)
  case last =>
    intro write isLast
    have ended : (List.map (fun effect => (⟨threadId, turnId, effect⟩ : BridgeWrite))
        (handleToolCall library context toolName arguments renders).effects).getLast? =
          some ⟨threadId, turnId, .context (handleToolCall library context toolName arguments renders).context⟩ := by
      rw [List.getLast?_map, ends]
      rfl
    obtain rfl := Option.some.inj (isLast.symm.trans ended)
    exact ⟨_, rfl, rfl⟩
  case unopened =>
    rintro (registered | ⟨thread, threaded⟩)
    · rw [running] at registered
      cases registered
    · rw [running] at threaded
      cases threaded
  case planned =>
    intro plan returned
    have none : run.phase.plan? = some plan := returned
    rw [running] at none
    cases none

theorem threadStarted (staged : Staged run ledger) (registered : run.phase = .registered) (threadId : String)
    {bridge : BridgeState} (same : bridge.turnContexts = run.bridge.turnContexts) :
    Staged { run with bridge := bridge, phase := .threaded threadId } ledger := by
  have nothing : ∀ {write}, write ∈ run.writes → False := fun {write} member => by
    have running := staged.addressed write member
    rw [registered] at running
    cases running
  have moved := staged.sameContexts same
  constructor
  case only =>
    intro key context found
    have turn := moved.only key context found
    rw [registered] at turn
    exact turn
  case opened =>
    intro _ _ running
    cases running
  case context => exact moved.context
  case addressed => exact fun write member => (nothing member).elim
  case pending => exact fun write member => (nothing member).elim
  case last => exact moved.last
  case unopened => exact fun _ => staged.unopened (.inl registered)
  case planned =>
    intro plan returned
    cases returned

/-- A turn is opened with nothing applied. -/
theorem turnStarted (staged : Staged run ledger) {threadId turnId : String} (threaded : run.phase = .threaded threadId)
    {bridge : BridgeState} (same : bridge.turnContexts = run.bridge.turnContexts) (context : TurnContext)
    (fresh : context.appliedOperations = []) :
    Staged { run with bridge := bridge.openTurn threadId turnId context, phase := .running threadId turnId } ledger := by
  have empty : ledger = [] := staged.unopened (.inr ⟨threadId, threaded⟩)
  have idle : run.writes = [] := staged.idle fun _ _ running => by
    rw [threaded] at running
    cases running
  have lookup : ∀ key other, (bridge.openTurn threadId turnId context).turnContexts.get? key = some other →
      key = (threadId, turnId) ∧ other = context := by
    intro key other found
    unfold BridgeState.openTurn at found
    rw [Dict.get?_set] at found
    split_ifs at found with here
    · exact ⟨here, (Option.some.inj found).symm⟩
    · rw [same] at found
      have turn := staged.only key other found
      rw [threaded] at turn
      cases turn
  constructor
  case only =>
    intro key other found
    rw [(lookup key other found).1]
    rfl
  case opened =>
    intro otherThread otherTurn running
    cases running
    exact Option.isSome_iff_exists.mpr ⟨context, Dict.get?_set_self ..⟩
  case context =>
    intro key other found
    rw [(lookup key other found).2, fresh, empty]
    exact ⟨List.prefix_rfl, fun _ => rfl⟩
  case addressed =>
    intro write member
    have absent : write ∈ run.writes := member
    rw [idle] at absent
    cases absent
  case pending =>
    intro write member
    have absent : write ∈ run.writes := member
    rw [idle] at absent
    cases absent
  case last =>
    intro write isLast
    have absent : run.writes.getLast? = some write := isLast
    rw [idle] at absent
    cases absent
  case unopened =>
    rintro (registered | ⟨thread, other⟩)
    · cases registered
    · cases other
  case planned =>
    intro plan returned
    cases returned

theorem planReturned (staged : Staged run ledger) {threadId turnId : String}
    (running : run.phase = .running threadId turnId) (idle : run.writes = []) {plan finished : AgentPlan}
    (isFinished : turnPlan library request plan (run.bridge.turnContexts.get? (threadId, turnId)) = finished) :
    Staged { run with phase := .planned threadId turnId finished } ledger := by
  have nothing : ∀ {write}, write ∈ run.writes → False := fun member => by
    rw [idle] at member
    cases member
  constructor
  case only =>
    intro key context found
    have turn := staged.only key context found
    rw [running] at turn
    exact turn
  case opened =>
    intro _ _ other
    cases other
  case context => exact staged.context
  case addressed => exact fun write member => (nothing member).elim
  case pending => exact fun write member => (nothing member).elim
  case last => exact staged.last
  case unopened =>
    rintro (other | ⟨_, other⟩)
    · cases other
    · cases other
  case planned =>
    intro returned same
    obtain rfl : finished = returned := Option.some.inj same
    obtain ⟨context, found⟩ := Option.isSome_iff_exists.mp (staged.opened threadId turnId running)
    rw [← isFinished, found, ← (staged.context _ context found).2 idle]
    exact turnPlan_begins library request plan context

theorem leaveTurn_closed (staged : Staged run ledger) (requestId : String) (key : String × String) :
    (leaveTurn requestId run.bridge run.phase).turnContexts.get? key = none := by
  have closed : ∀ threadId turnId, run.phase.turn? = some (threadId, turnId) →
      ((run.bridge.closeTurn threadId turnId).turnContexts.get? key) = none := by
    intro threadId turnId turn
    unfold BridgeState.closeTurn
    rw [Dict.get?_erase]
    split_ifs with here
    · rfl
    · cases found : run.bridge.turnContexts.get? key with
      | none => rfl
      | some context =>
        have same := (staged.only key context found).symm.trans turn
        exact absurd (Option.some.inj same) here
  have unopened : run.phase.turn? = none → run.bridge.turnContexts.get? key = none := by
    intro noTurn
    cases found : run.bridge.turnContexts.get? key with
    | none => rfl
    | some context => cases noTurn.symm.trans (staged.only key context found)
  cases left : run.phase with
  | running threadId turnId | planned threadId turnId =>
    unfold leaveTurn
    dsimp only
    rw [changeActive_turnContexts]
    exact closed threadId turnId (by rw [left]; rfl)
  | registered | threaded | answered | failed => exact unopened (by rw [left]; rfl)

theorem leave (staged : Staged run ledger) (requestId : String) {phase : TurnPhase} (noTurn : phase.turn? = none)
    (same : ∀ plan, phase.plan? = some plan → run.phase.plan? = some plan)
    (done : phase ≠ .registered ∧ ∀ threadId, phase ≠ .threaded threadId) :
    Staged ⟨leaveTurn requestId run.bridge run.phase, phase, []⟩ ledger := by
  have closed := staged.leaveTurn_closed requestId
  constructor
  case only =>
    intro key context found
    cases (closed key).symm.trans found
  case opened =>
    intro threadId turnId running
    have isRunning : phase = .running threadId turnId := running
    rw [isRunning] at noTurn
    cases noTurn
  case context =>
    intro key context found
    cases (closed key).symm.trans found
  case addressed => exact fun write member => nomatch member
  case pending => exact fun write member => nomatch member
  case last => exact fun write isLast => nomatch isLast
  case unopened =>
    rintro (registered | ⟨threadId, threaded⟩)
    · exact absurd registered done.1
    · exact absurd threaded (done.2 threadId)
  case planned => exact fun plan returned => staged.planned plan (same plan returned)

/-- A step may add to the ledger, and takes nothing back. -/
theorem step (staged : Staged run ledger) (tracked : Tracked request run) (event : TurnRunEvent) :
    ∃ after, ledger <+: after ∧ Staged (turnRunStep library request run event) after := by
  have kept : ∀ {next : TurnRun}, Staged next ledger → ∃ after, ledger <+: after ∧ Staged next after :=
    fun next => ⟨ledger, List.prefix_rfl, next⟩
  cases event with
  | status status message =>
    exact kept (staged.sameTurns (sameTurns_setActiveRequestStatus tracked.keyed _ _ _))
  | cancelRequest key reason => exact kept (staged.sameTurns (sameTurns_cancelRequest tracked.keyed key reason))
  | threadStarted threadId =>
    unfold turnRunStep
    dsimp only
    split
    · rename_i registered
      exact kept (staged.threadStarted registered threadId (changeActive_turnContexts ..))
    · exact kept staged
  | turnStarted turnId previewDataUrl previewMimeType previewBytes =>
    unfold turnRunStep
    dsimp only
    split
    · split_ifs
      · exact kept staged
      · rename_i threadId threaded _
        exact kept (staged.turnStarted threaded (changeActive_turnContexts ..) _ rfl)
    · exact kept staged
  | toolCall params renders =>
    unfold turnRunStep
    dsimp only
    split
    · exact staged.toolCall ‹_› ‹_› params renders
    · exact kept staged
  | write =>
    unfold turnRunStep
    dsimp only
    split
    · exact kept staged
    · exact kept (staged.write tracked.keyed ‹_›)
  | planReturned plan =>
    unfold turnRunStep
    dsimp only
    split
    · exact kept (staged.planReturned ‹_› ‹_› rfl)
    · exact kept staged
  | closed =>
    unfold turnRunStep
    dsimp only
    split
    · rename_i threadId turnId plan planned
      have idle : run.writes = [] := staged.idle fun _ _ running => by
        rw [planned] at running
        cases running
      rw [← planned, idle]
      refine kept (staged.leave request.requestId rfl ?_ ⟨by simp, by simp⟩)
      intro returned same
      rw [planned]
      exact same
    · exact kept staged
  | raised =>
    unfold turnRunStep
    dsimp only
    split
    · exact kept staged
    · exact kept (staged.leave request.requestId rfl (fun _ returned => nomatch returned) ⟨by simp, by simp⟩)
  | unregistered =>
    unfold turnRunStep
    dsimp only
    split
    · exact kept (staged.sameContexts (unregisterRequest_turnContexts ..))
    · exact kept (staged.sameContexts (unregisterRequest_turnContexts ..))
    · exact kept staged
  | otherRegistered other =>
    unfold turnRunStep
    dsimp only
    split_ifs
    · exact kept staged
    · exact kept { staged with }
  | otherUnregistered requestId =>
    unfold turnRunStep
    dsimp only
    split_ifs
    · exact kept staged
    · exact kept (staged.sameContexts (unregisterRequest_turnContexts ..))

/-- Nothing is applied in a run that starts. -/
theorem startRun (request : RequestEnvelope) (waiting : List RequestEnvelope) (cancelled : Dict CancelRequestKey String) :
    Staged (startRun request waiting cancelled) [] := by
  have closed : ∀ others : List RequestEnvelope, ∀ state : BridgeState,
      (others.foldl BridgeState.registerRequest state).turnContexts = state.turnContexts := by
    intro others
    induction others with
    | nil => exact fun _ => rfl
    | cons other rest ih => exact fun state => ih (state.registerRequest other)
  have absent : ∀ key context, (Server.startRun request waiting cancelled).bridge.turnContexts.get? key ≠ some context := by
    intro key context found
    have empty : (Server.startRun request waiting cancelled).bridge.turnContexts = .empty := closed waiting _
    rw [empty] at found
    cases found
  constructor
  case only => exact fun key context found => absurd found (absent key context)
  case opened => exact fun _ _ running => nomatch running
  case context => exact fun key context found => absurd found (absent key context)
  case addressed => exact fun _ member => nomatch member
  case pending => exact fun _ member => nomatch member
  case last => exact fun _ isLast => nomatch isLast
  case unopened => exact fun _ => rfl
  case planned => exact fun _ returned => nomatch returned

/-- A snapshot lists a beginning of the ledger, or nothing once the turn is closed. -/
theorem snapshot (staged : Staged run ledger) (key : CancelRequestKey) :
    (run.bridge.getRequestProgress key).operations <+: ledger := by
  unfold BridgeState.getRequestProgress
  cases run.bridge.activeRequests.get? key.requestId with
  | none => exact List.nil_prefix
  | some active =>
    dsimp only
    split_ifs
    · exact List.nil_prefix
    · dsimp only
      cases shown : run.bridge.contextOf active with
      | none => exact List.nil_prefix
      | some context =>
        obtain ⟨threadId, -, turn⟩ := Option.bind_eq_some_iff.mp shown
        obtain ⟨turnId, -, found⟩ := Option.bind_eq_some_iff.mp turn
        exact (staged.context (threadId, turnId) context found).1

end Staged

theorem tracked_startRun (request : RequestEnvelope) (waiting : List RequestEnvelope)
    (cancelled : Dict CancelRequestKey String) : Tracked request (startRun request waiting cancelled) := by
  have registered : ∀ others : List RequestEnvelope, ∀ state, Keyed state →
      Keyed (others.foldl BridgeState.registerRequest state) := by
    intro others
    induction others with
    | nil => exact fun _ keyed => keyed
    | cons other rest ih => exact fun state keyed => ih _ (keyed_registerRequest keyed other)
  have initially : Keyed ⟨.empty, cancelled, .empty⟩ := fun _ _ found => by cases found
  refine ⟨keyed_registerRequest (registered waiting _ initially) request, fun active found => ?_⟩
  have isNew := (Dict.get?_set_self ..).symm.trans found
  rw [← Option.some.inj isNew]
  rfl

/-- The ledger of a run that goes on only grows, so its last state begins with all that was shown on the way. -/
theorem run_staged (staged : Staged run ledger) (tracked : Tracked request run) (events : List TurnRunEvent) :
    ∃ after, ledger <+: after ∧ Staged (Foundation.run (turnRunStep library request) run events) after ∧
      ∀ moment, moment <+: events → ∀ key,
        ((Foundation.run (turnRunStep library request) run moment).bridge.getRequestProgress key).operations <+: after := by
  induction events generalizing run ledger with
  | nil =>
    refine ⟨ledger, List.prefix_rfl, staged, fun moment first key => ?_⟩
    rw [List.prefix_nil.mp first]
    exact staged.snapshot key
  | cons event rest ih =>
    obtain ⟨middle, grows, next⟩ := staged.step tracked event
    obtain ⟨after, growsOn, last, shown⟩ := ih next (tracked.step event)
    refine ⟨after, grows.trans growsOn, last, fun moment first key => ?_⟩
    cases moment with
    | nil => exact (staged.snapshot key).trans (grows.trans growsOn)
    | cons here later =>
      obtain ⟨rfl, within⟩ := List.cons_prefix_cons.mp first
      exact shown later within key

end Ledger

section Snapshots

variable (library : ToolLibrary) (request : RequestEnvelope) (waiting : List RequestEnvelope)
  (cancelled : Dict CancelRequestKey String)

/-- The run of a request up to some moment. -/
def runTo (events : List TurnRunEvent) : TurnRun :=
  Foundation.run (turnRunStep library request) (startRun request waiting cancelled) events

/-- What a client that asks at some moment of the run is shown. -/
def snapshotAt (events : List TurnRunEvent) : RequestProgressPayload :=
  (runTo library request waiting cancelled events).bridge.getRequestProgress (cancelKeyOf request)

/-- One list begins with all that is shown in a run, and the plan begins with it. -/
theorem snapshots_begin (events : List TurnRunEvent) : ∃ ledger : List OperationDict,
    (∀ moment, moment <+: events → (snapshotAt library request waiting cancelled moment).operations <+: ledger) ∧
      ∀ plan, (runTo library request waiting cancelled events).phase.plan? = some plan →
        ledger.map (fun dict => plannedEdit dict.operation) <+: plan.operations.map plannedEdit := by
  obtain ⟨ledger, -, staged, shown⟩ := run_staged (Staged.startRun request waiting cancelled)
    (tracked_startRun request waiting cancelled) events
  exact ⟨ledger, fun moment first => shown moment first _, staged.planned⟩

end Snapshots

end DarktableAgent.Server
