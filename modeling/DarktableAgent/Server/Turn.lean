import DarktableAgent.Server.RequestState

/-! The run of one request through the bridge, write by write.

The run holds the bridge's lock, so no other turn is open. Readers, cancellations and
other requests that wait for the lock come in between any two writes. What render
callbacks deliver is an argument of the tool call that waits for it.
-/

set_option autoImplicit false

namespace DarktableAgent.Server

open Foundation Protocol

/-- How far `plan` and `_run_turn_locked` are. -/
inductive TurnPhase where
  | registered
  | threaded (threadId : String)
  | running (threadId turnId : String)
  | planned (threadId turnId : String) (plan : AgentPlan)
  | answered (plan : AgentPlan)
  | failed

structure TurnRun where
  bridge : BridgeState
  phase : TurnPhase
  -- what the tool call under way has still to write
  writes : List BridgeWrite

inductive TurnRunEvent where
  -- the run itself
  | status (status message : String)
  | threadStarted (threadId : String)
  | turnStarted (turnId previewDataUrl previewMimeType : String) (previewBytes : Bytes)
  | toolCall (params : JsonObject) (renders : Nat → Option Bytes)
  | write
  | planReturned (plan : AgentPlan)
  | closed
  | raised
  | unregistered
  -- other threads
  | cancelRequest (key : CancelRequestKey) (reason : Option String)
  | otherRegistered (request : RequestEnvelope)
  | otherUnregistered (requestId : String)

namespace BridgeState

variable (state : BridgeState)

/-- The fields of its entry that the run assigns without going through a status note. -/
def changeActive (requestId : String) (change : ActiveRequestState → ActiveRequestState) : BridgeState :=
  match state.activeRequests.get? requestId with
  | none => state
  | some active => { state with activeRequests := state.activeRequests.set requestId (change active) }

/-- `_register_turn_context` -/
def openTurn (threadId turnId : String) (context : TurnContext) : BridgeState :=
  { state with turnContexts := state.turnContexts.set (threadId, turnId) context }

/-- `_clear_turn_context` -/
def closeTurn (threadId turnId : String) : BridgeState :=
  { state with turnContexts := state.turnContexts.erase (threadId, turnId) }

end BridgeState

def leaveTurn (requestId : String) (bridge : BridgeState) : TurnPhase → BridgeState
  | .running threadId turnId | .planned threadId turnId _ =>
    (bridge.closeTurn threadId turnId).changeActive requestId fun active => { active with codexTurnId := none }
  | .registered | .threaded _ | .answered _ | .failed => bridge

section Step

variable (library : ToolLibrary) (request : RequestEnvelope)

/-- An event that cannot happen now changes nothing. -/
def turnRunStep (run : TurnRun) : TurnRunEvent → TurnRun
  | .status status message =>
    { run with bridge := run.bridge.setActiveRequestStatus request.requestId status (some message) }
  | .threadStarted threadId =>
    match run.phase with
    | .registered => { run with
        bridge := run.bridge.changeActive request.requestId fun active => { active with threadId := some threadId }
        phase := .threaded threadId }
    | _ => run
  | .turnStarted turnId previewDataUrl previewMimeType previewBytes =>
    match run.phase with
    | .threaded threadId =>
      if turnId = "" then run
      else
        let context := registerTurnContext request previewDataUrl previewMimeType previewBytes
        let bridge := run.bridge.changeActive request.requestId fun active => { active with codexTurnId := some turnId }
        { run with bridge := bridge.openTurn threadId turnId context, phase := .running threadId turnId }
    | _ => run
  | .toolCall params renders =>
    match run.phase, run.writes with
    | .running _ _, [] => { run with writes := (handleDynamicToolCall library run.bridge params renders).2 }
    | _, _ => run
  | .write =>
    match run.writes with
    | [] => run
    | write :: rest => { run with bridge := run.bridge.write write, writes := rest }
  | .planReturned plan =>
    match run.phase, run.writes with
    | .running threadId turnId, [] =>
      let finished := turnPlan library request plan (run.bridge.turnContexts.get? (threadId, turnId))
      { run with phase := .planned threadId turnId finished }
    | _, _ => run
  | .closed =>
    match run.phase with
    | .planned threadId turnId plan => { run with
        bridge := leaveTurn request.requestId run.bridge (.planned threadId turnId plan)
        phase := .answered plan }
    | _ => run
  | .raised =>
    match run.phase with
    | .answered _ => run
    | phase =>
      { bridge := leaveTurn request.requestId run.bridge phase, phase := .failed, writes := [] }
  | .unregistered =>
    match run.phase with
    | .answered _ | .failed => { run with bridge := run.bridge.unregisterRequest request.requestId }
    | _ => run
  | .cancelRequest key reason => { run with bridge := (run.bridge.cancelRequest key reason).1 }
  | .otherRegistered other =>
    if other.requestId = request.requestId then run else { run with bridge := run.bridge.registerRequest other }
  | .otherUnregistered requestId =>
    if requestId = request.requestId then run else { run with bridge := run.bridge.unregisterRequest requestId }

/-- The run of a request that was registered while others wait and no turn is open. -/
def startRun (waiting : List RequestEnvelope) (cancelled : Dict CancelRequestKey String) : TurnRun where
  bridge := (waiting.foldl BridgeState.registerRequest ⟨.empty, cancelled, .empty⟩).registerRequest request
  phase := .registered
  writes := []

end Step

section Calls

variable (library : ToolLibrary) (context : TurnContext)

/-- What a call lets others see extends what was applied before it and begins what is applied after it. -/
structure Extends (before after : TurnContext) (effects : List LiveEffect) : Prop where
  applied : before.appliedOperations <+: after.appliedOperations
  seen : ∀ seen, .context seen ∈ effects → seen.appliedOperations <+: after.appliedOperations

theorem Extends.quiet : Extends context context [] := ⟨List.prefix_rfl, fun _ member => nomatch member⟩

theorem applyOperationsToolCall_extends (arguments : JsonObject) (renders : Nat → Option Bytes) :
    Extends context (applyOperationsToolCall library context arguments renders).context
      (applyOperationsToolCall library context arguments renders).effects := by
  rcases applyOperationsToolCall_cases library context arguments renders with
    ⟨-, unchanged, nothing⟩ | ⟨prepared, settings, -, -, -, -, batch, rfl, left, effects⟩
  · rw [unchanged, nothing]
    exact Extends.quiet context
  · rw [left, effects]
    obtain ⟨applied, seen⟩ := runLiveBatch_prefix library renders
      (orderOperationsForApply library.lower prepared.normalizedBatch).length 1 context
      (orderOperationsForApply library.lower prepared.normalizedBatch)
    exact ⟨applied, seen⟩

theorem callTool_extends (guardrailError : Option String) (toolName : String) (arguments : JsonObject)
    (renders : Nat → Option Bytes) :
    Extends context (callTool library context guardrailError toolName arguments renders).1.context
      (callTool library context guardrailError toolName arguments renders).1.effects := by
  unfold callTool
  cases guardrailError with
  | some text => exact Extends.quiet context
  | none =>
    dsimp only
    unfold dispatchTool
    split_ifs
    · exact Extends.quiet context
    · exact Extends.quiet context
    · exact Extends.quiet context
    · exact applyOperationsToolCall_extends library context arguments renders
    · exact Extends.quiet context

/-- The last thing a call writes is the context it leaves. -/
theorem handleToolCall_extends (toolName : String) (arguments : JsonObject) (renders : Nat → Option Bytes) :
    Extends context (handleToolCall library context toolName arguments renders).context
        (handleToolCall library context toolName arguments renders).effects ∧
      (handleToolCall library context toolName arguments renders).effects.getLast? =
        some (.context (handleToolCall library context toolName arguments renders).context) := by
  obtain ⟨counted, isCounted⟩ : ∃ counted, registerToolCallProgress library context toolName = counted := ⟨_, rfl⟩
  have sameCounted := registerToolCallProgress_sameEdits library context toolName
  rw [isCounted] at sameCounted
  have called := callTool_extends library counted.1 counted.2 toolName arguments renders
  obtain ⟨run, isRun⟩ : ∃ run, callTool library counted.1 counted.2 toolName arguments renders = run := ⟨_, rfl⟩
  rw [isRun] at called
  have sameRendered := awaitLateRender_sameEdits library run.1.context toolName run.1.response (renders 0)
  have applied : counted.1.appliedOperations <+: run.1.context.appliedOperations := called.applied
  unfold handleToolCall
  simp only [isCounted, isRun]
  refine ⟨⟨?_, ?_⟩, ?_⟩
  · rw [sameRendered.appliedOperations, ← sameCounted.appliedOperations]
    exact applied
  · intro seen member
    rw [sameRendered.appliedOperations]
    simp only [List.cons_append, List.mem_cons, List.mem_append, LiveEffect.context.injEq, reduceCtorEq, false_or,
      List.not_mem_nil, or_false] at member
    rcases member with rfl | member | rfl
    · exact applied
    · exact called.seen seen member
    · exact ⟨[], by rw [List.append_nil, sameRendered.appliedOperations]⟩
  · rw [List.cons_append, List.append_cons, ← List.cons_append]
    exact List.getLast?_concat

end Calls

section Entries

variable {state after : BridgeState}

/-- Every entry stands under the request id it was made for. -/
def Keyed (state : BridgeState) : Prop :=
  ∀ requestId active, state.activeRequests.get? requestId = some active → active.cancelKey.requestId = requestId

/-- The turn that an entry belongs to. -/
def ActiveRequestState.turn (active : ActiveRequestState) : CancelRequestKey × Option String × Option String :=
  (active.cancelKey, active.threadId, active.codexTurnId)

/-- No entry has changed its turn, and no context has changed. -/
structure SameTurns (before after : BridgeState) : Prop where
  turn : ∀ requestId, (after.activeRequests.get? requestId).map ActiveRequestState.turn =
    (before.activeRequests.get? requestId).map ActiveRequestState.turn
  turnContexts : after.turnContexts = before.turnContexts

theorem SameTurns.refl (state : BridgeState) : SameTurns state state := ⟨fun _ => rfl, rfl⟩

theorem SameTurns.keyed (same : SameTurns state after) (keyed : Keyed state) : Keyed after := by
  intro requestId active found
  have turn := same.turn requestId
  rw [found] at turn
  cases before : state.activeRequests.get? requestId with
  | none =>
    rw [before] at turn
    cases turn
  | some original =>
    rw [before] at turn
    have sameKey : active.cancelKey = original.cancelKey := congrArg Prod.fst (Option.some.inj turn)
    rw [sameKey]
    exact keyed requestId original before

/-- A status note on an entry. -/
theorem sameTurns_setActive (keyed : Keyed state) {requestId : String} {active changed : ActiveRequestState}
    (found : state.activeRequests.get? requestId = some active) (same : changed.turn = active.turn) :
    SameTurns state (state.setActive changed) := by
  have sameKey : changed.cancelKey = active.cancelKey := congrArg Prod.fst same
  refine ⟨fun other => ?_, rfl⟩
  unfold BridgeState.setActive
  rw [sameKey, keyed requestId active found, Dict.get?_set]
  split_ifs with here
  · rw [here, found]
    exact congrArg some same
  · rfl

theorem sameTurns_setActiveRequestStatus (keyed : Keyed state) (requestId status : String) (message : Option String) :
    SameTurns state (state.setActiveRequestStatus requestId status message) := by
  unfold BridgeState.setActiveRequestStatus
  cases found : state.activeRequests.get? requestId with
  | none => exact .refl state
  | some active => exact sameTurns_setActive keyed found rfl

theorem sameTurns_setStatusForTurn (keyed : Keyed state) (threadId turnId message lastToolName : String) :
    SameTurns state (state.setStatusForTurn threadId turnId message lastToolName) := by
  unfold BridgeState.setStatusForTurn
  dsimp only
  split
  · exact .refl state
  · rename_i requestId active first
    have found : state.activeRequests.get? requestId = some active :=
      Dict.get?_of_mem (List.mem_of_find?_eq_some first)
    exact sameTurns_setActive keyed found rfl

theorem sameTurns_cancelRequest (keyed : Keyed state) (key : CancelRequestKey) (reason : Option String) :
    SameTurns state (state.cancelRequest key reason).1 := by
  unfold BridgeState.cancelRequest
  dsimp only
  cases found : state.activeRequests.get? key.requestId with
  | none => exact ⟨fun _ => rfl, rfl⟩
  | some active =>
    dsimp only
    split_ifs
    · exact ⟨(sameTurns_setActive (show Keyed { state with cancelledRequests := _ } from keyed) found (by rfl)).turn,
        rfl⟩
    · exact ⟨fun _ => rfl, rfl⟩

end Entries

section Tracking

variable {state : BridgeState} {request : RequestEnvelope} {run : TurnRun}

def TurnPhase.turn? : TurnPhase → Option (String × String)
  | .running threadId turnId | .planned threadId turnId _ => some (threadId, turnId)
  | .registered | .threaded _ | .answered _ | .failed => none

def TurnPhase.plan? : TurnPhase → Option AgentPlan
  | .planned _ _ plan | .answered plan => some plan
  | .registered | .threaded _ | .running _ _ | .failed => none

/-- What the entry of the request says about its turn. -/
def TurnPhase.Names (phase : TurnPhase) (active : ActiveRequestState) : Prop :=
  match phase with
  | .threaded threadId => active.threadId = some threadId ∧ active.codexTurnId = none
  | .running threadId turnId | .planned threadId turnId _ =>
    active.threadId = some threadId ∧ active.codexTurnId = some turnId
  | .registered | .answered _ | .failed => active.codexTurnId = none

theorem TurnPhase.names_of_turn {phase : TurnPhase} {active changed : ActiveRequestState} (names : phase.Names active)
    (same : changed.turn = active.turn) : phase.Names changed := by
  have thread : changed.threadId = active.threadId := congrArg (·.2.1) same
  have turn : changed.codexTurnId = active.codexTurnId := congrArg (·.2.2) same
  unfold Names at names ⊢
  rw [thread, turn]
  exact names

structure Tracked (request : RequestEnvelope) (run : TurnRun) : Prop where
  keyed : Keyed run.bridge
  named : ∀ active, run.bridge.activeRequests.get? request.requestId = some active → run.phase.Names active

theorem keyed_set {requestId : String} {active : ActiveRequestState} (keyed : Keyed state)
    (named : active.cancelKey.requestId = requestId) :
    Keyed { state with activeRequests := state.activeRequests.set requestId active } := by
  intro other found member
  rw [Dict.get?_set] at member
  split_ifs at member with here
  · rw [here, ← Option.some.inj member]
    exact named
  · exact keyed other found member

/-- The run assigns to its own entry. -/
theorem Tracked.changeActive (tracked : Tracked request run) {change : ActiveRequestState → ActiveRequestState}
    (sameKey : ∀ active, (change active).cancelKey = active.cancelKey) {phase : TurnPhase}
    (names : ∀ active, run.phase.Names active → phase.Names (change active)) {writes : List BridgeWrite}
    {turnContexts : Dict (String × String) TurnContext} :
    Tracked request
      ⟨{ run.bridge.changeActive request.requestId change with turnContexts }, phase, writes⟩ := by
  unfold BridgeState.changeActive
  cases found : run.bridge.activeRequests.get? request.requestId with
  | none =>
    refine ⟨tracked.keyed, fun active member => ?_⟩
    have absent : run.bridge.activeRequests.get? request.requestId = some active := member
    rw [found] at absent
    cases absent
  | some active =>
    refine ⟨?_, fun changed member => ?_⟩
    · have named : (change active).cancelKey.requestId = request.requestId := by
        rw [sameKey]
        exact tracked.keyed _ _ found
      exact keyed_set tracked.keyed named
    · have isChanged : (run.bridge.activeRequests.set request.requestId (change active)).get? request.requestId =
          some changed := member
      rw [Dict.get?_set_self] at isChanged
      rw [← Option.some.inj isChanged]
      exact names active (tracked.named active found)

theorem Tracked.sameTurns (tracked : Tracked request run) {after : BridgeState} (same : SameTurns run.bridge after)
    {writes : List BridgeWrite} : Tracked request ⟨after, run.phase, writes⟩ := by
  refine ⟨same.keyed tracked.keyed, fun active found => ?_⟩
  have turn := same.turn request.requestId
  have isFound : after.activeRequests.get? request.requestId = some active := found
  rw [isFound] at turn
  cases before : run.bridge.activeRequests.get? request.requestId with
  | none =>
    rw [before] at turn
    cases turn
  | some original =>
    rw [before] at turn
    exact TurnPhase.names_of_turn (tracked.named original before) (Option.some.inj turn)

theorem keyed_erase (keyed : Keyed state) (requestId : String) :
    Keyed { state with activeRequests := state.activeRequests.erase requestId } := by
  intro other active found
  rw [Dict.get?_erase] at found
  split_ifs at found
  exact keyed other active found

theorem keyed_registerRequest (keyed : Keyed state) (other : RequestEnvelope) : Keyed (state.registerRequest other) :=
  keyed_set keyed rfl

theorem keyed_unregisterRequest (keyed : Keyed state) (requestId : String) :
    Keyed (state.unregisterRequest requestId) := by
  unfold BridgeState.unregisterRequest
  cases state.activeRequests.get? requestId with
  | none => exact keyed
  | some active => exact keyed_erase keyed requestId

theorem get?_unregisterRequest (state : BridgeState) (requestId other : String) :
    (state.unregisterRequest requestId).activeRequests.get? other =
      if other = requestId then none else state.activeRequests.get? other := by
  unfold BridgeState.unregisterRequest
  cases found : state.activeRequests.get? requestId with
  | none =>
    split_ifs with same
    · rw [same]
      exact found
    · rfl
  | some active => exact Dict.get?_erase ..

end Tracking

section Steps

variable {library : ToolLibrary} {request : RequestEnvelope} {run : TurnRun}

theorem handleDynamicToolCall_writes (library : ToolLibrary) (state : BridgeState) (params : JsonObject)
    (renders : Nat → Option Bytes) :
    (handleDynamicToolCall library state params renders).2 = [] ∨
      ∃ threadId turnId context toolName arguments, state.turnContexts.get? (threadId, turnId) = some context ∧
        (handleDynamicToolCall library state params renders).2 =
          (handleToolCall library context toolName arguments renders).effects.map (⟨threadId, turnId, ·⟩) := by
  unfold handleDynamicToolCall
  split
  · split
    · split
      · exact .inl rfl
      · split
        · exact .inl rfl
        · exact .inr ⟨_, _, _, _, _, ‹_›, rfl⟩
    · exact .inl rfl
  · exact .inl rfl

theorem changeActive_turnContexts (state : BridgeState) (requestId : String)
    (change : ActiveRequestState → ActiveRequestState) :
    (state.changeActive requestId change).turnContexts = state.turnContexts := by
  unfold BridgeState.changeActive
  cases state.activeRequests.get? requestId <;> rfl

theorem unregisterRequest_turnContexts (state : BridgeState) (requestId : String) :
    (state.unregisterRequest requestId).turnContexts = state.turnContexts := by
  unfold BridgeState.unregisterRequest
  cases state.activeRequests.get? requestId <;> rfl

theorem closeTurn_changeActive (state : BridgeState) (threadId turnId requestId : String)
    (change : ActiveRequestState → ActiveRequestState) :
    (state.closeTurn threadId turnId).changeActive requestId change =
      (state.changeActive requestId change).closeTurn threadId turnId := by
  unfold BridgeState.closeTurn BridgeState.changeActive
  dsimp only
  cases state.activeRequests.get? requestId <;> rfl

theorem sameTurns_status (keyed : Keyed run.bridge) (threadId turnId message lastToolName : String) :
    SameTurns run.bridge (run.bridge.write ⟨threadId, turnId, .status message lastToolName⟩) :=
  sameTurns_setStatusForTurn keyed threadId turnId message lastToolName

/-- A turn that is left is named by no entry any more. -/
theorem Tracked.leave (tracked : Tracked request run) {phase : TurnPhase}
    (names : ∀ active : ActiveRequestState, active.codexTurnId = none → phase.Names active)
    {writes : List BridgeWrite} :
    Tracked request ⟨leaveTurn request.requestId run.bridge run.phase, phase, writes⟩ := by
  cases left : run.phase with
  | running threadId turnId =>
    unfold leaveTurn
    dsimp only
    rw [closeTurn_changeActive]
    refine tracked.changeActive ?_ ?_
    · exact fun _ => rfl
    · exact fun _ _ => names _ rfl
  | planned threadId turnId plan =>
    unfold leaveTurn
    dsimp only
    rw [closeTurn_changeActive]
    refine tracked.changeActive ?_ ?_
    · exact fun _ => rfl
    · exact fun _ _ => names _ rfl
  | threaded threadId =>
    refine ⟨tracked.keyed, fun active found => names active ?_⟩
    have named := tracked.named active found
    rw [left] at named
    exact named.2
  | registered | answered | failed =>
    refine ⟨tracked.keyed, fun active found => names active ?_⟩
    have named := tracked.named active found
    rw [left] at named
    exact named

theorem Tracked.step (tracked : Tracked request run) (event : TurnRunEvent) :
    Tracked request (turnRunStep library request run event) := by
  cases event with
  | status status message => exact tracked.sameTurns (sameTurns_setActiveRequestStatus tracked.keyed _ _ _)
  | threadStarted threadId =>
    unfold turnRunStep
    dsimp only
    cases phase : run.phase with
    | registered =>
      refine tracked.changeActive ?_ ?_
      · exact fun _ => rfl
      · intro active names
        rw [phase] at names
        exact ⟨rfl, names⟩
    | _ => exact tracked
  | turnStarted turnId previewDataUrl previewMimeType previewBytes =>
    unfold turnRunStep
    dsimp only
    cases phase : run.phase with
    | threaded threadId =>
      dsimp only
      split_ifs
      · exact tracked
      · refine tracked.changeActive ?_ ?_
        · exact fun _ => rfl
        · intro active names
          rw [phase] at names
          exact ⟨names.1, rfl⟩
    | _ => exact tracked
  | toolCall params renders =>
    unfold turnRunStep
    dsimp only
    split
    · exact { tracked with }
    · exact tracked
  | write =>
    unfold turnRunStep
    dsimp only
    split
    · exact tracked
    · rename_i write rest _
      obtain ⟨threadId, turnId, effect⟩ := write
      cases effect with
      | context context => exact { tracked with }
      | status message lastToolName =>
        exact tracked.sameTurns (sameTurns_status tracked.keyed threadId turnId message lastToolName)
  | planReturned plan =>
    unfold turnRunStep
    dsimp only
    split
    · rename_i threadId turnId running _
      refine ⟨tracked.keyed, fun active found => ?_⟩
      have named := tracked.named active found
      rw [running] at named
      exact named
    · exact tracked
  | closed =>
    unfold turnRunStep
    dsimp only
    cases phase : run.phase with
    | planned threadId turnId plan =>
      dsimp only
      rw [← phase]
      refine tracked.leave ?_
      exact fun _ free => free
    | _ => exact tracked
  | raised =>
    unfold turnRunStep
    dsimp only
    split
    · exact tracked
    · refine tracked.leave ?_
      exact fun _ free => free
  | unregistered =>
    have gone : Tracked request { run with bridge := run.bridge.unregisterRequest request.requestId } := by
      refine ⟨keyed_unregisterRequest tracked.keyed _, fun active found => ?_⟩
      have absent := get?_unregisterRequest run.bridge request.requestId request.requestId
      rw [if_pos rfl] at absent
      cases absent.symm.trans found
    unfold turnRunStep
    dsimp only
    split
    · exact gone
    · exact gone
    · exact tracked
  | cancelRequest key reason => exact tracked.sameTurns (sameTurns_cancelRequest tracked.keyed key reason)
  | otherRegistered other =>
    unfold turnRunStep
    dsimp only
    split_ifs with own
    · exact tracked
    · refine ⟨keyed_registerRequest tracked.keyed other, fun active found => tracked.named active ?_⟩
      rw [← found]
      exact (Dict.get?_set_ne (Ne.symm own)).symm
  | otherUnregistered requestId =>
    unfold turnRunStep
    dsimp only
    split_ifs with own
    · exact tracked
    · refine ⟨keyed_unregisterRequest tracked.keyed requestId, fun active found => tracked.named active ?_⟩
      have unchanged := get?_unregisterRequest run.bridge requestId request.requestId
      rw [if_neg (Ne.symm own)] at unchanged
      exact unchanged.symm.trans found

end Steps

end DarktableAgent.Server
