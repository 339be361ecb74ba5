import DarktableAgent.Server.Ledger

/-! Where a running turn looks at its cancel flag.

The loop of the turn looks before it reads a message and not again until the message
is handled: a batch that is being applied is applied to its end. A cancellation holds
what is applied where it is when it meets nothing that is still to be appended.
-/

set_option autoImplicit false

namespace DarktableAgent.Server

open Foundation Protocol

structure CheckedRun where
  run : TurnRun
  -- the loop has looked at the flag, and goes on to read and handle one message
  passed : Bool

inductive CheckedEvent where
  | check
  | event (event : TurnRunEvent)

/-- `_is_cancelled`, for the request of the run. -/
def TurnRun.flagged (request : RequestEnvelope) (run : TurnRun) : Bool :=
  (run.bridge.activeRequests.get? request.requestId).any (·.cancelled)

/-- What has been applied live in the open turn. -/
def TurnRun.applied (run : TurnRun) : List OperationDict :=
  (run.phase.turn?.bind run.bridge.turnContexts.get?).elim [] (·.appliedOperations)

section Step

variable (library : ToolLibrary) (request : RequestEnvelope)

/-- A tool call is handled behind a check that passed. The other steps do not look at the flag. -/
def checkedStep (state : CheckedRun) : CheckedEvent → CheckedRun
  | .check =>
    match state.run.phase, state.run.writes with
    | .registered, [] | .threaded _, [] | .running _ _, [] =>
      if state.run.flagged request then { run := turnRunStep library request state.run .raised, passed := false }
      else { state with passed := true }
    | _, _ => state
  | .event (.toolCall params renders) =>
    if state.passed then
      { run := turnRunStep library request state.run (.toolCall params renders), passed := false }
    else state
  | .event (.turnStarted turnId previewDataUrl previewMimeType previewBytes) =>
    -- the first check of the loop comes after the start of the turn
    { run := turnRunStep library request state.run (.turnStarted turnId previewDataUrl previewMimeType previewBytes)
      passed := false }
  | .event event => { state with run := turnRunStep library request state.run event }

def checkedStart (waiting : List RequestEnvelope) (cancelled : Dict CancelRequestKey String) : CheckedRun :=
  ⟨startRun request waiting cancelled, false⟩

/-- The effect shows a beginning of the list. -/
def LiveEffect.Within (applied : List OperationDict) : LiveEffect → Prop
  | .context seen => seen.appliedOperations <+: applied
  | .status _ _ => True

instance (applied : List OperationDict) : (effect : LiveEffect) → Decidable (effect.Within applied)
  | .context seen => inferInstanceAs (Decidable (seen.appliedOperations <+: applied))
  | .status _ _ => inferInstanceAs (Decidable True)

/-- The writes append nothing to what the turn has applied. -/
def AppendsNothing (run : TurnRun) (writes : List BridgeWrite) : Prop :=
  ∀ write ∈ writes, write.effect.Within run.applied

instance (run : TurnRun) (writes : List BridgeWrite) : Decidable (AppendsNothing run writes) :=
  inferInstanceAs (Decidable (∀ write ∈ writes, write.effect.Within run.applied))

/-- A cancellation of the request meets no call with operations left to append, and no call that
appends is handled behind a check that the cancellation came too late for. -/
def Uninterrupted (state : CheckedRun) : CheckedEvent → Prop
  | .event (.cancelRequest key _) => key = cancelKeyOf request → AppendsNothing state.run state.run.writes
  | .event (.toolCall params renders) => state.passed = true → state.run.flagged request = true →
      AppendsNothing state.run (handleDynamicToolCall library state.run.bridge params renders).2
  | _ => True

instance (state : CheckedRun) : (event : CheckedEvent) → Decidable (Uninterrupted library request state event)
  | .event (.cancelRequest key _) =>
    inferInstanceAs (Decidable (key = cancelKeyOf request → AppendsNothing state.run state.run.writes))
  | .event (.toolCall params renders) =>
    inferInstanceAs (Decidable (state.passed = true → state.run.flagged request = true →
      AppendsNothing state.run (handleDynamicToolCall library state.run.bridge params renders).2))
  | .check | .event (.status ..) | .event (.threadStarted _) | .event (.turnStarted ..) | .event .write
  | .event (.planReturned _) | .event .closed | .event .raised | .event .unregistered | .event (.otherRegistered _)
  | .event (.otherUnregistered _) => inferInstanceAs (Decidable True)

end Step

section Flags

variable {request : RequestEnvelope} {state after : BridgeState}

/-- The entry of the request, while there is one, stays flagged. -/
def FlagKept (request : RequestEnvelope) (before after : BridgeState) : Prop :=
  ∀ changed, after.activeRequests.get? request.requestId = some changed →
    ∃ active, before.activeRequests.get? request.requestId = some active ∧
      (active.cancelled = true → changed.cancelled = true)

theorem FlagKept.of_same (same : after.activeRequests.get? request.requestId =
    state.activeRequests.get? request.requestId) : FlagKept request state after :=
  fun changed found => ⟨changed, same ▸ found, id⟩

theorem flagKept_setActive (keyed : Keyed state) {requestId : String} {active changed : ActiveRequestState}
    (found : state.activeRequests.get? requestId = some active) (same : changed.cancelKey = active.cancelKey)
    (flag : active.cancelled = true → changed.cancelled = true) : FlagKept request state (state.setActive changed) := by
  intro entry member
  unfold BridgeState.setActive at member
  rw [same, keyed requestId active found, Dict.get?_set] at member
  split_ifs at member with own
  · obtain rfl := Option.some.inj member
    exact ⟨active, own ▸ found, flag⟩
  · exact ⟨entry, member, id⟩

theorem flagKept_setActiveRequestStatus (keyed : Keyed state) (requestId status : String) (message : Option String) :
    FlagKept request state (state.setActiveRequestStatus requestId status message) := by
  unfold BridgeState.setActiveRequestStatus
  cases found : state.activeRequests.get? requestId with
  | none => exact .of_same rfl
  | some active => exact flagKept_setActive keyed found rfl id

theorem flagKept_setStatusForTurn (keyed : Keyed state) (threadId turnId message lastToolName : String) :
    FlagKept request state (state.setStatusForTurn threadId turnId message lastToolName) := by
  unfold BridgeState.setStatusForTurn
  dsimp only
  split
  · exact .of_same rfl
  · rename_i requestId active first
    have found : state.activeRequests.get? requestId = some active :=
      Dict.get?_of_mem (List.mem_of_find?_eq_some first)
    exact flagKept_setActive keyed found rfl id

theorem flagKept_cancelRequest (keyed : Keyed state) (key : CancelRequestKey) (reason : Option String) :
    FlagKept request state (state.cancelRequest key reason).1 := by
  unfold BridgeState.cancelRequest
  dsimp only
  cases found : state.activeRequests.get? key.requestId with
  | none => exact .of_same rfl
  | some active =>
    dsimp only
    split_ifs
    · intro changed member
      have noted : Keyed { state with cancelledRequests := _ } := keyed
      exact flagKept_setActive noted found (by rfl) (fun _ => rfl) changed member
    · exact .of_same rfl

theorem SameTurns.present (same : SameTurns state after)
    (present : (state.activeRequests.get? request.requestId).isSome) :
    (after.activeRequests.get? request.requestId).isSome := by
  have turn := congrArg Option.isSome (same.turn request.requestId)
  rw [Option.isSome_map, Option.isSome_map] at turn
  rw [turn]
  exact present

theorem changeActive_present (requestId : String) (change : ActiveRequestState → ActiveRequestState)
    (present : (state.activeRequests.get? request.requestId).isSome) :
    ((state.changeActive requestId change).activeRequests.get? request.requestId).isSome := by
  unfold BridgeState.changeActive
  split
  · exact present
  · dsimp only
    rw [Dict.get?_set]
    split_ifs
    · rfl
    · exact present

theorem flagKept_changeActive {change : ActiveRequestState → ActiveRequestState}
    (flag : ∀ active, (change active).cancelled = active.cancelled) :
    FlagKept request state (state.changeActive request.requestId change) := by
  unfold BridgeState.changeActive
  cases found : state.activeRequests.get? request.requestId with
  | none => exact .of_same rfl
  | some active =>
    intro changed member
    have isChanged := (Dict.get?_set_self ..).symm.trans member
    obtain rfl := Option.some.inj isChanged
    exact ⟨active, found, fun flagged => (flag active).trans flagged⟩

theorem flagKept_unregisterRequest (requestId : String) : FlagKept request state (state.unregisterRequest requestId) := by
  intro changed member
  rw [get?_unregisterRequest] at member
  split_ifs at member
  exact ⟨changed, member, id⟩

theorem flagKept_leaveTurn (phase : TurnPhase) : FlagKept request state (leaveTurn request.requestId state phase) := by
  unfold leaveTurn
  split
  · rw [closeTurn_changeActive]
    exact flagKept_changeActive fun _ => rfl
  · rw [closeTurn_changeActive]
    exact flagKept_changeActive fun _ => rfl
  all_goals exact .of_same rfl

end Flags

section Settled

variable {library : ToolLibrary} {request : RequestEnvelope} {applied : List OperationDict}
  {turn : Option (String × String)} {run : TurnRun}

def TurnPhase.ended : TurnPhase → Bool
  | .answered _ | .failed => true
  | .registered | .threaded _ | .running _ _ | .planned _ _ _ => false

/-- The request is flagged, and nothing can be appended to what its turn has applied. -/
structure Settled (request : RequestEnvelope) (applied : List OperationDict) (turn : Option (String × String))
    (run : TurnRun) : Prop where
  present : run.phase.ended = false → (run.bridge.activeRequests.get? request.requestId).isSome
  flagged : ∀ active, run.bridge.activeRequests.get? request.requestId = some active → active.cancelled = true
  contexts : ∀ key context, run.bridge.turnContexts.get? key = some context → context.appliedOperations <+: applied
  writes : ∀ write ∈ run.writes, write.effect.Within applied
  -- a turn that is opened later has applied nothing
  unopened : (run.phase = .registered ∨ ∃ threadId, run.phase = .threaded threadId) → applied = []
  opened : ∀ key, run.phase.turn? = some key → applied = [] ∨ turn = some key

namespace Settled

/-- A step that touches entries of requests only. -/
theorem entries (settled : Settled request applied turn run) {after : BridgeState}
    (kept : FlagKept request run.bridge after) (same : after.turnContexts = run.bridge.turnContexts)
    (present : (run.bridge.activeRequests.get? request.requestId).isSome →
      (after.activeRequests.get? request.requestId).isSome) :
    Settled request applied turn { run with bridge := after } :=
  { settled with
    present := fun going => present (settled.present going)
    flagged := fun changed member => by
      obtain ⟨active, found, flag⟩ := kept changed member
      exact flag (settled.flagged active found)
    contexts := fun key context found => settled.contexts key context (by rw [← same]; exact found) }

theorem of_applied (settled : Settled request applied turn run) : run.applied <+: applied := by
  unfold TurnRun.applied
  cases found : run.phase.turn?.bind run.bridge.turnContexts.get? with
  | none => exact List.nil_prefix
  | some context =>
    obtain ⟨key, -, looked⟩ := Option.bind_eq_some_iff.mp found
    exact settled.contexts key context looked

theorem within_of_appendsNothing (settled : Settled request applied turn run) {writes : List BridgeWrite}
    (nothing : AppendsNothing run writes) : ∀ write ∈ writes, write.effect.Within applied := by
  intro write member
  have within := nothing write member
  cases effect : write.effect with
  | status message lastToolName => trivial
  | context seen =>
    rw [effect] at within
    exact List.IsPrefix.trans within settled.of_applied

theorem write (settled : Settled request applied turn run) (keyed : Keyed run.bridge) {write : BridgeWrite}
    {rest : List BridgeWrite} (writes : run.writes = write :: rest) :
    Settled request applied turn { run with bridge := run.bridge.write write, writes := rest } := by
  obtain ⟨threadId, turnId, effect⟩ := write
  have later : ∀ other ∈ rest, other.effect.Within applied := fun other member =>
    settled.writes other (by rw [writes]; exact List.mem_cons_of_mem _ member)
  cases effect with
  | status message lastToolName =>
    have same := sameTurns_setStatusForTurn keyed threadId turnId message lastToolName
    have noted := settled.entries (flagKept_setStatusForTurn keyed threadId turnId message lastToolName)
      same.turnContexts same.present
    exact { noted with writes := later }
  | context seen =>
    have within := settled.writes ⟨threadId, turnId, .context seen⟩ (by rw [writes]; exact List.mem_cons_self)
    refine { settled with writes := later, contexts := fun key context found => ?_ }
    have lookup : (run.bridge.turnContexts.set (threadId, turnId) seen).get? key = some context := found
    rw [Dict.get?_set] at lookup
    split_ifs at lookup
    · rw [← Option.some.inj lookup]
      exact within
    · exact settled.contexts key context lookup

theorem leave (settled : Settled request applied turn run) {phase : TurnPhase} (ended : phase.ended = true) :
    Settled request applied turn ⟨leaveTurn request.requestId run.bridge run.phase, phase, []⟩ := by
  constructor
  case present =>
    intro going
    cases ended.symm.trans going
  case flagged =>
    intro changed member
    obtain ⟨active, found, flag⟩ := flagKept_leaveTurn run.phase changed member
    exact flag (settled.flagged active found)
  case contexts =>
    intro key context found
    -- leaving a turn opens no context
    have opened : run.bridge.turnContexts.get? key = some context := by
      unfold leaveTurn at found
      split at found <;> try exact found
      all_goals
        rw [changeActive_turnContexts] at found
        unfold BridgeState.closeTurn at found
        rw [Dict.get?_erase] at found
        split_ifs at found
        exact found
    exact settled.contexts key context opened
  case writes => exact fun _ member => nomatch member
  case unopened =>
    intro unopened
    have isPhase : phase = .registered ∨ ∃ threadId, phase = .threaded threadId := unopened
    rcases isPhase with rfl | ⟨threadId, rfl⟩
    · cases ended
    · cases ended
  case opened =>
    intro key isOpen
    have same : phase.turn? = some key := isOpen
    cases phase with
    | answered | failed => cases same
    | _ => cases ended

/-- A step of the run, when a call that is handled appends nothing. -/
theorem step (settled : Settled request applied turn run) (tracked : Tracked request run) (event : TurnRunEvent)
    (quiet : ∀ params renders, event = .toolCall params renders → run.phase.ended = false →
      AppendsNothing run (handleDynamicToolCall library run.bridge params renders).2) :
    Settled request applied turn (turnRunStep library request run event) := by
  cases event with
  | status status message =>
    have same := sameTurns_setActiveRequestStatus tracked.keyed request.requestId status (some message)
    exact settled.entries (flagKept_setActiveRequestStatus tracked.keyed _ _ _) same.turnContexts same.present
  | cancelRequest key reason =>
    have same := sameTurns_cancelRequest tracked.keyed key reason
    exact settled.entries (flagKept_cancelRequest tracked.keyed key reason) same.turnContexts same.present
  | threadStarted threadId =>
    unfold turnRunStep
    dsimp only
    split
    · rename_i registered
      have kept : FlagKept request run.bridge (run.bridge.changeActive request.requestId
          fun active => { active with threadId := some threadId }) := flagKept_changeActive fun _ => rfl
      have moved := settled.entries kept (changeActive_turnContexts ..) (changeActive_present _ _)
      have going : run.phase.ended = false := by rw [registered]; rfl
      refine { moved with
        present := fun _ => moved.present going
        unopened := fun _ => settled.unopened (.inl registered)
        opened := ?_ }
      intro key isOpen
      cases isOpen
    · exact settled
  | turnStarted turnId previewDataUrl previewMimeType previewBytes =>
    unfold turnRunStep
    dsimp only
    split
    · split_ifs
      · exact settled
      · rename_i threadId threaded _
        have nothing : applied = [] := settled.unopened (.inr ⟨threadId, threaded⟩)
        have kept : FlagKept request run.bridge (run.bridge.changeActive request.requestId
            fun active => { active with codexTurnId := some turnId }) := flagKept_changeActive fun _ => rfl
        have moved := settled.entries kept (changeActive_turnContexts ..) (changeActive_present _ _)
        have going : run.phase.ended = false := by rw [threaded]; rfl
        refine { moved with
          present := fun _ => moved.present going
          unopened := fun _ => nothing
          opened := fun _ _ => .inl nothing
          contexts := ?_ }
        intro key context found
        unfold BridgeState.openTurn at found
        rw [Dict.get?_set] at found
        split_ifs at found
        · rw [← Option.some.inj found]
          exact List.nil_prefix
        · exact moved.contexts key context found
    · exact settled
  | toolCall params renders =>
    unfold turnRunStep
    dsimp only
    split
    · rename_i running _
      have going : run.phase.ended = false := by rw [running]; rfl
      exact { settled with writes := settled.within_of_appendsNothing (quiet params renders rfl going) }
    · exact settled
  | write =>
    unfold turnRunStep
    dsimp only
    split
    · exact settled
    · exact settled.write tracked.keyed ‹_›
  | planReturned plan =>
    unfold turnRunStep
    dsimp only
    split
    · rename_i threadId turnId running _
      have going : run.phase.ended = false := by rw [running]; rfl
      refine { settled with present := fun _ => settled.present going, unopened := ?_, opened := ?_ }
      · rintro (registered | ⟨_, threaded⟩)
        · cases registered
        · cases threaded
      · intro key isOpen
        refine settled.opened key ?_
        rw [running]
        exact isOpen
    · exact settled
  | closed =>
    unfold turnRunStep
    dsimp only
    split
    · rename_i threadId turnId plan planned
      have ended : (TurnPhase.answered plan).ended = true := rfl
      have left := settled.leave ended
      rw [planned] at left
      exact { left with writes := settled.writes }
    · exact settled
  | raised =>
    unfold turnRunStep
    dsimp only
    split
    · exact settled
    · exact settled.leave rfl
  | unregistered =>
    have gone (ended : run.phase.ended = true) : Settled request applied turn
        { run with bridge := run.bridge.unregisterRequest request.requestId } :=
      { settled with
        present := fun going => nomatch ended.symm.trans going
        flagged := fun changed member => by
          obtain ⟨active, found, flag⟩ := flagKept_unregisterRequest request.requestId changed member
          exact flag (settled.flagged active found)
        contexts := by
          rw [unregisterRequest_turnContexts]
          exact settled.contexts }
    unfold turnRunStep
    dsimp only
    split
    · rename_i answered
      exact gone (by rw [answered]; rfl)
    · rename_i failed
      exact gone (by rw [failed]; rfl)
    · exact settled
  | otherRegistered other =>
    unfold turnRunStep
    dsimp only
    split_ifs with own
    · exact settled
    · have kept : (run.bridge.registerRequest other).activeRequests.get? request.requestId =
          run.bridge.activeRequests.get? request.requestId := Dict.get?_set_ne (Ne.symm own)
      refine settled.entries (.of_same kept) rfl fun present => ?_
      rw [kept]
      exact present
  | otherUnregistered requestId =>
    unfold turnRunStep
    dsimp only
    split_ifs with own
    · exact settled
    · refine settled.entries (flagKept_unregisterRequest requestId)
        (unregisterRequest_turnContexts run.bridge requestId) fun present => ?_
      rw [get?_unregisterRequest, if_neg (Ne.symm own)]
      exact present

end Settled

/-- A checked step waits or is a step of the run, and handles a call behind a check only. -/
theorem checkedStep_run (library : ToolLibrary) (request : RequestEnvelope) (state : CheckedRun) (event : CheckedEvent) :
    (checkedStep library request state event).run = state.run ∨
      ∃ taken, (checkedStep library request state event).run = turnRunStep library request state.run taken ∧
        ∀ params renders, taken = .toolCall params renders →
          event = .event (.toolCall params renders) ∧ state.passed = true := by
  cases event with
  | check =>
    unfold checkedStep
    dsimp only
    split
    all_goals first
      | exact .inl rfl
      | split_ifs
        · refine .inr ⟨.raised, rfl, ?_⟩
          rintro params renders ⟨⟩
        · exact .inl rfl
  | event event =>
    have taken : (checkedStep library request state (.event event)).run = state.run ∨
        (checkedStep library request state (.event event)).run = turnRunStep library request state.run event ∧
          ∀ params renders, event = .toolCall params renders → state.passed = true := by
      cases event with
      | toolCall params renders =>
        unfold checkedStep
        dsimp only
        split_ifs with passed
        · exact .inr ⟨rfl, fun _ _ _ => passed⟩
        · exact .inl rfl
      | _ => exact .inr ⟨rfl, nofun⟩
    rcases taken with same | ⟨same, behind⟩
    · exact .inl same
    · exact .inr ⟨event, same, fun params renders isCall =>
        ⟨congrArg CheckedEvent.event isCall, behind params renders isCall⟩⟩

theorem Settled.isFlagged (settled : Settled request applied turn run) (going : run.phase.ended = false) :
    run.flagged request = true := by
  obtain ⟨active, found⟩ := Option.isSome_iff_exists.mp (settled.present going)
  rw [TurnRun.flagged, found]
  exact settled.flagged active found

theorem Settled.checked {state : CheckedRun} (settled : Settled request applied turn state.run)
    (tracked : Tracked request state.run) {event : CheckedEvent}
    (uninterrupted : Uninterrupted library request state event) :
    Settled request applied turn (checkedStep library request state event).run := by
  rcases checkedStep_run library request state event with same | ⟨taken, same, behind⟩
  · rw [same]
    exact settled
  · rw [same]
    refine settled.step tracked taken fun params renders isCall running => ?_
    obtain ⟨rfl, passed⟩ := behind params renders isCall
    exact uninterrupted passed (settled.isFlagged running)

end Settled

section Acknowledged

variable {library : ToolLibrary} {request : RequestEnvelope} {run : TurnRun} {applied : List OperationDict}
  {turn : Option (String × String)}

/-- The entry of the request names its open turn, whose context holds what has been applied. -/
def Followed (request : RequestEnvelope) (run : TurnRun) : Prop :=
  Tracked request run ∧ ∃ ledger, Staged run ledger

theorem followed_checkedStep {state : CheckedRun} (followed : Followed request state.run) (event : CheckedEvent) :
    Followed request (checkedStep library request state event).run := by
  obtain ⟨tracked, ledger, staged⟩ := followed
  rcases checkedStep_run library request state event with same | ⟨taken, same, -⟩
  · rw [same]
    exact ⟨tracked, ledger, staged⟩
  · rw [same]
    obtain ⟨after, -, next⟩ : ∃ after, ledger <+: after ∧ Staged (turnRunStep library request state.run taken) after :=
      staged.step tracked taken
    exact ⟨tracked.step taken, after, next⟩

theorem followed_checkedStart (request : RequestEnvelope) (waiting : List RequestEnvelope)
    (cancelled : Dict CancelRequestKey String) : Followed request (checkedStart request waiting cancelled).run :=
  ⟨tracked_startRun request waiting cancelled, [], .startRun request waiting cancelled⟩

theorem followed_run {state : CheckedRun} (followed : Followed request state.run) (events : List CheckedEvent) :
    Followed request (Foundation.run (checkedStep library request) state events).run := by
  have kept : ∀ (state : CheckedRun) (event : CheckedEvent), Followed request state.run → True →
      Followed request (checkedStep library request state event).run :=
    fun _ event followed _ => followed_checkedStep followed event
  exact run_invariant kept followed (everyStep_of_forall (fun _ _ => trivial) state events)

/-- An acknowledged cancellation found the entry of the request, and flags it. -/
theorem cancelRequest_acknowledged {state : BridgeState} {reason : Option String}
    (acknowledged : (state.cancelRequest (cancelKeyOf request) reason).2 = true) :
    (∃ active, state.activeRequests.get? request.requestId = some active ∧ active.cancelKey = cancelKeyOf request) ∧
      ∃ active, (state.cancelRequest (cancelKeyOf request) reason).1.activeRequests.get? request.requestId =
        some active ∧ active.cancelled = true := by
  unfold BridgeState.cancelRequest at acknowledged ⊢
  dsimp only at acknowledged ⊢
  cases found : state.activeRequests.get? (cancelKeyOf request).requestId with
  | none => simp [found] at acknowledged
  | some active =>
    simp only [found] at acknowledged ⊢
    split_ifs at acknowledged ⊢ with own
    refine ⟨⟨active, found, own⟩, ?_⟩
    unfold BridgeState.setActive
    dsimp only
    rw [own]
    exact ⟨_, Dict.get?_set_self .., rfl⟩

/-- An acknowledged cancellation that meets no pending append settles the request. -/
theorem settled_of_acknowledged (followed : Followed request run) {reason : Option String}
    (acknowledged : (run.bridge.cancelRequest (cancelKeyOf request) reason).2 = true)
    (nothing : AppendsNothing run run.writes) :
    Settled request run.applied run.phase.turn?
      { run with bridge := (run.bridge.cancelRequest (cancelKeyOf request) reason).1 } := by
  obtain ⟨tracked, ledger, staged⟩ := followed
  obtain ⟨-, active, entry, flag⟩ := cancelRequest_acknowledged acknowledged
  have same := (sameTurns_cancelRequest tracked.keyed (cancelKeyOf request) reason).turnContexts
  constructor
  case present => exact fun _ => Option.isSome_of_eq_some entry
  case flagged =>
    intro other member
    rwa [← Option.some.inj (entry.symm.trans member)]
  case contexts =>
    intro key context member
    have opened : run.bridge.turnContexts.get? key = some context := by rw [← same]; exact member
    rw [TurnRun.applied, staged.only key context opened, Option.bind_some, opened]
    exact List.prefix_rfl
  case writes => exact nothing
  case unopened =>
    rintro (registered | ⟨threadId, threaded⟩)
    · have isPhase : run.phase = .registered := registered
      rw [TurnRun.applied, isPhase]
      rfl
    · have isPhase : run.phase = .threaded threadId := threaded
      rw [TurnRun.applied, isPhase]
      rfl
  case opened => exact fun key isOpen => .inr isOpen

theorem registerRequest_entry (state : BridgeState) (request : RequestEnvelope) :
    (state.registerRequest request).activeRequests.get? request.requestId = some {
      cancelKey := cancelKeyOf request
      cancelled := (state.cancelledRequests.get? (cancelKeyOf request)).isSome
      cancelReason := state.cancelledRequests.get? (cancelKeyOf request) } :=
  Dict.get?_set_self ..

/-- A request that was cancelled before it was registered is settled from the start. -/
theorem settled_startRun (request : RequestEnvelope) (waiting : List RequestEnvelope)
    {cancelled : Dict CancelRequestKey String} (early : (cancelled.get? (cancelKeyOf request)).isSome) :
    Settled request [] none (startRun request waiting cancelled) := by
  have noted : ∀ others : List RequestEnvelope, ∀ state : BridgeState,
      (others.foldl BridgeState.registerRequest state).cancelledRequests = state.cancelledRequests := by
    intro others
    induction others with
    | nil => exact fun _ => rfl
    | cons other rest ih => exact fun state => ih (state.registerRequest other)
  have staged := Staged.startRun request waiting cancelled
  have entry : (startRun request waiting cancelled).bridge.activeRequests.get? request.requestId =
      some { cancelKey := cancelKeyOf request, cancelled := (cancelled.get? (cancelKeyOf request)).isSome,
             cancelReason := cancelled.get? (cancelKeyOf request) } := by
    have registered := registerRequest_entry (waiting.foldl BridgeState.registerRequest ⟨.empty, cancelled, .empty⟩) request
    rw [noted] at registered
    exact registered
  constructor
  case present => exact fun _ => Option.isSome_of_eq_some entry
  case flagged =>
    intro active member
    rw [← Option.some.inj (entry.symm.trans member)]
    exact early
  case contexts => exact fun key context member => (staged.context key context member).1
  case writes => exact fun _ member => nomatch member
  case unopened => exact fun _ => rfl
  case opened => exact fun _ _ => .inl rfl

theorem settled_run {state : CheckedRun} (settled : Settled request applied turn state.run)
    (followed : Followed request state.run) {events : List CheckedEvent}
    (uninterrupted : EveryStep (checkedStep library request) (Uninterrupted library request) state events) :
    Settled request applied turn (Foundation.run (checkedStep library request) state events).run := by
  have kept : ∀ (state : CheckedRun) (event : CheckedEvent),
      Settled request applied turn state.run ∧ Followed request state.run → Uninterrupted library request state event →
        Settled request applied turn (checkedStep library request state event).run ∧
          Followed request (checkedStep library request state event).run :=
    fun _ event holds condition => ⟨holds.1.checked holds.2.1 condition, followed_checkedStep holds.2 event⟩
  exact (run_invariant kept ⟨settled, followed⟩ uninterrupted).1

/-- The turn that a snapshot of the request shows is the open one. -/
theorem names_open (tracked : Tracked request run) {active : ActiveRequestState} {threadId turnId : String}
    (found : run.bridge.activeRequests.get? request.requestId = some active)
    (thread : active.threadId = some threadId) (codexTurn : active.codexTurnId = some turnId) :
    run.phase.turn? = some (threadId, turnId) := by
  have names := tracked.named active found
  cases phase : run.phase with
  | running openThread openTurn | planned openThread openTurn =>
    rw [phase] at names
    obtain ⟨sameThread, sameTurn⟩ := names
    rw [thread] at sameThread
    rw [codexTurn] at sameTurn
    rw [Option.some.inj sameThread, Option.some.inj sameTurn]
    rfl
  | threaded openThread =>
    rw [phase] at names
    cases codexTurn.symm.trans names.2
  | registered | answered | failed =>
    rw [phase] at names
    cases codexTurn.symm.trans names

/-- A snapshot of the request shows nothing or what its open turn has applied. -/
theorem shown_cases (followed : Followed request run) :
    (run.bridge.getRequestProgress (cancelKeyOf request)).operations = [] ∨
      ∃ threadId turnId, run.phase.turn? = some (threadId, turnId) ∧ threadId ≠ "" ∧ turnId ≠ "" ∧
        (run.bridge.getRequestProgress (cancelKeyOf request)).operations = run.applied := by
  unfold BridgeState.getRequestProgress
  cases found : run.bridge.activeRequests.get? (cancelKeyOf request).requestId with
  | none => exact .inl rfl
  | some active =>
    dsimp only
    split_ifs
    · exact .inl rfl
    · cases shown : run.bridge.contextOf active with
      | none => exact .inl rfl
      | some context =>
        obtain ⟨threadId, thread, turn⟩ := Option.bind_eq_some_iff.mp shown
        obtain ⟨turnId, codexTurn, opened⟩ := Option.bind_eq_some_iff.mp turn
        obtain ⟨isThread, named⟩ := Option.filter_eq_some_iff.mp thread
        obtain ⟨isTurn, named'⟩ := Option.filter_eq_some_iff.mp codexTurn
        have isOpen := names_open followed.1 found isThread isTurn
        refine .inr ⟨threadId, turnId, isOpen, by simpa using named, by simpa using named', ?_⟩
        rw [TurnRun.applied, isOpen, Option.bind_some, opened]

/-- A snapshot of a registered request whose turn is open shows what the turn has applied. -/
theorem shown_of_open (followed : Followed request run) {active : ActiveRequestState} {threadId turnId : String}
    (found : run.bridge.activeRequests.get? request.requestId = some active)
    (own : active.cancelKey = cancelKeyOf request) (isOpen : run.phase.turn? = some (threadId, turnId))
    (thread : threadId ≠ "") (codexTurn : turnId ≠ "") :
    (run.bridge.getRequestProgress (cancelKeyOf request)).operations = run.applied := by
  have names := followed.1.named active found
  have ids : active.threadId = some threadId ∧ active.codexTurnId = some turnId := by
    cases phase : run.phase with
    | running | planned =>
      rw [phase] at names isOpen
      cases isOpen
      exact names
    | registered | threaded | answered | failed =>
      rw [phase] at isOpen
      cases isOpen
  have shown : run.bridge.contextOf active = run.bridge.turnContexts.get? (threadId, turnId) := by
    simp [BridgeState.contextOf, ids.1, ids.2, Option.filter, thread, codexTurn]
  have sameId : run.bridge.activeRequests.get? (cancelKeyOf request).requestId = some active := found
  unfold BridgeState.getRequestProgress
  rw [sameId]
  dsimp only
  rw [if_neg (not_not.mpr own), shown, TurnRun.applied, isOpen]
  rfl

end Acknowledged

section Cancelled

variable (library : ToolLibrary) (request : RequestEnvelope) (waiting : List RequestEnvelope)
  (cancelled : Dict CancelRequestKey String)

/-- The state of a run at some moment. -/
def checkedTo (events : List CheckedEvent) : TurnRun :=
  (Foundation.run (checkedStep library request) (checkedStart request waiting cancelled) events).run

/-- What an acknowledged cancellation fixes: the list of the turn, and what of it is shown. -/
structure AppliesNothing (request : RequestEnvelope) (atCancel later : TurnRun) : Prop where
  contexts : ∀ key context, later.bridge.turnContexts.get? key = some context →
    context.appliedOperations <+: atCancel.applied
  shown : (later.bridge.getRequestProgress (cancelKeyOf request)).operations <+:
    (atCancel.bridge.getRequestProgress (cancelKeyOf request)).operations

variable {library request waiting cancelled}

theorem appliesNothing_of_acknowledged {before after : List CheckedEvent} {reason : Option String}
    (acknowledged : ((checkedTo library request waiting cancelled before).bridge.cancelRequest
      (cancelKeyOf request) reason).2 = true)
    (uninterrupted : EveryStep (checkedStep library request) (Uninterrupted library request)
      (checkedStart request waiting cancelled)
      (before ++ .event (.cancelRequest (cancelKeyOf request) reason) :: after)) :
    AppliesNothing request (checkedTo library request waiting cancelled before)
      (checkedTo library request waiting cancelled
        (before ++ .event (.cancelRequest (cancelKeyOf request) reason) :: after)) := by
  obtain ⟨atCancel, isAtCancel⟩ : ∃ atCancel, checkedTo library request waiting cancelled before = atCancel := ⟨_, rfl⟩
  obtain ⟨later, isLater⟩ : ∃ later, checkedTo library request waiting cancelled
      (before ++ .event (.cancelRequest (cancelKeyOf request) reason) :: after) = later := ⟨_, rfl⟩
  obtain ⟨-, meets, further⟩ := everyStep_append.mp uninterrupted
  have reached : Followed request (checkedTo library request waiting cancelled before) :=
    followed_run (followed_checkedStart request waiting cancelled) before
  have followed : Followed request atCancel := isAtCancel ▸ reached
  have followedLater : Followed request later :=
    isLater ▸ followed_run (followed_checkedStart request waiting cancelled) _
  have settled : Settled request atCancel.applied atCancel.phase.turn? later := by
    have goesOn : later = (Foundation.run (checkedStep library request) (checkedStep library request
        (Foundation.run (checkedStep library request) (checkedStart request waiting cancelled) before)
        (.event (.cancelRequest (cancelKeyOf request) reason))) after).run :=
      isLater.symm.trans (congrArg CheckedRun.run (run_append before _))
    rw [goesOn]
    refine settled_run ?_ (followed_checkedStep reached _) further
    rw [← isAtCancel] at followed ⊢
    exact settled_of_acknowledged followed acknowledged (meets rfl)
  rw [isAtCancel, isLater]
  rw [isAtCancel] at acknowledged
  refine ⟨settled.contexts, ?_⟩
  rcases shown_cases followedLater with nothing | ⟨threadId, turnId, isOpen, thread, codexTurn, shown⟩
  · rw [nothing]
    exact List.nil_prefix
  · rw [shown]
    rcases settled.opened _ isOpen with empty | sameTurn
    · have begins := settled.of_applied
      rw [empty, List.prefix_nil] at begins
      rw [begins]
      exact List.nil_prefix
    · -- the same turn was open at the cancellation, and its list was shown in full
      obtain ⟨⟨active, found, own⟩, -⟩ := cancelRequest_acknowledged acknowledged
      rw [shown_of_open followed found own sameTurn thread codexTurn]
      exact settled.of_applied

theorem appliesNothing_of_early (early : (cancelled.get? (cancelKeyOf request)).isSome) {events : List CheckedEvent}
    (uninterrupted : EveryStep (checkedStep library request) (Uninterrupted library request)
      (checkedStart request waiting cancelled) events) :
    AppliesNothing request (startRun request waiting cancelled)
      (checkedTo library request waiting cancelled events) := by
  have settled : Settled request [] none (checkedTo library request waiting cancelled events) :=
    settled_run (settled_startRun request waiting early) (followed_checkedStart request waiting cancelled) uninterrupted
  refine ⟨settled.contexts, ?_⟩
  have followed : Followed request (checkedTo library request waiting cancelled events) :=
    followed_run (followed_checkedStart request waiting cancelled) events
  rcases shown_cases followed with nothing | ⟨-, -, -, -, -, shown⟩
  · rw [nothing]
    exact List.nil_prefix
  · rw [shown, List.prefix_nil.mp settled.of_applied]
    exact List.nil_prefix

end Cancelled

/-- Behind an acknowledged cancellation nothing is appended, and nothing is shown that was not shown
before, in every run in which cancellations and appending calls keep out of each other's way. -/
theorem cancelled_applies_nothing (library : ToolLibrary) (request : RequestEnvelope) (waiting : List RequestEnvelope)
    (cancelled : Dict CancelRequestKey String) (events : List CheckedEvent)
    (uninterrupted : EveryStep (checkedStep library request) (Uninterrupted library request)
      (checkedStart request waiting cancelled) events) :
    ((cancelled.get? (cancelKeyOf request)).isSome → AppliesNothing request (startRun request waiting cancelled)
      (checkedTo library request waiting cancelled events)) ∧
    ∀ before after reason, events = before ++ .event (.cancelRequest (cancelKeyOf request) reason) :: after →
      ((checkedTo library request waiting cancelled before).bridge.cancelRequest
        (cancelKeyOf request) reason).2 = true →
      AppliesNothing request (checkedTo library request waiting cancelled before)
        (checkedTo library request waiting cancelled events) := by
  refine ⟨fun early => appliesNothing_of_early early uninterrupted, ?_⟩
  rintro before after reason rfl acknowledged
  exact appliesNothing_of_acknowledged acknowledged uninterrupted

/-! A batch of two operations, cancelled while it waits for a render. -/

/-- The batch, so many writes into it. -/
def raisingWrites (written : Nat) : List CheckedEvent :=
  [.event (.threadStarted "thread-1"), .event (.turnStarted "codex-1" "data:image/jpeg;base64," "image/jpeg" []),
    .check,
    .event (.toolCall [("threadId", .str "thread-1"), ("turnId", .str "codex-1"), ("tool", .str "apply_operations"),
      ("arguments", .obj raiseExposure)] fun _ => none)] ++ List.replicate written (.event .write)

def raisingCancel : CheckedEvent := .event (.cancelRequest (cancelKeyOf exposureRequest) (some "user"))

/-- Cancelled behind the first operation: the second one is applied and shown all the same. -/
theorem cancelled_midBatch_appended :
    let atCancel := checkedTo plainToolLibrary exposureRequest [] .empty (raisingWrites 4)
    let later := checkedTo plainToolLibrary exposureRequest [] .empty
      (raisingWrites 4 ++ raisingCancel :: List.replicate 7 (.event .write))
    (atCancel.bridge.cancelRequest (cancelKeyOf exposureRequest) (some "user")).2 = true ∧
      atCancel.applied.length = 1 ∧
      (atCancel.bridge.getRequestProgress (cancelKeyOf exposureRequest)).operations.length = 1 ∧
      later.applied.length = 2 ∧
      (later.bridge.getRequestProgress (cancelKeyOf exposureRequest)).operations.length = 2 ∧
      ¬ later.applied <+: atCancel.applied := by
  decide +kernel

/-- Cancelled behind the last operation, while its render is awaited; the next check raises. -/
theorem cancelled_applies_nothing_lastRender :
    AppliesNothing exposureRequest (checkedTo plainToolLibrary exposureRequest [] .empty (raisingWrites 8))
      (checkedTo plainToolLibrary exposureRequest [] .empty
        (raisingWrites 8 ++ raisingCancel :: (List.replicate 3 (.event .write) ++ [.check]))) := by
  refine (cancelled_applies_nothing plainToolLibrary exposureRequest [] .empty _ ?_).2 (raisingWrites 8)
    (List.replicate 3 (.event .write) ++ [.check]) (some "user") rfl ?_
  · decide +kernel
  · decide +kernel

end DarktableAgent.Server
