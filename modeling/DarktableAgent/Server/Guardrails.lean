import DarktableAgent.Server.ToolRouting

/-! The guardrails over a whole turn.

Two counters decide whether a call is let through: the calls made so far, and the read-only
calls since one that was not. Neither is touched by what a call does once it is let through.
-/

set_option autoImplicit false

namespace DarktableAgent.Server

open Foundation Protocol

/-- The part of a context that only the guardrails write. -/
structure SameCounters (before after : TurnContext) : Prop where
  toolCallsUsed : after.toolCallsUsed = before.toolCallsUsed
  consecutiveReadOnlyToolCalls : after.consecutiveReadOnlyToolCalls = before.consecutiveReadOnlyToolCalls
  maxToolCalls : after.maxToolCalls = before.maxToolCalls
  liveRunEnabled : after.liveRunEnabled = before.liveRunEnabled

namespace SameCounters

theorem refl (context : TurnContext) : SameCounters context context :=
  ⟨rfl, rfl, rfl, rfl⟩

theorem trans {first second third : TurnContext} (left : SameCounters first second)
    (right : SameCounters second third) : SameCounters first third :=
  ⟨right.toolCallsUsed.trans left.toolCallsUsed,
    right.consecutiveReadOnlyToolCalls.trans left.consecutiveReadOnlyToolCalls,
    right.maxToolCalls.trans left.maxToolCalls, right.liveRunEnabled.trans left.liveRunEnabled⟩

end SameCounters

section Frame

variable (library : ToolLibrary) (context : TurnContext)

theorem waitForLiveRender_counters (delivered : Option Bytes) :
    SameCounters context (waitForLiveRender library context delivered).1 := by
  unfold waitForLiveRender
  cases delivered.filter (· ≠ []) <;> exact ⟨rfl, rfl, rfl, rfl⟩

theorem applyLiveOperationStep_counters {operation : OperationDict} {staged : TurnContext}
    (applied : applyLiveOperationStep context operation = .ok staged) : SameCounters context staged := by
  unfold applyLiveOperationStep at applied
  cases result : applyOperationToSettings context.settingById operation with
  | error text =>
    rw [result] at applied
    cases applied
  | ok written =>
    rw [result] at applied
    cases applied
    exact ⟨rfl, rfl, rfl, rfl⟩

theorem runLiveBatch_counters (renders : Nat → Option Bytes) (total stepIndex : Nat) (operations : List OperationDict) :
    SameCounters context (runLiveBatch library renders total stepIndex context operations).context := by
  induction operations generalizing context stepIndex with
  | nil => exact SameCounters.refl context
  | cons operation rest ih =>
    rw [runLiveBatch]
    cases applied : applyLiveOperationStep context operation with
    | error text => exact SameCounters.refl context
    | ok staged =>
      have stepped := applyLiveOperationStep_counters context applied
      have summarized : SameCounters staged
          (staged.withSummary (summarizeLiveOperation library staged operation)) := ⟨rfl, rfl, rfl, rfl⟩
      have rendered := waitForLiveRender_counters library
        (staged.withSummary (summarizeLiveOperation library staged operation)) (renders stepIndex)
      exact ((stepped.trans summarized).trans rendered).trans (ih _ (stepIndex + 1))

theorem applyOperationsToolCall_counters (arguments : JsonObject) (renders : Nat → Option Bytes) :
    SameCounters context (applyOperationsToolCall library context arguments renders).context := by
  rcases applyOperationsToolCall_cases library context arguments renders with
    ⟨-, unchanged, -⟩ | ⟨prepared, settings, -, -, -, -, batch, rfl, left, -⟩
  · rw [unchanged]
    exact SameCounters.refl context
  · rw [left]
    exact runLiveBatch_counters library context renders _ 1 _

theorem callTool_counters (guardrailError : Option String) (toolName : String) (arguments : JsonObject)
    (renders : Nat → Option Bytes) :
    SameCounters context (callTool library context guardrailError toolName arguments renders).1.context := by
  cases guardrailError with
  | some text => exact SameCounters.refl context
  | none =>
    simp only [callTool, dispatchTool]
    split_ifs
    · exact SameCounters.refl context
    · exact SameCounters.refl context
    · exact SameCounters.refl context
    · exact applyOperationsToolCall_counters library context arguments renders
    · exact SameCounters.refl context

theorem awaitLateRender_counters (toolName : String) (response : ToolResponse) (delivered : Option Bytes) :
    SameCounters context (awaitLateRender library context toolName response delivered).1 := by
  unfold awaitLateRender
  by_cases awaited : (context.requiresRenderCallback && toolName != toolApplyOperations) = true
  · rw [if_pos awaited]
    cases delivered.filter (· ≠ []) <;> exact ⟨rfl, rfl, rfl, rfl⟩
  · rw [if_neg awaited]
    exact SameCounters.refl context

/-- After a call the counters are what the guardrails made of them. -/
theorem handleToolCall_counters (toolName : String) (arguments : JsonObject) (renders : Nat → Option Bytes) :
    SameCounters (registerToolCallProgress library context toolName).1
      (handleToolCall library context toolName arguments renders).context :=
  (callTool_counters library _ _ toolName arguments renders).trans
    (awaitLateRender_counters library _ toolName _ (renders 0))

end Frame

/-- A tool call of a turn: its name and whether the guardrails let it through. -/
structure GuardedCall where
  toolName : String
  admitted : Bool
  deriving DecidableEq

section Log

variable (library : ToolLibrary)

def admits (context : TurnContext) (toolName : String) : Bool :=
  (registerToolCallProgress library context toolName).2.isNone

def guardedCall (context : TurnContext) : TurnEvent → Option GuardedCall
  | .toolCall toolName _ _ => some ⟨toolName, admits library context toolName⟩
  | .renderCallback _ => none

/-- The tool calls of a run, in the order in which they are made. -/
def callLog (start : TurnContext) : List TurnEvent → List GuardedCall
  | [] => []
  | event :: rest => (guardedCall library start event).toList ++ callLog (turnStep library start event) rest

/-- The routine in one statement: every call is counted, and what is let through respects each limit. -/
structure RegisteredCall (context : TurnContext) (toolName : String) : Prop where
  counted : (registerToolCallProgress library context toolName).1.toolCallsUsed = context.toolCallsUsed + 1
  maxToolCalls : (registerToolCallProgress library context toolName).1.maxToolCalls = context.maxToolCalls
  budget : admits library context toolName = true → context.toolCallsUsed + 1 ≤ context.maxToolCalls
  editFirst : admits library context toolName = true → context.liveRunEnabled = true →
    context.appliedOperations = [] → toolName ≠ toolApplyOperations →
    (context.toolCallsUsed : Int) + 1 ≤ library.maxToolCallsWithoutApply
  readOnly : admits library context toolName = true → isReadOnlyTool toolName = true →
    (registerToolCallProgress library context toolName).1.consecutiveReadOnlyToolCalls =
        context.consecutiveReadOnlyToolCalls + 1 ∧
      (context.liveRunEnabled = true →
        (context.consecutiveReadOnlyToolCalls : Int) + 1 ≤ library.maxConsecutiveReadOnlyToolCalls)
  refused : admits library context toolName = false → context.consecutiveReadOnlyToolCalls ≤
    (registerToolCallProgress library context toolName).1.consecutiveReadOnlyToolCalls

theorem registeredCall (context : TurnContext) (toolName : String) : RegisteredCall library context toolName := by
  obtain ⟨counted, error, registered⟩ : ∃ counted error,
      registerToolCallProgress library context toolName = (counted, error) := ⟨_, _, rfl⟩
  have admitted : admits library context toolName = error.isNone := by rw [admits, registered]
  have outcome := registered
  unfold registerToolCallProgress at outcome
  simp only at outcome
  split_ifs at outcome with exceeded unedited apply readOnly streak
  all_goals
    simp only [Prod.mk.injEq] at outcome
    obtain ⟨rfl, rfl⟩ := outcome
  · -- over the budget
    constructor <;> simp [admitted, registered]
  · -- nothing applied yet
    constructor <;> simp [admitted, registered]
  · have notReadOnly : isReadOnlyTool toolName = false := by
      rw [apply]
      decide
    refine ⟨?_, ?_, ?_, fun _ _ _ other => absurd apply other, ?_, ?_⟩
    all_goals simp [admitted, registered, notReadOnly]
    omega
  · -- too long a streak
    constructor <;> simp [admitted, registered]
  · constructor <;> simp_all
  · constructor <;> simp_all

/-- What the counters of a context say of the calls made so far. -/
structure Tallied (context : TurnContext) (calls : List GuardedCall) : Prop where
  used : context.toolCallsUsed = calls.length
  budget : (calls.filter (·.admitted)).length ≤ context.maxToolCalls
  streak : ∀ before after, calls = before ++ after →
    (∀ call ∈ after, call.admitted = true → isReadOnlyTool call.toolName = true) →
    (after.filter (·.admitted)).length ≤ context.consecutiveReadOnlyToolCalls
  readOnly : context.liveRunEnabled = true → ∀ before stretch after, calls = before ++ stretch ++ after →
    (∀ call ∈ stretch, call.admitted = true → isReadOnlyTool call.toolName = true) →
    (stretch.filter (·.admitted)).length ≤ library.maxConsecutiveReadOnlyToolCalls.toNat

variable {library}

/-- A stretch of a list with one more element is empty or ends with that element. -/
theorem append_eq_concat_cases {α : Type} {before after items : List α} {last : α}
    (same : items ++ [last] = before ++ after) :
    after = [] ∨ ∃ stretch, after = stretch ++ [last] ∧ items = before ++ stretch := by
  rcases List.eq_nil_or_concat after with rfl | ⟨stretch, final, rfl⟩
  · exact .inl rfl
  · rw [List.concat_eq_append, ← List.append_assoc] at same
    obtain ⟨items, last⟩ := List.append_inj' same rfl
    cases last
    exact .inr ⟨stretch, List.concat_eq_append, items⟩

/-- One more call keeps the tally. -/
theorem Tallied.toolCall {context : TurnContext} {calls : List GuardedCall} (tallied : Tallied library context calls)
    (toolName : String) (arguments : JsonObject) (renders : Nat → Option Bytes) :
    Tallied library (turnStep library context (.toolCall toolName arguments renders))
      (calls ++ [⟨toolName, admits library context toolName⟩]) := by
  have registered := registeredCall library context toolName
  have counters := handleToolCall_counters library context toolName arguments renders
  have live : (turnStep library context (.toolCall toolName arguments renders)).liveRunEnabled =
      context.liveRunEnabled :=
    counters.liveRunEnabled.trans (registerToolCallProgress_sameEdits library context toolName).liveRunEnabled
  have used := counters.toolCallsUsed.trans registered.counted
  have maximum := counters.maxToolCalls.trans registered.maxToolCalls
  have streakIs := counters.consecutiveReadOnlyToolCalls
  -- a stretch that ends with the new call has one more admitted call if that one is admitted
  have tail (stretch : List GuardedCall) :
      ((stretch ++ [GuardedCall.mk toolName (admits library context toolName)]).filter (·.admitted)).length =
        (stretch.filter (·.admitted)).length + if admits library context toolName then 1 else 0 := by
    rw [List.filter_append, List.length_append]
    cases admits library context toolName <;> rfl
  have within := tallied.budget
  have filtered := List.length_filter_le (·.admitted) calls
  have counted := tallied.used
  constructor
  · rw [turnStep, used, counted, List.length_append, List.length_singleton]
  · rw [turnStep, maximum, tail]
    cases admitted : admits library context toolName with
    | false => simpa using within
    | true =>
      have room := registered.budget admitted
      simp only [if_true]
      omega
  · intro before after same readOnly
    rw [turnStep, streakIs]
    rcases append_eq_concat_cases same with rfl | ⟨stretch, rfl, rfl⟩
    · simp
    · have earlier := tallied.streak before stretch rfl fun call member =>
        readOnly call (List.mem_append_left _ member)
      rw [tail]
      cases admitted : admits library context toolName with
      | false =>
        have kept := registered.refused admitted
        simp only [Bool.false_eq_true, if_false]
        omega
      | true =>
        have isReadOnly := readOnly _ (List.mem_append_right _ List.mem_cons_self) admitted
        have longer := (registered.readOnly admitted isReadOnly).1
        simp only [if_true]
        omega
  -- a stretch of the longer log ends with the new call, or lies in the log as it was
  · intro isLive before stretch after same readOnly
    rw [live] at isLive
    rcases append_eq_concat_cases same with rfl | ⟨earlier, rfl, split⟩
    · rw [List.append_nil] at same
      rcases append_eq_concat_cases same with rfl | ⟨stretch, rfl, rfl⟩
      · simp
      · have ofStretch := fun call member => readOnly call (List.mem_append_left _ member)
        have earlier := tallied.readOnly isLive before stretch [] (List.append_nil _).symm ofStretch
        have counter := tallied.streak before stretch rfl ofStretch
        rw [tail]
        cases admitted : admits library context toolName with
        | false =>
          simp only [Bool.false_eq_true, if_false]
          omega
        | true =>
          have isReadOnly := readOnly _ (List.mem_append_right _ List.mem_cons_self) admitted
          have bounded := (registered.readOnly admitted isReadOnly).2 isLive
          simp only [if_true]
          omega
    · exact tallied.readOnly isLive before stretch earlier split readOnly

theorem turnStep_settled (library : ToolLibrary) (context : TurnContext) (event : TurnEvent) :
    (turnStep library context event).liveRunEnabled = context.liveRunEnabled ∧
      (turnStep library context event).maxToolCalls = context.maxToolCalls := by
  cases event with
  | renderCallback bytes => exact ⟨rfl, rfl⟩
  | toolCall toolName arguments renders =>
    have counters := handleToolCall_counters library context toolName arguments renders
    have registered := registerToolCallProgress_sameEdits library context toolName
    constructor
    · exact counters.liveRunEnabled.trans registered.liveRunEnabled
    · exact counters.maxToolCalls.trans (registeredCall library context toolName).maxToolCalls

/-- Live mode and the budget are settled when the turn starts. -/
theorem run_settled (library : ToolLibrary) (start : TurnContext) (events : List TurnEvent) :
    (run (turnStep library) start events).liveRunEnabled = start.liveRunEnabled ∧
      (run (turnStep library) start events).maxToolCalls = start.maxToolCalls := by
  induction events generalizing start with
  | nil => exact ⟨rfl, rfl⟩
  | cons event rest ih =>
    obtain ⟨live, maximum⟩ := turnStep_settled library start event
    rw [run_cons, (ih _).1, (ih _).2]
    exact ⟨live, maximum⟩

theorem Tallied.run {start : TurnContext} {calls : List GuardedCall} (tallied : Tallied library start calls)
    (events : List TurnEvent) :
    Tallied library (run (turnStep library) start events) (calls ++ callLog library start events) := by
  induction events generalizing start calls with
  | nil =>
    rw [callLog, List.append_nil]
    exact tallied
  | cons event rest ih =>
    rw [run_cons, callLog, ← List.append_assoc]
    apply ih
    cases event with
    | toolCall toolName arguments renders => exact tallied.toolCall toolName arguments renders
    | renderCallback bytes =>
      rw [guardedCall, Option.toList, List.append_nil]
      exact ⟨tallied.used, tallied.budget, tallied.streak, tallied.readOnly⟩

theorem tallied_start (library : ToolLibrary) {start : TurnContext} (fresh : start.toolCallsUsed = 0) :
    Tallied library start [] := by
  refine ⟨fresh, Nat.zero_le _, fun before after same _ => ?_, fun _ before stretch after same _ => ?_⟩
  · rw [(List.append_eq_nil_iff.mp same.symm).2]
    exact Nat.zero_le _
  · rw [(List.append_eq_nil_iff.mp (List.append_eq_nil_iff.mp same.symm).1).2]
    exact Nat.zero_le _

/-- The guardrails of a turn: the budget, the stretches of read-only calls, the edit that has to come in
time, and that a refused call edits nothing. -/
structure Guarded (library : ToolLibrary) (start : TurnContext) (events : List TurnEvent) : Prop where
  budget : ((callLog library start events).filter (·.admitted)).length ≤ start.maxToolCalls
  readOnly : start.liveRunEnabled = true → ∀ before stretch after,
    callLog library start events = before ++ stretch ++ after →
    (∀ call ∈ stretch, call.admitted = true → isReadOnlyTool call.toolName = true) →
    (stretch.filter (·.admitted)).length ≤ library.maxConsecutiveReadOnlyToolCalls.toNat
  editFirst : start.liveRunEnabled = true → ∀ first toolName arguments renders rest,
    events = first ++ .toolCall toolName arguments renders :: rest →
    (run (turnStep library) start first).appliedOperations = [] →
    library.maxToolCallsWithoutApply ≤ (callLog library start first).length →
    toolName ≠ toolApplyOperations → admits library (run (turnStep library) start first) toolName = false
  refused : ∀ first toolName arguments renders rest,
    events = first ++ .toolCall toolName arguments renders :: rest →
    admits library (run (turnStep library) start first) toolName = false →
    let before := run (turnStep library) start first
    let called := handleToolCall library before toolName arguments renders
    called.response.success = false ∧ called.context.settingById = before.settingById ∧
      called.context.appliedOperations = before.appliedOperations

theorem awaitLateRender_success (library : ToolLibrary) (context : TurnContext) (toolName : String)
    (response : ToolResponse) (delivered : Option Bytes) :
    (awaitLateRender library context toolName response delivered).2.success = response.success := by
  unfold awaitLateRender
  by_cases awaited : (context.requiresRenderCallback && toolName != toolApplyOperations) = true
  · rw [if_pos awaited]
    cases delivered.filter (· ≠ []) <;> by_cases succeeded : response.success <;> simp [succeeded]
  · rw [if_neg awaited]

/-- A refused call is answered with an error and goes no further. -/
theorem handleToolCall_refused {context : TurnContext} {toolName : String}
    (refused : admits library context toolName = false) (arguments : JsonObject) (renders : Nat → Option Bytes) :
    (handleToolCall library context toolName arguments renders).response.success = false ∧
      SameEdits context (handleToolCall library context toolName arguments renders).context := by
  have counted := registerToolCallProgress_sameEdits library context toolName
  cases guardrail : (registerToolCallProgress library context toolName).2 with
  | none => simp [admits, guardrail] at refused
  | some text =>
    have called : callTool library (registerToolCallProgress library context toolName).1
        (registerToolCallProgress library context toolName).2 toolName arguments renders =
        (⟨toolErrorResponse text, (registerToolCallProgress library context toolName).1, []⟩, none) := by
      rw [guardrail]
      rfl
    simp only [handleToolCall, called]
    constructor
    · rw [awaitLateRender_success]
      rfl
    · exact counted.trans (awaitLateRender_sameEdits library _ toolName _ (renders 0))

/-- The guardrails hold over every turn, for all limits and whatever the calls do. -/
theorem guardrails_hold (library : ToolLibrary) {start : TurnContext} (fresh : start.toolCallsUsed = 0)
    (events : List TurnEvent) : Guarded library start events := by
  constructor
  · have tallied := (tallied_start library fresh).run events
    rw [← (run_settled library start events).2]
    exact tallied.budget
  · intro live
    have tallied := (tallied_start library fresh).run events
    exact tallied.readOnly ((run_settled library start events).1.trans live)
  · intro live first toolName arguments renders rest _ unedited enough other
    have tallied := (tallied_start library fresh).run first
    have registered := registeredCall library (run (turnStep library) start first) toolName
    have used := tallied.used
    rw [List.nil_append] at used
    -- an admitted call would have come in time to edit first, but the log is too long for that
    by_contra admitted
    have early := registered.editFirst (by simpa using admitted)
      ((run_settled library start first).1.trans live) unedited other
    omega
  · intro first toolName arguments renders rest _ isRefused
    obtain ⟨failed, same⟩ := handleToolCall_refused isRefused arguments renders
    exact ⟨failed, same.settingById, same.appliedOperations⟩

end Log

/-- Seven requests for the image state and nothing else; only the first four are let through. -/
def askSevenTimes : List TurnEvent := List.replicate 7 (.toolCall toolGetImageState [] fun _ => none)

theorem guardrails_hold_askSevenTimes : Guarded plainToolLibrary exposureContext askSevenTimes :=
  guardrails_hold plainToolLibrary rfl askSevenTimes

end DarktableAgent.Server
