import DarktableAgent.Chat.MainLoop

/-! What the callbacks do to the part of the panel that later callbacks read.

Labels, transcripts and stored sessions are written all the time and decide about
nothing but the session that is shown next. They are left out of the core, and each
handler is described by what it makes of the core.
-/

set_option autoImplicit false

namespace DarktableAgent.Chat

open Foundation Protocol Client

/-- The record without labels, transcript, stored sessions and the pass counters of the status line. -/
def AgentChat.core (chat : AgentChat) : AgentChat :=
  { chat with
    transcript := ""
    statusLabel := ""
    errorLabel := ""
    imageSessions := .empty
    active := { chat.active with refinementPassIndex := 0, refinementMaxPasses := 0 } }

namespace AgentChat

variable (chat : AgentChat) (uuid : Nat → String) (drawn : Nat) (imageId : Int) (forceNewChat : Bool)

theorem isLoading_targetSession : (chat.targetSession uuid drawn imageId forceNewChat).1.isLoading =
    (chat.imageSessions.get? imageId).any (·.isLoading) := by
  unfold targetSession
  cases chat.imageSessions.get? imageId <;> cases forceNewChat <;> rfl

theorem le_targetSession : drawn ≤ (chat.targetSession uuid drawn imageId forceNewChat).2 := by
  unfold targetSession
  cases chat.imageSessions.get? imageId <;> cases forceNewChat <;> simp; omega

end AgentChat

section Core

variable {κ ν W : Type}

namespace Panel

def core (panel : Panel κ ν) : Panel κ ν := { panel with chat := panel.chat.core }

theorem core_onChat_congr {panel : Panel κ ν} {change other : AgentChat → AgentChat}
    (same : (change panel.chat).core = (other panel.chat).core) :
    (panel.onChat change).core = (panel.onChat other).core := by
  unfold onChat core
  rw [same]

theorem core_onChat {panel : Panel κ ν} {change : AgentChat → AgentChat}
    (same : (change panel.chat).core = panel.chat.core) : (panel.onChat change).core = panel.core :=
  @core_onChat_congr _ _ panel change id same

/-- Only what the core leaves out differs, or the panel has stopped loading besides. -/
def Calms (before after : Panel κ ν) : Prop :=
  after.core = before.core ∨ after.core = (before.onChat (·.setLoading false)).core

theorem Calms.refl (panel : Panel κ ν) : Calms panel panel := .inl rfl

theorem core_setLoading {before after : Panel κ ν} (same : after.core = before.core) (isLoading : Bool) :
    (after.onChat (·.setLoading isLoading)).core = (before.onChat (·.setLoading isLoading)).core := by
  have loaded : (after.core.onChat (·.setLoading isLoading)) = before.core.onChat (·.setLoading isLoading) := by
    rw [same]
  exact loaded

theorem Calms.trans {first second third : Panel κ ν} (before : Calms first second) (after : Calms second third) :
    Calms first third := by
  rcases before with before | before <;> rcases after with after | after
  · exact .inl (after.trans before)
  · exact .inr (after.trans (core_setLoading before false))
  · exact .inr (after.trans before)
  · exact .inr (after.trans (core_setLoading before false))

theorem Calms.onChat {panel : Panel κ ν} {change : AgentChat → AgentChat}
    (calm : (change panel.chat).core = panel.chat.core ∨
      (change panel.chat).core = (panel.chat.setLoading false).core) : Calms panel (panel.onChat change) := by
  rcases calm with same | quiet
  · exact .inl (core_onChat same)
  · exact .inr (core_onChat_congr quiet)

theorem core_cancelActiveRequest (panel : Panel κ ν) (statusText stopReason : String) :
    (panel.cancelActiveRequest statusText stopReason).core = (panel.cancelHandle.onChat (·.setLoading false)).core := by
  unfold cancelActiveRequest cancelHandle
  cases held : panel.chat.active.handle <;> cases loading : panel.chat.isLoading <;>
    simp [Panel.onCurrentSession, Panel.onChat, AgentChat.updateSession, core, AgentChat.core, AgentChat.setLoading,
      AgentChat.setStatus, AgentChat.setError, AgentChat.syncCurrentSession, held, loading]

theorem core_cancelHandle (panel : Panel κ ν) : panel.cancelHandle.core = panel.core.cancelHandle := by
  have sameHandle : panel.core.chat.active.handle = panel.chat.active.handle := rfl
  unfold cancelHandle
  rw [sameHandle]
  cases panel.chat.active.handle <;> rfl

theorem core_showRefinement (panel : Panel κ ν) : panel.showRefinement.core = panel.core := rfl

theorem core_armRender (panel : Panel κ ν) (progress : ClientProgress ν) :
    (panel.armRender progress).core = panel.core := by
  unfold armRender
  split <;> rfl

theorem core_announceToolCall (host : Host κ ν W) (panel : Panel κ ν) (progress : ClientProgress ν)
    (before : ActiveRequest) :
    (panel.announceToolCall host progress before).core = panel.core := by
  apply core_onChat
  split
  · rfl
  · split
    · split <;> rfl
    · rfl

theorem core_onCurrentSession (panel : Panel κ ν) (change : ChatSession → ChatSession) :
    (panel.onCurrentSession change).core = panel.core := rfl

theorem core_handleTransportError (panel : Panel κ ν) (message : Option String) :
    (panel.handleTransportError message).core = panel.core := rfl

theorem core_announceRequest (panel : Panel κ ν) (arguments : SubmitArguments) :
    (panel.announceRequest arguments).core = (panel.onChat (·.setLoading true)).core := by
  unfold announceRequest
  rw [core_onCurrentSession]
  obtain ⟨opened, isOpened⟩ : ∃ opened, panel.onChat (fun chat =>
    if arguments.appendUserMessage then chat.appendMessage "you" arguments.message else chat) = opened := ⟨_, rfl⟩
  have sameOpened : opened.core = panel.core := by
    rw [← isOpened]
    apply core_onChat
    split <;> rfl
  rw [isOpened]
  have loading : (opened.onChat fun chat => ((chat.setError "").setLoading true).updateRefinementStatus
      arguments.refinementPassIndex arguments.refinementMaxPasses).core = (opened.onChat (·.setLoading true)).core := rfl
  exact loading.trans (core_setLoading sameOpened true)

theorem core_abandonRequest {before after : Panel κ ν} (same : after.core = (before.onChat (·.setLoading true)).core)
    (message : String) : (after.abandonRequest message).core =
      { (before.onChat (·.setLoading false)).core with uuidsDrawn := before.uuidsDrawn + 1 } := by
  unfold abandonRequest
  rw [core_handleTransportError]
  have lowered := core_setLoading same false
  have drawn := congrArg Panel.uuidsDrawn same
  change after.uuidsDrawn = before.uuidsDrawn at drawn
  change { (after.onChat (·.setLoading false)).core with uuidsDrawn := after.uuidsDrawn + 1 } = _
  rw [lowered, drawn]
  rfl

theorem isLoading_switchToImageSession (host : Host κ ν W) (panel : Panel κ ν) (imageId : Int) (forceNewChat : Bool) :
    (panel.switchToImageSession host imageId forceNewChat).chat.isLoading =
      (panel.chat.syncCurrentSession.imageSessions.get? imageId).any (·.isLoading) :=
  AgentChat.isLoading_targetSession ..

theorem le_switchToImageSession (host : Host κ ν W) (panel : Panel κ ν) (imageId : Int) (forceNewChat : Bool) :
    panel.uuidsDrawn ≤ (panel.switchToImageSession host imageId forceNewChat).uuidsDrawn :=
  AgentChat.le_targetSession ..

theorem core_startRequest (host : Host κ ν W) (arguments : SubmitArguments) {before after : Panel κ ν}
    (same : after.core = before.core) :
    (after.startRequest host arguments).core = (before.startRequest host arguments).core := by
  have started : (after.core.startRequest host arguments).core = (before.core.startRequest host arguments).core := by
    rw [same]
  exact started

/-- A snapshot that the panel takes. -/
def takes (panel : Panel κ ν) (progress : ClientProgress ν) : Bool :=
  !panel.chat.ignoresProgress && !passedOver progress && progress.found

theorem takes_eq_true {panel : Panel κ ν} {progress : ClientProgress ν} (taken : panel.takes progress) :
    panel.chat.preferences.multiTurnEnabled ∧ panel.chat.isLoading ∧ panel.chat.active.handle.isSome ∧
      passedOver progress = false ∧ progress.found := by
  simp only [takes, AgentChat.ignoresProgress, Bool.and_eq_true, Bool.not_eq_true', Bool.or_eq_false_iff,
    Bool.not_eq_false', Option.isNone_eq_false_iff] at taken
  exact ⟨taken.1.1.1.1.1, taken.1.1.1.1.2, taken.1.1.1.2, taken.1.2, taken.2⟩

theorem pendingOperations_eq_some {panel : Panel κ ν} {progress : ClientProgress ν}
    {operations : List (ChatOperation ν)} (pending : panel.pendingOperations progress = some operations) :
    panel.develop.visible ∧ ∃ response, progress.response = some response ∧
      panel.chat.active.liveAppliedCount < response.operations.length ∧
      operations = response.operations.drop panel.chat.active.liveAppliedCount := by
  unfold pendingOperations at pending
  cases answered : progress.response with
  | none =>
    rw [answered] at pending
    cases pending
  | some response =>
    rw [answered] at pending
    dsimp only at pending
    split_ifs at pending with applies
    exact ⟨applies.1, response, rfl, applies.2, (Option.some.inj pending).symm⟩

section Host

variable (host : Host κ ν W)

/-- The panel that shows the session of the image in the darkroom, as every submission makes it first. -/
def reopened (panel : Panel κ ν) : Panel κ ν :=
  panel.switchToImageSession host panel.develop.currentImageId false

/-- How far a submission gets: it is refused, it is given up once it was announced, or it is sent. -/
theorem submitInternal_paths (panel : Panel κ ν) (arguments : SubmitArguments) (outcome : SubmitOutcome) :
    (panel.submitInternal host arguments outcome).panel = panel.reopened host ∨
    (panel.reopened host).chat.isLoading = false ∧
      ((∃ message, (panel.submitInternal host arguments outcome).panel =
          ((panel.reopened host).announceRequest arguments).abandonRequest message) ∨
        (panel.submitInternal host arguments outcome).panel =
          ((panel.reopened host).announceRequest arguments).startRequest host arguments) := by
  obtain ⟨switched, isSwitched⟩ : ∃ switched, panel.reopened host = switched := ⟨_, rfl⟩
  rw [isSwitched]
  unfold reopened at isSwitched
  unfold submitInternal
  rw [isSwitched]
  by_cases refused : switched.chat.isLoading ∨ arguments.message = ""
  · left
    rw [if_pos refused]
  rw [if_neg refused]
  refine .inr ⟨Bool.eq_false_iff.mpr (not_or.mp refused).1, ?_⟩
  -- a message that is not empty can fail to be built or to be queued, and is sent otherwise
  cases built : arguments.build outcome with
  | error message => exact .inl ⟨message, rfl⟩
  | ok =>
    cases outcome with
    | queueFailed message => exact .inl ⟨message, rfl⟩
    | queued | buildFailed => exact .inr rfl

/-- All that a submission can do to the panel. -/
theorem submitInternal_cases (panel : Panel κ ν) (arguments : SubmitArguments) (outcome : SubmitOutcome) :
    (panel.submitInternal host arguments outcome).panel = panel.reopened host ∨
    (panel.submitInternal host arguments outcome).panel.core =
      { ((panel.reopened host).onChat (·.setLoading false)).core with
        uuidsDrawn := (panel.reopened host).uuidsDrawn + 1 } ∨
    (panel.submitInternal host arguments outcome).panel.core =
      (((panel.reopened host).onChat (·.setLoading true)).startRequest host arguments).core := by
  rcases panel.submitInternal_paths host arguments outcome with refused | ⟨-, ⟨message, abandoned⟩ | started⟩
  · exact .inl refused
  · refine .inr (.inl ?_)
    rw [abandoned]
    exact core_abandonRequest (core_announceRequest _ arguments) message
  · refine .inr (.inr ?_)
    rw [started]
    exact core_startRequest host arguments (core_announceRequest _ arguments)

theorem settle_core (panel : Panel κ ν) (submission : ChatSubmission) (result : ClientResult ν) :
    (panel.settle submission result).core =
      if panel.chat.matchesActiveRequest submission then (panel.onChat (·.clearActiveRequest)).core else panel.core := by
  cases active : panel.chat.matchesActiveRequest submission with
  | true => exact core_onChat_congr (by rw [active]; rfl)
  | false => exact core_onChat (by rw [active]; rfl)

theorem finishCancelled_calms (panel : Panel κ ν) (submission : ChatSubmission) (isActive : Bool) :
    Calms panel (panel.finishCancelled submission isActive) := by
  refine Calms.onChat ?_
  cases isActive with
  | false => exact .inl rfl
  | true =>
    rw [if_neg (not_not.mpr rfl)]
    dsimp only
    split
    · exact .inr rfl
    · exact .inl rfl

theorem quiets_calms (panel : Panel κ ν) (submission : ChatSubmission) : Calms panel (panel.onChat fun chat =>
    if chat.matchesCurrentSession submission then chat.setLoading false else chat) := by
  refine Calms.onChat ?_
  split
  · exact .inr rfl
  · exact .inl rfl

theorem finishStale_calms (panel : Panel κ ν) (submission : ChatSubmission) :
    Calms panel (panel.finishStale submission) := by
  refine Calms.onChat ?_
  dsimp only
  split
  · exact .inr rfl
  · exact .inl rfl

theorem finishMismatch_core (panel : Panel κ ν) (submission : ChatSubmission) :
    (panel.finishMismatch submission).core = panel.core := by
  refine core_onChat ?_
  dsimp only
  split <;> rfl

theorem finishHidden_core (panel : Panel κ ν) (submission : ChatSubmission) (result : ClientResult ν) :
    (panel.finishHidden submission result).core = panel.core :=
  core_onChat rfl

theorem core_appendSummary (panel : Panel κ ν) (report : ExecutionReport ν) :
    (panel.appendSummary host report).core = panel.core := by
  apply core_onChat
  split <;> rfl

/-- How the handling of a response ends: with what is shown, or with the submission of the next pass. -/
def Continues (before after : Panel κ ν) : Prop :=
  after.core = before.core ∨ ∃ (middle : Panel κ ν) (arguments : SubmitArguments) (outcome : SubmitOutcome),
    middle.core = before.core ∧ after.core = (middle.submitInternal host arguments outcome).panel.core

theorem continueRefinement_continues (panel : Panel κ ν) (submission : ChatSubmission) (response : ChatResponse ν)
    (outcome : SubmitOutcome) :
    Continues host panel (panel.continueRefinement host submission response outcome).panel := by
  unfold continueRefinement
  split
  · exact .inl rfl
  · exact .inr ⟨_, _, _, core_onChat rfl, rfl⟩

end Host

section Handlers

variable [Numeric ν] (host : Host κ ν W)

/-- What is executed of a snapshot. -/
def snapshotOperations (panel : Panel κ ν) (progress : ClientProgress ν) : Option (List (ChatOperation ν)) :=
  if panel.takes progress then panel.pendingOperations progress else none

/-- All that a snapshot can do to the panel. -/
theorem progressFinished_cases (panel : Panel κ ν) (origin : ChatSubmission) (progress : ClientProgress ν) :
    (panel.takes progress = false ∧ (panel.progressFinished host origin progress).core = panel.core) ∨
    (panel.takes progress ∧ panel.pendingOperations progress = none ∧
      (panel.progressFinished host origin progress).core = (panel.countToolCalls progress).core) ∨
    ∃ operations, panel.takes progress ∧ panel.pendingOperations progress = some operations ∧
      (((panel.execution host operations).ok ∧ (panel.progressFinished host origin progress).core =
          (((panel.countToolCalls progress).afterExecution host origin operations).countLiveEdits progress).core) ∨
        ((panel.execution host operations).ok = false ∧ (panel.progressFinished host origin progress).core =
          (((panel.countToolCalls progress).afterExecution host origin operations).cancelHandle.onChat
            (·.setLoading false)).core)) := by
  unfold progressFinished takes
  by_cases passed : panel.chat.ignoresProgress ∨ passedOver progress
  · left
    rw [if_pos passed]
    rcases passed with ignored | passed
    · simp [ignored]
    · simp [passed]
  rw [if_neg passed]
  obtain ⟨heard, fresh⟩ := not_or.mp passed
  cases found : progress.found with
  | false =>
    left
    exact ⟨by simp, core_showRefinement panel⟩
  | true =>
    right
    cases pending : panel.pendingOperations progress with
    | none =>
      left
      refine ⟨by simp [heard, fresh], rfl, ?_⟩
      exact core_announceToolCall host _ _ _
    | some operations =>
      right
      refine ⟨operations, by simp [heard, fresh], rfl, ?_⟩
      have sameExecution : (panel.countToolCalls progress).execution host operations = panel.execution host operations :=
        rfl
      cases ok : (panel.execution host operations).ok with
      | true =>
        left
        refine ⟨rfl, ?_⟩
        simp only [not_true_eq_false, if_false, sameExecution, ok, if_true]
        rw [core_showRefinement, core_announceToolCall, core_armRender]
      | false =>
        right
        refine ⟨rfl, ?_⟩
        -- the labels before and after the cancellation are no part of the core
        simp only [not_true_eq_false, if_false, sameExecution, ok, Bool.false_eq_true]
        rw [failLiveApply, core_cancelActiveRequest]
        refine core_setLoading ?_ false
        rw [core_cancelHandle, core_cancelHandle]
        exact congrArg cancelHandle (core_onChat rfl)

/-- What is executed of a result that is neither cancelled nor stale. -/
def currentOperations (panel : Panel κ ν) (submission : ChatSubmission) (result : ClientResult ν) (liveApplied : Nat) :
    Option (List (ChatOperation ν)) :=
  if revisionMismatch host panel.develop submission result liveApplied ∨ ¬ panel.develop.visible then none
  else
    match result.transportError, result.response with
    | none, some response =>
      if response.status = "error" ∨ response.operations.length ≤ liveApplied then none
      else some (response.operations.drop liveApplied)
    | _, _ => none

/-- What is executed of a result. -/
def finalOperations (panel : Panel κ ν) (submission : ChatSubmission) (result : ClientResult ν) :
    Option (List (ChatOperation ν)) :=
  if result.cancelled
      ∨ panel.develop.visible ∧ isStaleResponse (panel.settle submission result).chat panel.develop submission result
  then none
  else panel.currentOperations host submission result (panel.chat.liveAppliedFor submission)

theorem core_afterExecution {before after : Panel κ ν} (same : after.core = before.core) (origin : ChatSubmission)
    (operations : List (ChatOperation ν)) :
    (after.afterExecution host origin operations).core = (before.afterExecution host origin operations).core := by
  have executed : (after.core.afterExecution host origin operations).core =
      (before.core.afterExecution host origin operations).core := by rw [same]
  exact executed

theorem Calms.afterExecution {before after : Panel κ ν} (calm : Calms before after) (origin : ChatSubmission)
    (operations : List (ChatOperation ν)) :
    Calms (before.afterExecution host origin operations) (after.afterExecution host origin operations) := by
  rcases calm with same | quiet
  · exact .inl (core_afterExecution host same origin operations)
  · exact .inr (core_afterExecution host quiet origin operations)

theorem core_applyRest (panel : Panel κ ν) (submission : ChatSubmission) (operations : List (ChatOperation ν)) :
    (panel.applyRest host submission operations).panel.core =
      (panel.afterExecution host submission operations).core := by
  unfold applyRest
  dsimp only
  split
  · exact (core_onChat rfl).trans (core_appendSummary host _ _)
  · exact (core_onChat rfl).trans ((core_appendSummary host _ _).trans (core_onChat rfl))

theorem core_handleResponse (panel : Panel κ ν) (submission : ChatSubmission) (response : ChatResponse ν)
    (alreadyApplied : Nat) :
    (panel.handleResponse host submission response alreadyApplied).panel.core =
      if response.status = "error" ∨ response.operations.length ≤ alreadyApplied then panel.core
      else (panel.afterExecution host submission (response.operations.drop alreadyApplied)).core := by
  obtain ⟨told, isTold⟩ : ∃ told, panel.onChat (fun chat =>
    if response.messageText = "" then chat else chat.appendMessage "assistant" response.messageText) = told := ⟨_, rfl⟩
  have sameTold : told.core = panel.core := by
    rw [← isTold]
    apply core_onChat
    split <;> rfl
  unfold handleResponse
  rw [isTold]
  by_cases refused : response.status = "error"
  · rw [if_pos refused, if_pos (.inl refused)]
    exact (core_onChat rfl).trans sameTold
  rw [if_neg refused]
  -- the count of live edits is cut to the number of operations before it is compared
  by_cases nothing : response.operations.length ≤ alreadyApplied
  · rw [if_pos (le_min nothing le_rfl), if_pos (.inr nothing)]
    exact (core_onChat rfl).trans sameTold
  · have within : min alreadyApplied response.operations.length = alreadyApplied := by omega
    rw [within, if_neg nothing, if_neg (not_or.mpr ⟨refused, nothing⟩), core_applyRest]
    exact core_afterExecution host sameTold submission _

theorem finishVisible_continues (panel : Panel κ ν) (submission : ChatSubmission) (response : ChatResponse ν)
    (liveApplied : Nat) (outcome : SubmitOutcome) :
    Continues host ((panel.onChat (·.setError "")).handleResponse host submission response liveApplied).panel
      (panel.finishVisible host submission response liveApplied outcome) := by
  unfold finishVisible
  dsimp only
  split
  · exact .inl rfl
  · have continued := continueRefinement_continues host
      ((panel.onChat (·.setError "")).handleResponse host submission response liveApplied).panel submission response outcome
    split
    · exact continued
    · rcases continued with same | ⟨middle, arguments, next, sameMiddle, submitted⟩
      · exact .inl ((core_onChat rfl).trans same)
      · exact .inr ⟨middle, arguments, next, sameMiddle, (core_onChat rfl).trans submitted⟩

/-- What the operations of a callback leave behind, before anything is continued. -/
def executes (panel : Panel κ ν) (origin : ChatSubmission) (operations : Option (List (ChatOperation ν))) : Panel κ ν :=
  match operations with
  | none => panel
  | some operations => panel.afterExecution host origin operations

theorem finishCurrent_cases (panel : Panel κ ν) (submission : ChatSubmission) (result : ClientResult ν)
    (liveApplied : Nat) (outcome : SubmitOutcome) :
    ∃ middle, Calms (panel.executes host submission
        (panel.currentOperations host submission result liveApplied)) middle ∧
      Continues host middle (panel.finishCurrent host submission result liveApplied outcome) := by
  obtain ⟨quiet, isQuiet⟩ : ∃ quiet, panel.onChat (fun chat =>
    if chat.matchesCurrentSession submission then chat.setLoading false else chat) = quiet := ⟨_, rfl⟩
  have calm : Calms panel quiet := by
    rw [← isQuiet]
    exact quiets_calms panel submission
  have sameDevelop : quiet.develop = panel.develop := by rw [← isQuiet]; rfl
  unfold finishCurrent currentOperations
  rw [isQuiet]
  dsimp only
  rw [sameDevelop]
  by_cases mismatch : revisionMismatch host panel.develop submission result liveApplied
  · rw [if_pos mismatch, if_pos (.inl mismatch)]
    exact ⟨quiet, calm, .inl (finishMismatch_core quiet submission)⟩
  rw [if_neg mismatch]
  by_cases hidden : ¬ panel.develop.visible
  · rw [if_pos hidden, if_pos (.inr hidden)]
    exact ⟨quiet, calm, .inl (finishHidden_core quiet submission result)⟩
  rw [if_neg hidden, if_neg (not_or.mpr ⟨mismatch, hidden⟩)]
  cases result.transportError with
  | some message => exact ⟨quiet, calm, .inl (core_handleTransportError quiet _)⟩
  | none =>
    cases result.response with
    | none => exact ⟨quiet, calm, .inl (core_handleTransportError quiet _)⟩
    | some response =>
      refine ⟨_, ?_, finishVisible_continues host quiet submission response liveApplied outcome⟩
      -- the core is what the operations leave, with or without the loading flag lowered first
      have handled := core_handleResponse host (quiet.onChat (·.setError "")) submission response liveApplied
      have cleared : (quiet.onChat (·.setError "")).core = quiet.core := core_onChat rfl
      dsimp only
      by_cases nothing : response.status = "error" ∨ response.operations.length ≤ liveApplied
      · rw [if_pos nothing] at handled ⊢
        exact calm.trans (.inl (handled.trans cleared))
      · rw [if_neg nothing] at handled ⊢
        have executed := calm.afterExecution host submission (response.operations.drop liveApplied)
        exact executed.trans (.inl (handled.trans (core_afterExecution host cleared submission _)))

/-- All that a result can do to the panel. -/
theorem requestFinished_cases (panel : Panel κ ν) (submission : ChatSubmission) (result : ClientResult ν)
    (outcome : SubmitOutcome) :
    ∃ middle, Calms ((panel.settle submission result).executes host submission
        (panel.finalOperations host submission result)) middle ∧
      Continues host middle (panel.requestFinished host submission result outcome) := by
  obtain ⟨settled, isSettled⟩ : ∃ settled, panel.settle submission result = settled := ⟨_, rfl⟩
  have sameDevelop : settled.develop = panel.develop := by rw [← isSettled]; rfl
  unfold requestFinished finalOperations
  rw [isSettled]
  dsimp only
  rw [sameDevelop]
  by_cases cancelled : result.cancelled
  · rw [if_pos cancelled, if_pos (.inl cancelled)]
    exact ⟨_, finishCancelled_calms settled submission _, .inl rfl⟩
  rw [if_neg cancelled]
  by_cases stale : panel.develop.visible ∧ isStaleResponse settled.chat panel.develop submission result
  · rw [if_pos stale, if_pos (.inr stale)]
    exact ⟨_, finishStale_calms settled submission, .inl rfl⟩
  rw [if_neg stale, if_neg (not_or.mpr ⟨cancelled, stale⟩)]
  have current := finishCurrent_cases host settled submission result (panel.chat.liveAppliedFor submission) outcome
  have sameOperations : settled.currentOperations host submission result (panel.chat.liveAppliedFor submission) =
      panel.currentOperations host submission result (panel.chat.liveAppliedFor submission) := by
    unfold currentOperations
    rw [sameDevelop]
  rwa [sameOperations] at current

end Handlers

end Panel

end Core

end DarktableAgent.Chat
