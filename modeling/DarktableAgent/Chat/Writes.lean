import DarktableAgent.Chat.Labels

/-! How far each callback gets, up to labels.

A callback writes labels, executes operations and counts, and besides that it makes one
of a few moves: it cancels the request that is held, it files a result with the session
it is for, or it submits the next request.
-/

set_option autoImplicit false

namespace DarktableAgent.Chat

open Foundation Protocol Client

section Writes

variable {κ ν W : Type}

/-- Labels of the session that is shown, counters and the edit are written. -/
structure Writes (before after : Panel κ ν) : Prop where
  labels : Labels before.chat after.chat
  handle : after.chat.active.handle = before.chat.active.handle
  requestId : after.chat.active.requestId = before.chat.active.requestId
  transfers : after.transfers = before.transfers
  queue : after.queue = before.queue
  uuidsDrawn : after.uuidsDrawn = before.uuidsDrawn
  visible : after.develop.visible = before.develop.visible
  imageId : after.develop.imageId = before.develop.imageId

namespace Writes

variable {first second third : Panel κ ν}

theorem refl (panel : Panel κ ν) : Writes panel panel := ⟨.refl _, rfl, rfl, rfl, rfl, rfl, rfl, rfl⟩

theorem trans (before : Writes first second) (after : Writes second third) : Writes first third where
  labels := before.labels.trans after.labels
  handle := after.handle.trans before.handle
  requestId := after.requestId.trans before.requestId
  transfers := after.transfers.trans before.transfers
  queue := after.queue.trans before.queue
  uuidsDrawn := after.uuidsDrawn.trans before.uuidsDrawn
  visible := after.visible.trans before.visible
  imageId := after.imageId.trans before.imageId

theorem of_core (same : second.core = first.core) (labels : Labels first.chat second.chat) : Writes first second where
  labels := labels
  handle := congrArg (·.chat.active.handle) same
  requestId := congrArg (·.chat.active.requestId) same
  transfers := congrArg (·.transfers) same
  queue := congrArg (·.queue) same
  uuidsDrawn := congrArg (·.uuidsDrawn) same
  visible := congrArg (·.develop.visible) same
  imageId := congrArg (·.develop.imageId) same

theorem setStatus (panel : Panel κ ν) (status : String) : Writes panel (panel.onChat (·.setStatus status)) :=
  .of_core rfl (Labels.setStatus ..)

theorem setError (panel : Panel κ ν) (error : String) : Writes panel (panel.onChat (·.setError error)) :=
  .of_core rfl (Labels.setError ..)

theorem appendMessage (panel : Panel κ ν) (speaker message : String) :
    Writes panel (panel.onChat (·.appendMessage speaker message)) :=
  .of_core rfl (Labels.appendMessage ..)

theorem showRefinement (panel : Panel κ ν) : Writes panel panel.showRefinement :=
  .of_core panel.core_showRefinement panel.labels_showRefinement

theorem armRender (panel : Panel κ ν) (progress : ClientProgress ν) : Writes panel (panel.armRender progress) :=
  .of_core (panel.core_armRender progress) (panel.labels_armRender progress)

theorem announceToolCall (host : Host κ ν W) (panel : Panel κ ν) (progress : ClientProgress ν) (before : ActiveRequest) :
    Writes panel (panel.announceToolCall host progress before) :=
  .of_core (panel.core_announceToolCall host progress before) (panel.labels_announceToolCall host progress before)

theorem handleTransportError (panel : Panel κ ν) (message : Option String) :
    Writes panel (panel.handleTransportError message) :=
  .of_core (panel.core_handleTransportError message) (panel.labels_handleTransportError message)

theorem countToolCalls (panel : Panel κ ν) (progress : ClientProgress ν) : Writes panel (panel.countToolCalls progress) :=
  { refl panel with labels := { Labels.refl panel.chat with } }

theorem countLiveEdits (panel : Panel κ ν) (progress : ClientProgress ν) : Writes panel (panel.countLiveEdits progress) :=
  { refl panel with labels := { Labels.refl panel.chat with } }

variable [Numeric ν] (host : Host κ ν W)

theorem afterExecution (panel : Panel κ ν) (origin : ChatSubmission) (operations : List (ChatOperation ν)) :
    Writes panel (panel.afterExecution host origin operations) := { refl panel with }

theorem handleResponse (panel : Panel κ ν) (submission : ChatSubmission) (response : ChatResponse ν) (applied : Nat) :
    Writes panel (panel.handleResponse host submission response applied).panel := by
  have labels := panel.labels_handleResponse host submission response applied
  have core := panel.core_handleResponse host submission response applied
  split_ifs at core
  · exact .of_core core labels
  · have executed : Writes panel (panel.afterExecution host submission (response.operations.drop applied)) :=
      afterExecution host ..
    exact { executed.trans (.of_core core { labels with }) with labels }

end Writes

end Writes

/-- The transfers' threads leave the panel alone. -/
theorem Panel.chat_streamed {κ ν : Type} (panel : Panel κ ν) (requestId : String) (progress : ClientProgress ν) :
    (panel.streamed requestId progress).chat = panel.chat := by
  unfold streamed
  split
  · split <;> rfl
  · rfl

theorem Panel.chat_ended {κ ν : Type} (panel : Panel κ ν) (requestId : String) (ending : TransferEnd ν) :
    (panel.ended requestId ending).chat = panel.chat := by
  unfold ended
  split
  · split <;> rfl
  · rfl

section Paths

variable {κ ν W : Type} [Numeric ν] (host : Host κ ν W) (panel : Panel κ ν)

namespace Panel

/-- A snapshot writes labels, and cancels the request that is held if its operations could not all be applied. -/
theorem progressFinished_paths (origin : ChatSubmission) (progress : ClientProgress ν) :
    Writes panel (panel.progressFinished host origin progress) ∨
    ∃ operations ∈ panel.snapshotOperations progress, (panel.execution host operations).ok = false ∧
      ∃ middle, Writes panel middle ∧ panel.progressFinished host origin progress =
        middle.cancelActiveRequest "Live apply failed" "apply-failed" := by
  have counted := Writes.countToolCalls panel progress
  -- the branches of the source in its order: passed over, nothing found, nothing pending, executed
  by_cases passed : panel.chat.ignoresProgress ∨ passedOver progress
  · left
    unfold progressFinished
    rw [if_pos passed]
    exact .refl panel
  by_cases found : progress.found
  case neg =>
    left
    unfold progressFinished
    rw [if_neg passed, if_pos found]
    exact .showRefinement panel
  cases pending : panel.pendingOperations progress with
  | none =>
    left
    unfold progressFinished
    rw [if_neg passed, if_neg (not_not.mpr found), pending]
    exact (counted.trans (.announceToolCall host ..)).trans (.showRefinement _)
  | some operations =>
    have executed := counted.trans (.afterExecution host _ origin operations)
    have sameExecution : (panel.countToolCalls progress).execution host operations = panel.execution host operations :=
      rfl
    unfold progressFinished
    rw [if_neg passed, if_neg (not_not.mpr found), pending]
    dsimp only
    rw [sameExecution]
    cases ok : (panel.execution host operations).ok with
    | true =>
      left
      rw [if_pos rfl]
      refine Writes.trans ?_ (.showRefinement _)
      refine Writes.trans ?_ (.announceToolCall host ..)
      exact (executed.trans (.countLiveEdits ..)).trans (.armRender ..)
    | false =>
      right
      have taken : panel.snapshotOperations progress = some operations := by
        obtain ⟨heard, fresh⟩ := not_or.mp passed
        have takes : panel.takes progress := by simp [takes, heard, fresh, found]
        unfold snapshotOperations
        rw [if_pos takes, pending]
      rw [if_neg Bool.false_ne_true]
      refine ⟨operations, taken, ok, _, executed.trans ?_, rfl⟩
      exact (Writes.setError ..).trans (.setStatus ..)

/-- What is left of a panel on which a result was handled: nothing more, or the next request was submitted. -/
def Resubmits (before after : Panel κ ν) : Prop :=
  after = before ∨ ∃ arguments outcome, after = (before.submitInternal host arguments outcome).panel

theorem finishVisible_paths (submission : ChatSubmission) (response : ChatResponse ν) (liveApplied : Nat)
    (outcome : SubmitOutcome) : ∃ told sent, Writes panel told ∧ Resubmits host told sent ∧
      Writes sent (panel.finishVisible host submission response liveApplied outcome) := by
  obtain ⟨handled, isHandled⟩ : ∃ handled,
    (panel.onChat (·.setError "")).handleResponse host submission response liveApplied = handled := ⟨_, rfl⟩
  have told : Writes panel handled.panel := by
    rw [← isHandled]
    exact (Writes.setError ..).trans (.handleResponse host ..)
  -- the next pass is announced and submitted at once, so what was told comes before it
  have continued : ∃ told, Writes panel told ∧
      Resubmits host told (handled.panel.continueRefinement host submission response outcome).panel := by
    unfold continueRefinement
    split
    · exact ⟨_, told, .inl rfl⟩
    · exact ⟨_, told.trans (.appendMessage ..), .inr ⟨_, _, rfl⟩⟩
  obtain ⟨announced, writes, resubmits⟩ := continued
  unfold finishVisible
  dsimp only
  rw [isHandled]
  by_cases failed : ¬ handled.ok
  · rw [if_pos failed]
    exact ⟨_, _, told, .inl rfl, .refl _⟩
  rw [if_neg failed]
  split
  · exact ⟨_, _, writes, resubmits, .refl _⟩
  · exact ⟨_, _, writes, resubmits, .setStatus ..⟩

/-- The panel of a result that is not turned down, and no longer waits for it. -/
def quieted (submission : ChatSubmission) : Panel κ ν :=
  panel.onChat fun chat => if chat.matchesCurrentSession submission then chat.setLoading false else chat

/-- A result that is neither cancelled nor stale is turned down because the image changed, kept for the session
while the darkroom is hidden, or shown. -/
theorem finishCurrent_paths (submission : ChatSubmission) (result : ClientResult ν) (liveApplied : Nat)
    (outcome : SubmitOutcome) :
    (revisionMismatch host panel.develop submission result liveApplied ∧
      panel.finishCurrent host submission result liveApplied outcome =
        (panel.quieted submission).finishMismatch submission) ∨
    (panel.develop.visible = false ∧
      revisionMismatch host panel.develop submission result liveApplied = false ∧
      panel.finishCurrent host submission result liveApplied outcome =
        (panel.quieted submission).finishHidden submission result) ∨
    panel.develop.visible ∧ ∃ told sent, Writes (panel.quieted submission) told ∧ Resubmits host told sent ∧
      Writes sent (panel.finishCurrent host submission result liveApplied outcome) := by
  obtain ⟨quiet, isQuiet⟩ : ∃ quiet, panel.quieted submission = quiet := ⟨_, rfl⟩
  have sameDevelop : quiet.develop = panel.develop := by rw [← isQuiet]; rfl
  unfold quieted at isQuiet
  unfold finishCurrent quieted
  dsimp only
  rw [isQuiet, sameDevelop]
  split_ifs with mismatch visible
  · exact .inl ⟨mismatch, rfl⟩
  · refine .inr (.inr ⟨visible, ?_⟩)
    cases result.transportError with
    | some message => exact ⟨_, _, .refl _, .inl rfl, .handleTransportError ..⟩
    | none =>
      cases result.response with
      | none => exact ⟨_, _, .refl _, .inl rfl, .handleTransportError ..⟩
      | some response => exact finishVisible_paths host quiet submission response liveApplied outcome
  · exact .inr (.inl ⟨Bool.eq_false_iff.mpr visible, Bool.eq_false_iff.mpr mismatch, rfl⟩)

/-- A result is filed with its session, and is then cancelled, stale or current. -/
theorem requestFinished_paths (submission : ChatSubmission) (result : ClientResult ν) (outcome : SubmitOutcome) :
    (result.cancelled ∧ panel.requestFinished host submission result outcome =
      (panel.settle submission result).finishCancelled submission (panel.chat.matchesActiveRequest submission)) ∨
    (panel.develop.visible ∧ panel.requestFinished host submission result outcome =
      (panel.settle submission result).finishStale submission) ∨
    (result.cancelled = false ∧ (panel.develop.visible →
        isStaleResponse (panel.settle submission result).chat panel.develop submission result = false) ∧
      panel.requestFinished host submission result outcome = (panel.settle submission result).finishCurrent host submission
        result (panel.chat.liveAppliedFor submission) outcome) := by
  have sameDevelop : (panel.settle submission result).develop = panel.develop := rfl
  unfold requestFinished
  dsimp only
  rw [sameDevelop]
  split_ifs with cancelled stale
  · exact .inl ⟨cancelled, rfl⟩
  · exact .inr (.inl ⟨stale.1, rfl⟩)
  · refine .inr (.inr ⟨Bool.eq_false_iff.mpr cancelled, fun visible => ?_, rfl⟩)
    exact Bool.eq_false_iff.mpr fun isStale => stale ⟨visible, isStale⟩

end Panel

end Paths

end DarktableAgent.Chat
