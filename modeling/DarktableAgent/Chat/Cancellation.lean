import DarktableAgent.Chat.Confinement
import DarktableAgent.Chat.Log

/-! What is executed of a request after it was cancelled.

A cancellation marks the transfer and drops the panel's handle. The callbacks that are
queued by then, and those of a transfer that was over before it saw the mark, still run.
-/

set_option autoImplicit false

namespace DarktableAgent.Chat

open Foundation Protocol Client

section Cancellation

variable {κ ν W : Type} [Numeric ν] (host : Host κ ν W)

/-- Once a request is cancelled, nothing of it is executed in the rest of the run. -/
def CancellationsHold (start : Panel κ ν) (events : List (Event κ ν)) : Prop :=
  ∀ first second, events = first ++ second → ∀ requestId, (run (step host) start first).IsCancelled requestId →
    ∀ batch ∈ (run (step host) start first).executedSince (run (step host) start events),
      batch.origin.requestId ≠ requestId

/-- A snapshot has nothing for the panel to execute. -/
def SnapshotSpent (panel : Panel κ ν) (progress : ClientProgress ν) : Prop :=
  panel.takes progress → panel.develop.visible → ∀ response ∈ progress.response,
    response.operations.length ≤ panel.chat.active.liveAppliedCount

/-- A result is marked cancelled, comes to a hidden darkroom, is stale, was planned for another revision, or has
nothing to execute. -/
def ResultSpent (panel : Panel κ ν) (submission : ChatSubmission) (result : ClientResult ν) : Prop :=
  result.cancelled ∨ ¬ panel.develop.visible
    ∨ isStaleResponse (panel.settle submission result).chat panel.develop submission result
    ∨ revisionMismatch host panel.develop submission result (panel.chat.liveAppliedFor submission)
    ∨ result.transportError ≠ none
    ∨ ∀ response ∈ result.response,
        response.status = "error" ∨ response.operations.length ≤ panel.chat.liveAppliedFor submission

/-- A cancelled request's snapshot is spent when it meets a panel that holds another request, and its result is
spent. -/
def CancelledSpent (panel : Panel κ ν) : Event κ ν → Prop
  | .dispatch _ =>
    match panel.queue with
    | .progress origin progress :: _ => panel.IsCancelled origin.requestId →
        panel.chat.active.handle.any (· ≠ origin.requestId) → SnapshotSpent panel progress
    | .result submission result :: _ => panel.IsCancelled submission.requestId →
        ResultSpent host panel submission result
    | [] => True
  | _ => True

omit [Numeric ν] in
theorem snapshotOperations_eq_none_iff (panel : Panel κ ν) (progress : ClientProgress ν) :
    panel.snapshotOperations progress = none ↔ SnapshotSpent panel progress := by
  unfold Panel.snapshotOperations SnapshotSpent Panel.pendingOperations
  by_cases taken : panel.takes progress
  · rw [if_pos taken]
    cases progress.response with
    | none => simp
    | some response =>
      have forward : (∀ answer ∈ some response, answer.operations.length ≤ panel.chat.active.liveAppliedCount) ↔
          response.operations.length ≤ panel.chat.active.liveAppliedCount := by simp
      rw [forward]
      dsimp only
      split_ifs with applies
      · simp [taken, applies]
      · have spent : panel.develop.visible → response.operations.length ≤ panel.chat.active.liveAppliedCount :=
          fun visible => not_lt.mp fun more => applies ⟨visible, more⟩
        simpa [taken] using spent
  · simp [taken]

omit [Numeric ν] in
theorem finalOperations_eq_none_iff (panel : Panel κ ν) (submission : ChatSubmission) (result : ClientResult ν) :
    panel.finalOperations host submission result = none ↔ ResultSpent host panel submission result := by
  unfold Panel.finalOperations ResultSpent Panel.currentOperations
  by_cases cancelled : result.cancelled
  · simp [cancelled]
  by_cases visible : panel.develop.visible
  swap
  · simp [visible]
  by_cases stale : isStaleResponse (panel.settle submission result).chat panel.develop submission result
  · simp [visible, stale]
  by_cases mismatch : revisionMismatch host panel.develop submission result (panel.chat.liveAppliedFor submission)
  · simp [mismatch]
  -- only what the response holds is left to decide
  rw [if_neg (by simp [cancelled, stale]), if_neg (by simp [mismatch, visible])]
  cases result.transportError with
  | some message => simp
  | none =>
    cases result.response with
    | none => simp
    | some response => simp [cancelled, visible, stale, mismatch, or_iff_not_imp_left]

/-- Nothing of a cancelled request is executed by an event, exactly when its callback is spent. -/
theorem executedBy_cancelled_iff {panel : Panel κ ν} (wired : Wired host panel) (event : Event κ ν) :
    (∀ batch ∈ panel.executedBy host event, ¬ panel.IsCancelled batch.origin.requestId) ↔
      CancelledSpent host panel event := by
  have batches : ∀ origin (operations : Option (List (ChatOperation ν))),
      (∀ batch ∈ panel.batches host origin operations, ¬ panel.IsCancelled batch.origin.requestId) ↔
        (panel.IsCancelled origin.requestId → operations = none) := by
    intro origin operations
    cases operations with
    | none => simp [Panel.batches]
    | some operations => simp [Panel.batches]
  cases event with
  | dispatch outcome =>
    unfold Panel.executedBy CancelledSpent
    dsimp only
    cases panel.queue with
    | nil => simp
    | cons delivery rest =>
      cases delivery with
      | progress origin progress =>
        refine (batches origin _).trans ?_
        rw [snapshotOperations_eq_none_iff]
        refine ⟨fun spent cancelled _ => spent cancelled, fun spent cancelled taken => ?_⟩
        -- a panel that takes a snapshot holds a handle, and it is not the cancelled one
        obtain ⟨held, isHeld⟩ := Option.isSome_iff_exists.mp (Panel.takes_eq_true taken).2.2.1
        have other : panel.chat.active.handle.any (· ≠ origin.requestId) := by
          obtain ⟨transfer, member, named, marked⟩ := cancelled
          have distinct := wired.held transfer member marked
          rw [named, isHeld] at distinct
          rw [isHeld]
          simpa using distinct
        exact spent cancelled other taken
      | result submission result =>
        refine (batches submission _).trans ?_
        dsimp only
        rw [finalOperations_eq_none_iff]
  | _ => exact ⟨fun _ => trivial, fun _ batch member => nomatch member⟩

/-- What a run from here executes, when the callbacks of cancelled requests are spent, is nobody's that is cancelled
already. -/
theorem run_executed {panel : Panel κ ν} (wired : Wired host panel) {requestId : String}
    (cancelled : panel.IsCancelled requestId) {events : List (Event κ ν)}
    (spent : EveryStep (step host) (CancelledSpent host) panel events) :
    ∃ later, (run (step host) panel events).executed = panel.executed ++ later ∧
      ∀ batch ∈ later, batch.origin.requestId ≠ requestId := by
  induction events generalizing panel with
  | nil => exact ⟨[], (List.append_nil _).symm, fun _ member => nomatch member⟩
  | cons event rest ih =>
    obtain ⟨now, afterwards⟩ := spent
    obtain ⟨later, executed, others⟩ := ih (wired.step event) (panel.step_keepsCancelled host event _ cancelled) afterwards
    refine ⟨panel.executedBy host event ++ later, ?_, ?_⟩
    · rw [run_cons, executed, panel.step_executed host event, List.append_assoc]
    · intro batch member
      rcases List.mem_append.mp member with here | there
      · rintro rfl
        exact (executedBy_cancelled_iff host wired event).mpr now batch here cancelled
      · exact others batch there

/-- Cancellations hold in exactly those runs in which every callback of a cancelled request is spent when it is
dispatched. -/
theorem cancellationsHold_iff (configured : Preferences) (content : κ) (events : List (Event κ ν)) :
    CancellationsHold host (initialPanel configured content) events ↔
      EveryStep (step host) (CancelledSpent host) (initialPanel configured content) events := by
  constructor
  · intro hold
    refine everyStep_iff_split.mpr fun first event rest same => ?_
    have wired := wired_of_run host configured content first
    refine (executedBy_cancelled_iff host wired event).mp fun batch member cancelled => ?_
    refine hold first (event :: rest) same _ cancelled batch ?_ rfl
    obtain ⟨later, executed⟩ :=
      (step host (run (step host) (initialPanel configured content) first) event).run_executed_grows host rest
    rw [Panel.executedSince, same, run_append, run_cons, executed, Panel.step_executed, List.append_assoc,
      List.drop_left]
    exact List.mem_append_left _ member
  · rintro spent first second rfl requestId cancelled batch member
    obtain ⟨-, afterwards⟩ := everyStep_append.mp spent
    obtain ⟨later, executed, others⟩ :=
      run_executed host (wired_of_run host configured content first) cancelled afterwards
    rw [Panel.executedSince, run_append, executed, List.drop_left] at member
    exact others batch member

end Cancellation

/-- The request is cancelled when its transfer is over and the complete response waits on the main loop. -/
def cancelledTooLate : List (Event SampleEdit ℚ) :=
  [.enter 1 ⟨0, 0⟩, .submit "brighten" .queued, .ended (sampleUuid 2) (.completed (sampleResponse (sampleUuid 2) [1])),
    .cancel]

theorem cancelledTooLate_executed :
    ¬ CancellationsHold sampleHost sampleStart (cancelledTooLate ++ [.dispatch .queued]) := by
  intro hold
  have cancelled : (run (step sampleHost) sampleStart cancelledTooLate).IsCancelled (sampleUuid 2) := by
    decide +kernel
  have others := hold cancelledTooLate [.dispatch .queued] rfl (sampleUuid 2) cancelled
  exact absurd others (by decide +kernel)

end DarktableAgent.Chat
