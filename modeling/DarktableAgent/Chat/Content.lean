import DarktableAgent.Chat.Serving

/-! The edit in the darkroom is a replay of the log.

As long as the user does not edit, nothing but an executed batch changes the edit, and
a batch is executed with the darkroom in view. So the edit that a run leaves is the one
it began with, after the batches that it has logged.
-/

set_option autoImplicit false

namespace DarktableAgent.Chat

open Foundation Protocol Client

section Content

variable {κ ν W : Type} [Numeric ν] (host : Host κ ν W)

/-- The edit after a batch that is executed with the darkroom in view. -/
def Host.afterBatch (content : κ) (batch : ExecutedBatch ν) : κ :=
  (executeResponse { host.darkroom with isCurrentView := fun _ => true } content batch.operations).state

def Host.replay (content : κ) (batches : List (ExecutedBatch ν)) : κ := batches.foldl host.afterBatch content

theorem Host.replay_append (content : κ) (first second : List (ExecutedBatch ν)) :
    host.replay content (first ++ second) = host.replay (host.replay content first) second := List.foldl_append

namespace Panel

/-- What a batch leaves of the edit, when the darkroom is in view. -/
theorem execution_content {panel : Panel κ ν} (visible : panel.develop.visible) (origin : ChatSubmission)
    (operations : List (ChatOperation ν)) : (panel.execution host operations).state =
      host.replay panel.develop.content (panel.batches host origin (some operations)) := by
  unfold execution
  rw [visible]
  rfl

theorem progressFinished_content (panel : Panel κ ν) (origin : ChatSubmission) (progress : ClientProgress ν) :
    (panel.progressFinished host origin progress).develop.content =
      host.replay panel.develop.content (panel.batches host origin (panel.snapshotOperations progress)) := by
  unfold snapshotOperations
  rcases panel.progressFinished_cases host origin progress with
    ⟨passed, same⟩ | ⟨taken, pending, same⟩ | ⟨operations, taken, pending, ⟨-, same⟩ | ⟨-, same⟩⟩
  · rw [passed]
    exact congrArg (·.develop.content) same
  · rw [if_pos taken, pending]
    exact congrArg (·.develop.content) same
  all_goals
    rw [if_pos taken, pending, ← execution_content host (pendingOperations_eq_some pending).1]
    exact congrArg (·.develop.content) same

omit [Numeric ν] in
theorem finalOperations_visible {panel : Panel κ ν} {submission : ChatSubmission} {result : ClientResult ν}
    {operations : List (ChatOperation ν)} (final : panel.finalOperations host submission result = some operations) :
    panel.develop.visible := by
  unfold finalOperations currentOperations at final
  by_contra hidden
  split_ifs at final with cancelled refused
  exact refused (.inr hidden)

theorem requestFinished_content (panel : Panel κ ν) (submission : ChatSubmission) (result : ClientResult ν)
    (outcome : SubmitOutcome) : (panel.requestFinished host submission result outcome).develop.content =
      host.replay panel.develop.content
        (panel.batches host submission (panel.finalOperations host submission result)) := by
  obtain ⟨middle, calm, continued⟩ := panel.requestFinished_cases host submission result outcome
  rw [continued.log.2.1, calm.develop]
  cases final : panel.finalOperations host submission result with
  | none => rfl
  | some operations =>
    rw [← execution_content host (finalOperations_visible host final)]
    rfl

/-- An event that is no edit of the user changes the edit by what it executes. -/
theorem step_content {panel : Panel κ ν} {event : Event κ ν} (unedited : Unedited panel event) :
    (step host panel event).develop.content = host.replay panel.develop.content (panel.executedBy host event) := by
  cases event with
  | submit prompt outcome => exact congrArg (·.content) (panel.submitInternal_log host _ outcome).2.1
  | imageChanged imageId content =>
    change (panel.imageChanged host imageId content).develop.content = panel.develop.content
    rw [← unedited]
    unfold imageChanged
    dsimp only
    split <;> rfl
  | enter imageId content => exact unedited
  | edit content => exact unedited
  | streamed requestId progress =>
    change (panel.streamed requestId progress).develop.content = _
    unfold streamed
    split <;> [split; skip] <;> rfl
  | ended requestId ending =>
    change (panel.ended requestId ending).develop.content = _
    unfold ended
    split <;> [split; skip] <;> rfl
  | dispatch outcome =>
    change (panel.dispatch host outcome).develop.content = _
    unfold dispatch executedBy
    dsimp only
    cases panel.queue with
    | nil => rfl
    | cons delivery rest =>
      cases delivery with
      | progress origin progress => exact progressFinished_content host { panel with queue := rest } origin progress
      | result submission result =>
        exact requestFinished_content host { panel with queue := rest } submission result outcome
  | cancel | newChat | multiTurnToggled | maxTurnsChanged | fastModeToggled | leave => rfl

/-- The edit that a run leaves is the one it began with, after the batches that it has logged. -/
theorem run_content {panel : Panel κ ν} {events : List (Event κ ν)} (unedited : EveryStep (step host) Unedited panel events) :
    (run (step host) panel events).develop.content =
      host.replay panel.develop.content (panel.executedSince (run (step host) panel events)) := by
  unfold executedSince
  induction events generalizing panel with
  | nil =>
    have nothing : panel.executed.drop panel.executed.length = [] := List.drop_length
    exact (congrArg (host.replay panel.develop.content) nothing).symm
  | cons event rest ih =>
    obtain ⟨here, later⟩ := unedited
    obtain ⟨logged, executed⟩ := run_executed_grows host (step host panel event) rest
    have next := ih later
    rw [executed, List.drop_left] at next
    rw [run_cons, next, executed, panel.step_executed host event, List.append_assoc, List.drop_left, host.replay_append,
      step_content host here]

end Panel

end Content

end DarktableAgent.Chat
