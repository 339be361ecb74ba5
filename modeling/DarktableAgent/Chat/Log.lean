import DarktableAgent.Chat.Core

/-! What each event adds to the log of executed batches, and to the transfers.

The log and the transfers only grow: a batch stays, and a transfer that was marked as
cancelled stays marked.
-/

set_option autoImplicit false

namespace DarktableAgent.Chat

open Foundation Protocol Client

section Log

variable {κ ν W : Type}

namespace Panel

/-- The request's handle was cancelled at some time. -/
def IsCancelled (panel : Panel κ ν) (requestId : String) : Prop :=
  ∃ transfer ∈ panel.transfers, transfer.submission.requestId = requestId ∧ transfer.cancelRequested

instance (panel : Panel κ ν) (requestId : String) : Decidable (panel.IsCancelled requestId) :=
  inferInstanceAs (Decidable (∃ transfer ∈ panel.transfers, _ ∧ _))

/-- Requests that were cancelled stay cancelled. -/
def KeepsCancelled (before after : Panel κ ν) : Prop :=
  ∀ requestId, before.IsCancelled requestId → after.IsCancelled requestId

theorem keepsCancelled_of_sent {before after : Panel κ ν} {sent : List Transfer}
    (transfers : after.transfers = before.transfers ++ sent) : KeepsCancelled before after := by
  rintro requestId ⟨transfer, member, named, cancelled⟩
  refine ⟨transfer, ?_, named, cancelled⟩
  rw [transfers]
  exact List.mem_append_left _ member

theorem keepsCancelled_of_marked {before after : Panel κ ν} {mark : Transfer → Transfer}
    (transfers : after.transfers = before.transfers.map mark)
    (kept : ∀ transfer, (mark transfer).submission = transfer.submission ∧
      (transfer.cancelRequested → (mark transfer).cancelRequested)) : KeepsCancelled before after := by
  rintro requestId ⟨transfer, member, named, cancelled⟩
  refine ⟨mark transfer, ?_, ?_, (kept transfer).2 cancelled⟩
  · rw [transfers]
    exact List.mem_map_of_mem member
  · rw [(kept transfer).1]
    exact named

theorem keepsCancelled_of_same {before after : Panel κ ν} (transfers : after.transfers = before.transfers) :
    KeepsCancelled before after :=
  keepsCancelled_of_sent (transfers.trans (List.append_nil _).symm)

theorem cancelHandle_keepsCancelled (panel : Panel κ ν) : KeepsCancelled panel panel.cancelHandle := by
  unfold cancelHandle
  cases panel.chat.active.handle with
  | none => exact keepsCancelled_of_same rfl
  | some requestId =>
    refine keepsCancelled_of_marked rfl fun transfer => ?_
    unfold requestCancel
    split
    · exact ⟨rfl, fun _ => rfl⟩
    · exact ⟨rfl, id⟩

theorem Calms.transfers {before after : Panel κ ν} (calm : Calms before after) : after.transfers = before.transfers := by
  rcases calm with same | quiet
  · exact congrArg (·.transfers) same
  · exact congrArg (·.transfers) quiet

theorem Calms.develop {before after : Panel κ ν} (calm : Calms before after) : after.develop = before.develop := by
  rcases calm with same | quiet
  · exact congrArg (·.develop) same
  · exact congrArg (·.develop) quiet

theorem Calms.executed {before after : Panel κ ν} (calm : Calms before after) : after.executed = before.executed := by
  rcases calm with same | quiet
  · exact congrArg (·.executed) same
  · exact congrArg (·.executed) quiet

section Host

variable (host : Host κ ν W)

/-- A submission executes nothing, leaves the edit alone and adds at most one transfer. -/
theorem submitInternal_log (panel : Panel κ ν) (arguments : SubmitArguments) (outcome : SubmitOutcome) :
    (panel.submitInternal host arguments outcome).panel.executed = panel.executed ∧
      (panel.submitInternal host arguments outcome).panel.develop = panel.develop ∧
      ∃ sent, (panel.submitInternal host arguments outcome).panel.transfers = panel.transfers ++ sent := by
  rcases panel.submitInternal_cases host arguments outcome with same | same | same
  · rw [same]
    exact ⟨rfl, rfl, [], (List.append_nil _).symm⟩
  · exact ⟨congrArg (·.executed) same, congrArg (·.develop) same, [],
      (congrArg (·.transfers) same).trans (List.append_nil _).symm⟩
  · exact ⟨congrArg (·.executed) same, congrArg (·.develop) same, _, congrArg (·.transfers) same⟩

theorem Continues.log {before after : Panel κ ν} (continued : Continues host before after) :
    after.executed = before.executed ∧ after.develop = before.develop ∧
      ∃ sent, after.transfers = before.transfers ++ sent := by
  rcases continued with same | ⟨middle, arguments, outcome, sameMiddle, submitted⟩
  · exact ⟨congrArg (·.executed) same, congrArg (·.develop) same, [],
      (congrArg (·.transfers) same).trans (List.append_nil _).symm⟩
  · obtain ⟨executed, develop, sent, transfers⟩ := middle.submitInternal_log host arguments outcome
    have sameExecuted : middle.executed = before.executed := congrArg (·.executed) sameMiddle
    have sameDevelop : middle.develop = before.develop := congrArg (·.develop) sameMiddle
    have sameTransfers : middle.transfers = before.transfers := congrArg (·.transfers) sameMiddle
    refine ⟨(congrArg (·.executed) submitted).trans (executed.trans sameExecuted),
      (congrArg (·.develop) submitted).trans (develop.trans sameDevelop), sent, ?_⟩
    exact (congrArg (·.transfers) submitted).trans (transfers.trans (by rw [sameTransfers]))

end Host

section Handlers

variable [Numeric ν] (host : Host κ ν W)

/-- The operations as they stand in the log, once they are executed. -/
def batches (panel : Panel κ ν) (origin : ChatSubmission) (operations : Option (List (ChatOperation ν))) :
    List (ExecutedBatch ν) :=
  operations.toList.map fun operations =>
    ⟨origin, operations, panel.develop.currentImageId, (panel.execution host operations).ok⟩

/-- What an event executes. -/
def executedBy (panel : Panel κ ν) : Event κ ν → List (ExecutedBatch ν)
  | .dispatch _ =>
    match panel.queue with
    | .progress origin progress :: _ => panel.batches host origin (panel.snapshotOperations progress)
    | .result submission result :: _ =>
      panel.batches host submission (panel.finalOperations host submission result)
    | [] => []
  | _ => []

theorem progressFinished_executed (panel : Panel κ ν) (origin : ChatSubmission) (progress : ClientProgress ν) :
    (panel.progressFinished host origin progress).executed =
      panel.executed ++ panel.batches host origin (panel.snapshotOperations progress) := by
  unfold snapshotOperations
  rcases panel.progressFinished_cases host origin progress with
    ⟨passed, same⟩ | ⟨taken, pending, same⟩ | ⟨operations, taken, pending, ⟨-, same⟩ | ⟨-, same⟩⟩
  · rw [passed]
    exact (congrArg (·.executed) same).trans (List.append_nil _).symm
  · rw [if_pos taken, pending]
    exact (congrArg (·.executed) same).trans (List.append_nil _).symm
  · rw [if_pos taken, pending]
    exact congrArg (·.executed) same
  · rw [if_pos taken, pending]
    exact congrArg (·.executed) same

theorem requestFinished_executed (panel : Panel κ ν) (submission : ChatSubmission) (result : ClientResult ν)
    (outcome : SubmitOutcome) :
    (panel.requestFinished host submission result outcome).executed =
      panel.executed ++ panel.batches host submission (panel.finalOperations host submission result) := by
  obtain ⟨middle, calm, continued⟩ := panel.requestFinished_cases host submission result outcome
  -- neither calming the panel nor the next submission executes anything
  rw [continued.log.1, calm.executed]
  cases panel.finalOperations host submission result with
  | none => exact (List.append_nil _).symm
  | some operations => rfl

theorem progressFinished_keepsCancelled (panel : Panel κ ν) (origin : ChatSubmission) (progress : ClientProgress ν) :
    KeepsCancelled panel (panel.progressFinished host origin progress) := by
  rcases panel.progressFinished_cases host origin progress with
    ⟨-, same⟩ | ⟨-, -, same⟩ | ⟨operations, -, -, ⟨-, same⟩ | ⟨-, same⟩⟩
  · exact keepsCancelled_of_same (congrArg (·.transfers) same)
  · exact keepsCancelled_of_same (congrArg (·.transfers) same)
  · exact keepsCancelled_of_same (congrArg (·.transfers) same)
  · -- operations that could not be applied cancel the held request
    have cancelled := cancelHandle_keepsCancelled ((panel.countToolCalls progress).afterExecution host origin operations)
    have kept := keepsCancelled_of_same (congrArg (·.transfers) same)
    exact fun requestId before => kept requestId (cancelled requestId before)

theorem requestFinished_keepsCancelled (panel : Panel κ ν) (submission : ChatSubmission) (result : ClientResult ν)
    (outcome : SubmitOutcome) : KeepsCancelled panel (panel.requestFinished host submission result outcome) := by
  obtain ⟨middle, calm, continued⟩ := panel.requestFinished_cases host submission result outcome
  obtain ⟨-, -, sent, transfers⟩ := continued.log
  have sameTransfers : middle.transfers = panel.transfers := by
    rw [calm.transfers]
    cases panel.finalOperations host submission result <;> rfl
  rw [sameTransfers] at transfers
  exact keepsCancelled_of_sent transfers

/-- A result of which nothing is executed leaves the edit as it is. -/
theorem requestFinished_develop {panel : Panel κ ν} {submission : ChatSubmission} {result : ClientResult ν}
    (nothing : panel.finalOperations host submission result = none) (outcome : SubmitOutcome) :
    (panel.requestFinished host submission result outcome).develop = panel.develop := by
  obtain ⟨middle, calm, continued⟩ := panel.requestFinished_cases host submission result outcome
  rw [continued.log.2.1, calm.develop, nothing]
  rfl

/-- The log only grows, by what the event executes. -/
theorem step_executed (panel : Panel κ ν) (event : Event κ ν) :
    (step host panel event).executed = panel.executed ++ panel.executedBy host event := by
  have nothing : panel.executed = panel.executed ++ [] := (List.append_nil _).symm
  cases event with
  | submit prompt outcome => exact (panel.submitInternal_log host _ outcome).1.trans nothing
  | imageChanged imageId content =>
    change (panel.imageChanged host imageId content).executed = _
    unfold imageChanged
    dsimp only
    split <;> exact nothing
  | streamed requestId progress =>
    change (panel.streamed requestId progress).executed = _
    unfold streamed
    split <;> [split; skip] <;> exact nothing
  | ended requestId ending =>
    change (panel.ended requestId ending).executed = _
    unfold ended
    split <;> [split; skip] <;> exact nothing
  | dispatch outcome =>
    change (panel.dispatch host outcome).executed = _
    unfold dispatch executedBy
    dsimp only
    cases panel.queue with
    | nil => exact nothing
    | cons delivery rest =>
      cases delivery with
      | progress origin progress => exact progressFinished_executed host { panel with queue := rest } origin progress
      | result submission result =>
        exact requestFinished_executed host { panel with queue := rest } submission result outcome
  | cancel | newChat | multiTurnToggled | maxTurnsChanged | fastModeToggled | leave | enter | edit => exact nothing

theorem step_keepsCancelled (panel : Panel κ ν) (event : Event κ ν) : KeepsCancelled panel (step host panel event) := by
  cases event with
  | submit prompt outcome =>
    obtain ⟨-, -, sent, transfers⟩ := panel.submitInternal_log host _ outcome
    exact keepsCancelled_of_sent transfers
  | cancel => exact cancelHandle_keepsCancelled _
  | newChat => exact cancelHandle_keepsCancelled _
  | imageChanged imageId content =>
    change KeepsCancelled panel (panel.imageChanged host imageId content)
    unfold imageChanged
    dsimp only
    split
    · exact cancelHandle_keepsCancelled { panel with develop := { panel.develop with imageId, content } }
    · exact keepsCancelled_of_same rfl
  | streamed requestId progress =>
    refine keepsCancelled_of_same ?_
    change (panel.streamed requestId progress).transfers = _
    unfold streamed
    split <;> [split; skip] <;> rfl
  | ended requestId ending =>
    change KeepsCancelled panel (panel.ended requestId ending)
    unfold ended
    split
    · split
      · exact keepsCancelled_of_same rfl
      -- an ended transfer is marked as ended and keeps its cancel flag
      · refine keepsCancelled_of_marked rfl fun transfer => ?_
        split <;> exact ⟨rfl, id⟩
    · exact keepsCancelled_of_same rfl
  | dispatch outcome =>
    change KeepsCancelled panel (panel.dispatch host outcome)
    unfold dispatch
    cases panel.queue with
    | nil => exact keepsCancelled_of_same rfl
    | cons delivery rest =>
      cases delivery with
      | progress origin progress =>
        exact progressFinished_keepsCancelled host { panel with queue := rest } origin progress
      | result submission result =>
        exact requestFinished_keepsCancelled host { panel with queue := rest } submission result outcome
  | multiTurnToggled | maxTurnsChanged | fastModeToggled | leave | enter | edit => exact keepsCancelled_of_same rfl

theorem run_executed_grows (panel : Panel κ ν) (events : List (Event κ ν)) :
    ∃ later, (run (step host) panel events).executed = panel.executed ++ later := by
  induction events generalizing panel with
  | nil => exact ⟨[], (List.append_nil _).symm⟩
  | cons event rest ih =>
    obtain ⟨later, executed⟩ := ih (step host panel event)
    exact ⟨panel.executedBy host event ++ later, by
      rw [run_cons, executed, panel.step_executed host event, List.append_assoc]⟩

end Handlers

end Panel

end Log

end DarktableAgent.Chat
