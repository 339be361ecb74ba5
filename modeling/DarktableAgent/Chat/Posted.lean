import DarktableAgent.Chat.Job
import DarktableAgent.Chat.Log
import DarktableAgent.Chat.MemorySafety

/-! What the client has sent and posted.

Requests that were sent stay in the list of transfers, and a thread that posts a cancellation
is never taken back.
-/

set_option autoImplicit false

namespace DarktableAgent.Chat

open Foundation Protocol Client

/-- `_serialize_cancel_payload` -/
def serializeCancelPayload (delivery : CancelDelivery) : Json :=
  .obj ([("requestId", .str (delivery.ids.requestId.getD "")),
    ("session", .obj [("appSessionId", .str (delivery.ids.appSessionId.getD "")),
      ("imageSessionId", .str (delivery.ids.imageSessionId.getD "")),
      ("conversationId", .str (delivery.ids.conversationId.getD "")),
      ("turnId", .str (delivery.ids.turnId.getD ""))])] ++
    -- an empty reason is left out
    (delivery.reason.filter (· ≠ "")).toList.map fun reason => ("reason", .str reason))

section Grows

variable {κ ν W : Type} {host : Host κ ν W}

namespace Panel

/-- The submissions whose requests were sent. -/
def sent (panel : Panel κ ν) : List ChatSubmission := panel.transfers.map (·.submission)

theorem sent_of_marked {before after : Panel κ ν} {mark : Transfer → Transfer}
    (transfers : after.transfers = before.transfers.map mark)
    (same : ∀ transfer, (mark transfer).submission = transfer.submission) : after.sent = before.sent := by
  unfold sent
  rw [transfers, List.map_map]
  exact List.map_congr_left fun transfer _ => same transfer

theorem sent_of_same {before after : Panel κ ν} (transfers : after.transfers = before.transfers) :
    after.sent = before.sent :=
  congrArg (List.map fun transfer : Transfer => transfer.submission) transfers

theorem sent_of_appended {before after : Panel κ ν} {added : List Transfer}
    (transfers : after.transfers = before.transfers ++ added) : before.sent <+: after.sent := by
  unfold sent
  rw [transfers, List.map_append]
  exact List.prefix_append _ _

theorem sent_cancelHandle (panel : Panel κ ν) : panel.cancelHandle.sent = panel.sent := by
  unfold cancelHandle
  cases panel.chat.active.handle with
  | none => rfl
  | some requestId => exact sent_of_marked rfl fun transfer => requestCancel_submission requestId transfer

variable [Numeric ν]

theorem sent_progressFinished (panel : Panel κ ν) (origin : ChatSubmission) (progress : ClientProgress ν) :
    (panel.progressFinished host origin progress).sent = panel.sent := by
  rcases panel.progressFinished_cases host origin progress with
    ⟨-, same⟩ | ⟨-, -, same⟩ | ⟨operations, -, -, ⟨-, same⟩ | ⟨-, same⟩⟩
  · exact sent_of_same (congrArg (·.transfers) same)
  · exact sent_of_same (congrArg (·.transfers) same)
  · exact sent_of_same (congrArg (·.transfers) same)
  · exact (sent_of_same (congrArg (·.transfers) same)).trans (sent_cancelHandle _)

theorem sent_requestFinished (panel : Panel κ ν) (submission : ChatSubmission) (result : ClientResult ν)
    (outcome : SubmitOutcome) : panel.sent <+: (panel.requestFinished host submission result outcome).sent := by
  obtain ⟨middle, calm, continued⟩ := panel.requestFinished_cases host submission result outcome
  obtain ⟨-, -, added, transfers⟩ := continued.log
  have sameTransfers : middle.transfers = panel.transfers := by
    rw [calm.transfers]
    cases panel.finalOperations host submission result <;> rfl
  rw [sameTransfers] at transfers
  exact sent_of_appended transfers

/-- What was sent stays in the list. -/
theorem sent_step (panel : Panel κ ν) (event : Event κ ν) : panel.sent <+: (step host panel event).sent := by
  have same : ∀ {after : Panel κ ν}, after.sent = panel.sent → panel.sent <+: after.sent :=
    fun sameSent => sameSent ▸ List.prefix_refl _
  cases event with
  | submit prompt outcome =>
    obtain ⟨-, -, added, transfers⟩ := panel.submitInternal_log host _ outcome
    exact sent_of_appended transfers
  | cancel => exact same (sent_cancelHandle _)
  | newChat => exact same (sent_cancelHandle _)
  | imageChanged imageId content =>
    change panel.sent <+: (panel.imageChanged host imageId content).sent
    unfold imageChanged
    dsimp only
    split
    · exact same (sent_cancelHandle { panel with develop := { panel.develop with imageId, content } })
    · exact same rfl
  | streamed requestId progress =>
    change panel.sent <+: (panel.streamed requestId progress).sent
    unfold streamed
    split <;> [split; skip] <;> exact same rfl
  | ended requestId ending =>
    change panel.sent <+: (panel.ended requestId ending).sent
    unfold ended
    split
    · split
      · exact same rfl
      · exact same (sent_of_marked rfl fun transfer => by split <;> rfl)
    · exact same rfl
  | dispatch outcome =>
    change panel.sent <+: (panel.dispatch host outcome).sent
    unfold dispatch
    cases panel.queue with
    | nil => exact same rfl
    | cons delivery rest =>
      cases delivery with
      | progress origin progress => exact same (sent_progressFinished { panel with queue := rest } origin progress)
      | result submission result => exact sent_requestFinished { panel with queue := rest } submission result outcome
  | multiTurnToggled | maxTurnsChanged | fastModeToggled | leave | enter | edit => exact same rfl

end Panel

/-- A thread that posts a cancellation is never taken back. -/
theorem ClientMemory.perform_cancelDeliveries {appSessionId : String} {memory after : ClientMemory} {call : ClientCall}
    (performs : memory.perform appSessionId call = some after) :
    memory.cancelDeliveries <+: after.cancelDeliveries := by
  cases call with
  | newSubmission requestId =>
    obtain rfl := Option.some.inj performs
    exact List.prefix_refl _
  | chatAsync submission created =>
    unfold ClientMemory.perform ClientMemory.chatAsync at performs
    simp only [Option.bind_eq_bind, Option.bind_eq_some_iff] at performs
    obtain ⟨handles, -, performs⟩ := performs
    cases created with
    | true =>
      obtain rfl := Option.some.inj performs
      exact List.prefix_refl _
    | false =>
      simp only [Bool.false_eq_true, if_false, Option.bind_eq_some_iff] at performs
      obtain ⟨first, -, second, -, performs⟩ := performs
      obtain rfl := Option.some.inj performs
      exact List.prefix_refl _
  | requestCancel requestId reason =>
    unfold ClientMemory.perform ClientMemory.requestCancel at performs
    simp only [Option.bind_eq_bind, Option.bind_eq_some_iff] at performs
    obtain ⟨handle, -, handles, -, performs⟩ := performs
    obtain rfl := Option.some.inj performs
    dsimp only
    split_ifs
    · exact List.prefix_refl _
    · exact List.prefix_append _ _
  | requestUnref requestId =>
    obtain ⟨handles, -, rfl⟩ := Option.map_eq_some_iff.mp performs
    exact List.prefix_refl _
  | readHandle requestId =>
    obtain ⟨-, -, rfl⟩ := Option.map_eq_some_iff.mp performs
    exact List.prefix_refl _
  | readSubmission requestId =>
    obtain ⟨-, -, rfl⟩ := Option.map_eq_some_iff.mp performs
    exact List.prefix_refl _
  | freeSubmission requestId =>
    obtain ⟨submissions, -, rfl⟩ := Option.map_eq_some_iff.mp performs
    exact List.prefix_refl _
  | jobDestroy requestId =>
    obtain ⟨handles, -, rfl⟩ := Option.map_eq_some_iff.mp performs
    exact List.prefix_refl _

theorem ClientMemory.performAll_cancelDeliveries {appSessionId : String} {memory after : ClientMemory}
    {calls : List ClientCall} (performs : memory.performAll appSessionId calls = some after) :
    memory.cancelDeliveries <+: after.cancelDeliveries := by
  induction calls generalizing memory with
  | nil =>
    obtain rfl := Option.some.inj performs
    exact List.prefix_refl _
  | cons call rest ih =>
    rw [ClientMemory.performAll_cons] at performs
    obtain ⟨middle, first, others⟩ := Option.bind_eq_some_iff.mp performs
    exact (ClientMemory.perform_cancelDeliveries first).trans (ih others)

variable [Numeric ν] {appSessionId : String}

/-- A step of the client keeps what was sent, and the cancellations that were posted. -/
theorem memoryStep_grows {state : ClientRun κ ν} {event : MemoryEvent κ ν} :
    state.panel.sent <+: (memoryStep host appSessionId state event).panel.sent ∧
      ∀ memory after, state.memory = some memory → (memoryStep host appSessionId state event).memory = some after →
        memory.cancelDeliveries <+: after.cancelDeliveries := by
  cases event with
  | event event =>
    refine ⟨Panel.sent_step state.panel event, fun memory after isMemory isAfter => ?_⟩
    unfold memoryStep at isAfter
    dsimp only at isAfter
    rw [isMemory] at isAfter
    exact ClientMemory.performAll_cancelDeliveries isAfter
  | jobDestroyed requestId =>
    unfold memoryStep
    dsimp only
    split_ifs
    · refine ⟨List.prefix_refl _, fun memory after isMemory isAfter => ?_⟩
      dsimp only at isAfter
      rw [isMemory, Option.bind_some] at isAfter
      exact ClientMemory.perform_cancelDeliveries isAfter
    · refine ⟨List.prefix_refl _, fun memory after isMemory isAfter => ?_⟩
      rw [isMemory] at isAfter
      obtain rfl := Option.some.inj isAfter
      exact List.prefix_refl _

end Grows

end DarktableAgent.Chat
