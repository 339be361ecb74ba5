import DarktableAgent.Chat.Core

/-! How requests, their transfers and the queued callbacks hang together in every run.

Each transfer carries an identifier that was drawn once, each queued callback belongs
to a transfer, and the handle that the panel holds is never one that was cancelled.
-/

set_option autoImplicit false

namespace DarktableAgent.Chat

open Foundation Protocol Client

def Delivery.submission {ν : Type} : Delivery ν → ChatSubmission
  | .progress submission _ => submission
  | .result submission _ => submission

/-- The revision a submission names is that of the snapshot its request was built from. -/
def Transfer.Recorded (transfer : Transfer) : Prop :=
  transfer.submission.baseImageRevisionId = formatImageRevisionId transfer.submission.hasImageId
      transfer.submission.imageId transfer.historyPosition transfer.historyCount ∧
    (transfer.submission.hasImageId → 0 < transfer.submission.imageId)

section Wiring

variable {κ ν W : Type} (host : Host κ ν W)

/-- What holds of the transfers, the queue and the active request, whatever the darkroom shows. -/
structure Threaded (panel : Panel κ ν) : Prop where
  drawn : ∀ transfer ∈ panel.transfers, ∃ n < panel.uuidsDrawn, transfer.submission.requestId = host.uuid n
  recorded : ∀ transfer ∈ panel.transfers, transfer.Recorded
  queued : ∀ delivery ∈ panel.queue, ∃ transfer ∈ panel.transfers, transfer.submission = delivery.submission
  named : ∀ requestId, panel.chat.active.handle = some requestId → panel.chat.active.requestId = some requestId
  held : ∀ transfer ∈ panel.transfers, transfer.cancelRequested →
    panel.chat.active.handle ≠ some transfer.submission.requestId

/-- The visible darkroom shows the image whose session is open. -/
structure Wired (panel : Panel κ ν) : Prop extends Threaded host panel where
  opened : panel.develop.visible → panel.chat.conversationId.isSome ∧ panel.chat.imageSessionId.isSome
  shown : panel.develop.visible → panel.develop.currentImageId = panel.chat.currentImageId

namespace Threaded

variable {host} {panel : Panel κ ν}

/-- A transfer may be marked, as long as the held one is not marked cancelled. -/
theorem markTransfers (threaded : Threaded host panel) {mark : Transfer → Transfer}
    (same : ∀ transfer, (mark transfer).submission = transfer.submission ∧
      (mark transfer).historyPosition = transfer.historyPosition ∧ (mark transfer).historyCount = transfer.historyCount)
    (held : ∀ transfer ∈ panel.transfers, (mark transfer).cancelRequested →
      panel.chat.active.handle ≠ some transfer.submission.requestId) :
    Threaded host { panel with transfers := panel.transfers.map mark } where
  drawn transfer member := by
    obtain ⟨original, known, rfl⟩ := List.mem_map.mp member
    rw [(same original).1]
    exact threaded.drawn original known
  recorded transfer member := by
    obtain ⟨original, known, rfl⟩ := List.mem_map.mp member
    have recorded := threaded.recorded original known
    unfold Transfer.Recorded at recorded ⊢
    rwa [(same original).1, (same original).2.1, (same original).2.2]
  queued delivery member := by
    obtain ⟨transfer, known, submission⟩ := threaded.queued delivery member
    exact ⟨_, List.mem_map_of_mem known, (same transfer).1.trans submission⟩
  named := threaded.named
  held transfer member cancelled := by
    obtain ⟨original, known, rfl⟩ := List.mem_map.mp member
    rw [(same original).1]
    exact held original known cancelled

theorem cancelHandle (threaded : Threaded host panel) : Threaded host panel.cancelHandle := by
  unfold Panel.cancelHandle
  cases panel.chat.active.handle with
  | none => exact { threaded with }
  | some requestId =>
    -- no handle is left that a cancelled transfer could be compared with
    have dropped : Threaded host { panel with
        chat := { panel.chat with active := { panel.chat.active with handle := none, canceling := true } } } :=
      { threaded with
        named := fun _ handle => by cases handle
        held := fun _ _ _ handle => by cases handle }
    refine dropped.markTransfers ?_ (fun _ _ _ handle => by cases handle)
    intro transfer
    unfold Panel.requestCancel
    split <;> exact ⟨rfl, rfl, rfl⟩

theorem setLoading (threaded : Threaded host panel) (isLoading : Bool) :
    Threaded host (panel.onChat (·.setLoading isLoading)) := { threaded with }

theorem of_core {other : Panel κ ν} (threaded : Threaded host panel) (same : other.core = panel.core) :
    Threaded host other := by
  have core : Threaded host panel.core := { threaded with }
  rw [← same] at core
  exact { core with }

theorem cancelActiveRequest (threaded : Threaded host panel) (statusText stopReason : String) :
    Threaded host (panel.cancelActiveRequest statusText stopReason) :=
  (threaded.cancelHandle.setLoading false).of_core (panel.core_cancelActiveRequest statusText stopReason)

/-- A switch to the image in the darkroom opens its session. -/
theorem switchToImageSession (threaded : Threaded host panel) (forceNewChat : Bool) :
    Wired host (panel.switchToImageSession host panel.develop.currentImageId forceNewChat) where
  drawn transfer member := by
    obtain ⟨n, below, drawn⟩ := threaded.drawn transfer member
    exact ⟨n, below.trans_le (panel.le_switchToImageSession host _ forceNewChat), drawn⟩
  recorded := threaded.recorded
  queued := threaded.queued
  named := threaded.named
  held := threaded.held
  opened _ := ⟨rfl, rfl⟩
  shown _ := rfl

end Threaded

/-- A request is built with the revision of the image it is built on. -/
theorem recorded_submission (panel : Panel κ ν) (arguments : SubmitArguments) : Transfer.Recorded {
    submission := panel.submission host arguments
    refinementMode := arguments.refinementMode
    historyPosition := host.historyEnd panel.develop.content
    historyCount := host.historyCount panel.develop.content } := by
  unfold Transfer.Recorded Panel.submission Develop.currentImageId formatImageRevisionId
  by_cases image : 0 < panel.develop.imageId
  · simp [image]
  · simp [image]

namespace Wired

variable {host} {panel : Panel κ ν}

theorem of_core {other : Panel κ ν} (wired : Wired host panel) (same : other.core = panel.core) : Wired host other := by
  have core : Wired host panel.core := { wired with }
  rw [← same] at core
  exact { core with }

theorem setLoading (wired : Wired host panel) (isLoading : Bool) :
    Wired host (panel.onChat (·.setLoading isLoading)) := { wired with }

theorem calms {other : Panel κ ν} (wired : Wired host panel) (calm : Panel.Calms panel other) : Wired host other := by
  rcases calm with same | quiet
  · exact wired.of_core same
  · exact (wired.setLoading false).of_core quiet

theorem cancelHandle (wired : Wired host panel) : Wired host panel.cancelHandle := by
  refine { wired.toThreaded.cancelHandle with opened := ?_, shown := ?_ }
  · have opened := wired.opened
    unfold Panel.cancelHandle
    cases panel.chat.active.handle <;> exact opened
  · have shown := wired.shown
    unfold Panel.cancelHandle
    cases panel.chat.active.handle <;> exact shown

theorem cancelActiveRequest (wired : Wired host panel) (statusText stopReason : String) :
    Wired host (panel.cancelActiveRequest statusText stopReason) :=
  (wired.cancelHandle.setLoading false).of_core (panel.core_cancelActiveRequest statusText stopReason)

/-- The new request gets an identifier that no transfer has. -/
theorem startRequest (wired : Wired host panel) (arguments : SubmitArguments) :
    Wired host (panel.startRequest host arguments) where
  drawn transfer member := by
    rcases List.mem_append.mp member with old | new
    · obtain ⟨n, below, drawn⟩ := wired.drawn transfer old
      exact ⟨n, below.trans (Nat.lt_succ_self _), drawn⟩
    · obtain rfl := List.mem_singleton.mp new
      exact ⟨panel.uuidsDrawn, Nat.lt_succ_self _, rfl⟩
  recorded transfer member := by
    rcases List.mem_append.mp member with old | new
    · exact wired.recorded transfer old
    · obtain rfl := List.mem_singleton.mp new
      exact recorded_submission host panel arguments
  queued delivery member := by
    obtain ⟨transfer, known, same⟩ := wired.queued delivery member
    exact ⟨transfer, List.mem_append_left _ known, same⟩
  named requestId handle := handle
  held transfer member cancelled handle := by
    rcases List.mem_append.mp member with old | new
    · obtain ⟨n, below, drawn⟩ := wired.drawn transfer old
      have same : host.uuid panel.uuidsDrawn = host.uuid n := (Option.some.inj handle).trans drawn
      have := host.uuid_injective same
      omega
    · obtain rfl := List.mem_singleton.mp new
      cases cancelled
  opened := wired.opened
  shown := wired.shown

theorem submitInternal (wired : Wired host panel) (arguments : SubmitArguments) (outcome : SubmitOutcome) :
    Wired host (panel.submitInternal host arguments outcome).panel := by
  have reopened : Wired host (panel.reopened host) := wired.switchToImageSession false
  rcases panel.submitInternal_cases host arguments outcome with same | same | same
  · rw [same]
    exact reopened
  · have drawn : Wired host { (panel.reopened host).onChat (·.setLoading false) with
        uuidsDrawn := (panel.reopened host).uuidsDrawn + 1 } :=
      { reopened.setLoading false with
        drawn := fun transfer member => by
          obtain ⟨n, below, drawn⟩ := reopened.drawn transfer member
          exact ⟨n, below.trans (Nat.lt_succ_self _), drawn⟩ }
    exact drawn.of_core same
  · exact ((reopened.setLoading true).startRequest arguments).of_core same

theorem continues {other : Panel κ ν} (wired : Wired host panel) (continued : Panel.Continues host panel other) :
    Wired host other := by
  rcases continued with same | ⟨middle, arguments, outcome, sameMiddle, submitted⟩
  · exact wired.of_core same
  · exact ((wired.of_core sameMiddle).submitInternal arguments outcome).of_core submitted

theorem clearActiveRequest (wired : Wired host panel) : Wired host (panel.onChat (·.clearActiveRequest)) where
  drawn := wired.drawn
  recorded := wired.recorded
  queued := wired.queued
  named requestId handle := by cases handle
  held transfer member cancelled handle := by cases handle
  opened := wired.opened
  shown := wired.shown

theorem settle (wired : Wired host panel) (submission : ChatSubmission) (result : ClientResult ν) :
    Wired host (panel.settle submission result) := by
  have same := panel.settle_core submission result
  split at same
  · exact wired.clearActiveRequest.of_core same
  · exact wired.of_core same

theorem ended (wired : Wired host panel) (requestId : String) (ending : TransferEnd ν) :
    Wired host (panel.ended requestId ending) := by
  unfold Panel.ended
  cases found : panel.findTransfer requestId with
  | none => exact wired
  | some transfer =>
    dsimp only
    split
    · exact wired
    · have queued : Wired host { panel with
          queue := panel.queue ++ [.result transfer.submission (ending.result transfer.cancelRequested)] } := by
        refine { wired with queued := ?_ }
        intro delivery member
        rcases List.mem_append.mp member with old | new
        · exact wired.queued delivery old
        · obtain rfl := List.mem_singleton.mp new
          exact ⟨transfer, List.mem_of_find?_eq_some found, rfl⟩
      refine { queued.toThreaded.markTransfers ?_ ?_ with opened := wired.opened, shown := wired.shown }
      · intro other
        split <;> exact ⟨rfl, rfl, rfl⟩
      · intro other member cancelled
        have unchanged : other.cancelRequested := by
          split at cancelled <;> exact cancelled
        exact wired.held other member unchanged

theorem streamed (wired : Wired host panel) (requestId : String) (progress : ClientProgress ν) :
    Wired host (panel.streamed requestId progress) := by
  unfold Panel.streamed
  cases found : panel.findTransfer requestId with
  | none => exact wired
  | some transfer =>
    dsimp only
    split
    · exact wired
    · refine { wired with queued := ?_ }
      intro delivery member
      rcases List.mem_append.mp member with old | new
      · exact wired.queued delivery old
      · obtain rfl := List.mem_singleton.mp new
        exact ⟨transfer, List.mem_of_find?_eq_some found, rfl⟩

/-- A callback leaves the queue before it runs. -/
theorem dequeued (wired : Wired host panel) {delivery : Delivery ν} {rest : List (Delivery ν)}
    (queue : panel.queue = delivery :: rest) : Wired host { panel with queue := rest } :=
  { wired with
    queued := fun other member => wired.queued other (by rw [queue]; exact List.mem_cons_of_mem _ member) }

section Handlers

variable [Numeric ν]

theorem executes (wired : Wired host panel) (origin : ChatSubmission) (operations : Option (List (ChatOperation ν))) :
    Wired host (panel.executes host origin operations) := by
  cases operations with
  | none => exact wired
  | some operations => exact { wired with }

theorem progressFinished (wired : Wired host panel) (origin : ChatSubmission) (progress : ClientProgress ν) :
    Wired host (panel.progressFinished host origin progress) := by
  rcases panel.progressFinished_cases host origin progress with
    ⟨-, same⟩ | ⟨-, -, same⟩ | ⟨operations, -, -, ⟨-, same⟩ | ⟨-, same⟩⟩
  · exact wired.of_core same
  · have counted : Wired host (panel.countToolCalls progress) := { wired with }
    exact counted.of_core same
  · have counted : Wired host
        (((panel.countToolCalls progress).afterExecution host origin operations).countLiveEdits progress) := { wired with }
    exact counted.of_core same
  · have executed : Wired host ((panel.countToolCalls progress).afterExecution host origin operations) := { wired with }
    exact (executed.cancelHandle.setLoading false).of_core same

theorem requestFinished (wired : Wired host panel) (submission : ChatSubmission) (result : ClientResult ν)
    (outcome : SubmitOutcome) : Wired host (panel.requestFinished host submission result outcome) := by
  obtain ⟨middle, calm, continued⟩ := panel.requestFinished_cases host submission result outcome
  exact (((wired.settle submission result).executes submission _).calms calm).continues continued

theorem dispatch (wired : Wired host panel) (outcome : SubmitOutcome) : Wired host (panel.dispatch host outcome) := by
  unfold Panel.dispatch
  split
  · exact wired
  · exact (wired.dequeued ‹_›).progressFinished _ _
  · exact (wired.dequeued ‹_›).requestFinished _ _ _

theorem step (wired : Wired host panel) (event : Event κ ν) : Wired host (Chat.step host panel event) := by
  cases event with
  | submit prompt outcome => exact wired.submitInternal _ outcome
  | cancel => exact wired.cancelActiveRequest _ _
  | newChat => exact (wired.cancelActiveRequest _ _).switchToImageSession true
  | multiTurnToggled | maxTurnsChanged | fastModeToggled => exact { wired with }
  | imageChanged imageId content =>
    have replaced : Threaded host { panel with develop := { panel.develop with imageId, content } } :=
      { wired.toThreaded with }
    change Wired host (Panel.imageChanged host panel imageId content)
    unfold Panel.imageChanged
    dsimp only
    split
    · exact (replaced.cancelActiveRequest _ _).switchToImageSession false
    · exact { replaced with opened := wired.opened, shown := fun _ => not_not.mp ‹_› }
  | leave =>
    refine { wired with opened := ?_, shown := ?_ }
    · intro visible
      cases visible
    · intro visible
      cases visible
  | enter imageId content =>
    have entered : Threaded host { panel with
        develop := ⟨imageId, true, content⟩
        chat := { panel.chat with preferences := panel.configured.loaded } } := { wired.toThreaded with }
    exact entered.switchToImageSession false
  | edit content => exact { wired with }
  | streamed requestId progress => exact wired.streamed requestId progress
  | ended requestId ending => exact wired.ended requestId ending
  | dispatch outcome => exact wired.dispatch outcome

end Handlers

theorem initially (configured : Preferences) (content : κ) : Wired host (initialPanel configured content : Panel κ ν) where
  drawn _ member := by cases member
  recorded _ member := by cases member
  queued _ member := by cases member
  named _ handle := by cases handle
  held _ member := by cases member
  opened visible := by cases visible
  shown visible := by cases visible

end Wired

theorem wired_of_run [Numeric ν] (configured : Preferences) (content : κ) (events : List (Event κ ν)) :
    Wired host (run (step host) (initialPanel configured content) events) := by
  have kept : ∀ panel event, Wired host panel → True → Wired host (step host panel event) :=
    fun _ event wired _ => wired.step event
  exact run_invariant kept (Wired.initially configured content) (everyStep_of_forall (fun _ _ => trivial) _ events)

end Wiring

end DarktableAgent.Chat
