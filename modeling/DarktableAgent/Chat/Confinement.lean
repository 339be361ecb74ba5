import DarktableAgent.Chat.Wiring
import DarktableAgent.Client.Atomicity
import DarktableAgent.Foundation.Numerals

/-! Which snapshots can reach an image, and which request's counters they move.

The callback of a snapshot does not look at the submission it is handed. It works on
whatever request the panel holds by then, and on whatever image the darkroom shows.
-/

set_option autoImplicit false

namespace DarktableAgent.Chat

open Foundation Protocol Client

theorem get?_changeEntry {κ ν : Type} [DecidableEq κ] (dict : Dict κ ν) (key other : κ) (change : ν → ν) :
    (changeEntry dict key change).get? other = if other = key then (dict.get? key).map change else dict.get? other := by
  unfold changeEntry
  cases found : dict.get? key with
  | none =>
    dsimp only
    split_ifs with same
    · rw [same]
      exact found
    · rfl
  | some value => exact Dict.get?_set ..

section Confinement

variable {κ ν W : Type}

/-- The snapshot that is dispatched next. -/
def Panel.nextSnapshot (panel : Panel κ ν) : Option (ChatSubmission × ClientProgress ν) :=
  match panel.queue with
  | .progress origin progress :: _ => some (origin, progress)
  | _ => none

/-- The batches executed between two states. -/
def Panel.executedSince (before after : Panel κ ν) : List (ExecutedBatch ν) :=
  after.executed.drop before.executed.length

/-- A snapshot of the request that is held is executed for that request and on its image. A snapshot of any
other request changes neither the image nor the counters. -/
def SnapshotConfined (before after : Panel κ ν) (origin : ChatSubmission) : Prop :=
  if before.chat.active.handle = some origin.requestId then
    ∀ batch ∈ before.executedSince after, batch.origin = origin ∧ batch.imageId = origin.imageId
  else
    after.develop = before.develop ∧ after.executed = before.executed ∧
      after.chat.active.liveAppliedCount = before.chat.active.liveAppliedCount ∧
      after.chat.active.toolCallsUsed = before.chat.active.toolCallsUsed ∧
      after.chat.active.toolCallsMax = before.chat.active.toolCallsMax

instance {κ ν : Type} [DecidableEq κ] [DecidableEq ν] (before after : Panel κ ν) (origin : ChatSubmission) :
    Decidable (SnapshotConfined before after origin) := inferInstanceAs (Decidable (ite _ _ _))

/-- The session of an image is loading, as a switch to it will find it. -/
def AgentChat.sessionLoading (chat : AgentChat) (imageId : Int) : Bool :=
  (chat.syncCurrentSession.imageSessions.get? imageId).any (·.isLoading)

/-- No snapshot is taken that belongs to another request than the held one, and no session that waits for a
response is entered while the panel holds a request for another image. -/
def Undisturbed (panel : Panel κ ν) : Event κ ν → Prop
  | .dispatch _ => ∀ snapshot ∈ panel.nextSnapshot, panel.takes snapshot.2 →
      panel.chat.active.handle = some snapshot.1.requestId
  | .enter imageId content =>
    panel.chat.sessionLoading (⟨imageId, true, content⟩ : Develop κ).currentImageId →
      ∀ transfer ∈ panel.transfers, panel.chat.active.handle = some transfer.submission.requestId →
        transfer.submission.imageId = (⟨imageId, true, content⟩ : Develop κ).currentImageId
  | _ => True

theorem AgentChat.sessionLoading_preferences (chat : AgentChat) (preferences : Preferences) (imageId : Int) :
    { chat with preferences }.sessionLoading imageId = chat.sessionLoading imageId := by
  unfold sessionLoading syncCurrentSession
  cases chat.conversationId with
  | none => rfl
  | some conversationId =>
    cases chat.imageSessionId with
    | none => rfl
    | some imageSessionId =>
      dsimp only
      rw [get?_changeEntry, get?_changeEntry]
      split
      · cases chat.imageSessions.get? chat.currentImageId <;> rfl
      · rfl

instance (panel : Panel κ ν) : ∀ event, Decidable (Undisturbed panel event)
  | .dispatch _ => inferInstanceAs (Decidable (∀ snapshot ∈ panel.nextSnapshot, panel.takes snapshot.2 →
      panel.chat.active.handle = some snapshot.1.requestId))
  | .enter imageId content => inferInstanceAs (Decidable
      (panel.chat.sessionLoading (⟨imageId, true, content⟩ : Develop κ).currentImageId →
        ∀ transfer ∈ panel.transfers, panel.chat.active.handle = some transfer.submission.requestId →
          transfer.submission.imageId = (⟨imageId, true, content⟩ : Develop κ).currentImageId))
  | .submit .. | .cancel | .newChat | .multiTurnToggled _ | .maxTurnsChanged _ | .fastModeToggled _
  | .imageChanged .. | .leave | .edit _ | .streamed .. | .ended .. => inferInstanceAs (Decidable True)

variable (host : Host κ ν W)

/-- While the visible panel waits for a response, the request it holds was submitted for the image it shows. -/
structure Anchored (panel : Panel κ ν) : Prop extends Wired host panel where
  onImage : panel.develop.visible → panel.chat.isLoading →
    ∀ transfer ∈ panel.transfers, panel.chat.active.handle = some transfer.submission.requestId →
      transfer.submission.imageId = panel.develop.currentImageId

namespace Anchored

variable {host} {panel : Panel κ ν}

theorem of_core {other : Panel κ ν} (anchored : Anchored host panel) (same : other.core = panel.core) :
    Anchored host other := by
  have core : Anchored host panel.core := { anchored with }
  rw [← same] at core
  exact { core with }

/-- A panel that is not loading, or holds no request, is anchored anywhere. -/
theorem of_calm (wired : Wired host panel) (calm : panel.chat.isLoading = false ∨ panel.chat.active.handle = none) :
    Anchored host panel := by
  refine { wired with onImage := ?_ }
  intro visible loading transfer member held
  rcases calm with quiet | free
  · rw [quiet] at loading
    cases loading
  · rw [free] at held
    cases held

theorem calms {other : Panel κ ν} (anchored : Anchored host panel) (calm : Panel.Calms panel other) :
    Anchored host other := by
  rcases calm with same | quiet
  · exact anchored.of_core same
  · have unloaded : Anchored host (panel.onChat (·.setLoading false)) :=
      of_calm (anchored.setLoading false) (.inl rfl)
    exact unloaded.of_core quiet

theorem cancelHandle_handle (panel : Panel κ ν) : panel.cancelHandle.chat.active.handle = none := by
  unfold Panel.cancelHandle
  cases held : panel.chat.active.handle with
  | none => exact held
  | some requestId => rfl

/-- A session is found loading again only if the panel was loading when it was left. -/
theorem loading_of_reopened (wired : Wired host panel) (visible : panel.develop.visible)
    (loading : (panel.reopened host).chat.isLoading) : panel.chat.isLoading := by
  unfold Panel.reopened at loading
  rw [Panel.isLoading_switchToImageSession, wired.shown visible] at loading
  obtain ⟨conversation, session⟩ := wired.opened visible
  obtain ⟨conversationId, isConversation⟩ := Option.isSome_iff_exists.mp conversation
  obtain ⟨imageSessionId, isSession⟩ := Option.isSome_iff_exists.mp session
  unfold AgentChat.syncCurrentSession at loading
  rw [isConversation, isSession] at loading
  dsimp only at loading
  rw [get?_changeEntry, if_pos rfl] at loading
  cases found : panel.chat.imageSessions.get? panel.chat.currentImageId with
  | none =>
    rw [found] at loading
    cases loading
  | some stored =>
    rw [found] at loading
    exact loading

theorem reopened (anchored : Anchored host panel) : Anchored host (panel.reopened host) := by
  refine { anchored.switchToImageSession false with onImage := ?_ }
  intro visible loading
  exact anchored.onImage visible (loading_of_reopened anchored.toWired visible loading)

theorem startRequest (wired : Wired host panel) (arguments : SubmitArguments) :
    Anchored host (panel.startRequest host arguments) := by
  refine { wired.startRequest arguments with onImage := ?_ }
  intro visible loading transfer member held
  rcases List.mem_append.mp member with old | new
  · -- identifiers are drawn once, so no older transfer has the new one
    obtain ⟨n, below, drawn⟩ := wired.drawn transfer old
    have same : host.uuid panel.uuidsDrawn = host.uuid n := (Option.some.inj held).trans drawn
    have := host.uuid_injective same
    omega
  · obtain rfl := List.mem_singleton.mp new
    rfl

theorem submitInternal (anchored : Anchored host panel) (arguments : SubmitArguments) (outcome : SubmitOutcome) :
    Anchored host (panel.submitInternal host arguments outcome).panel := by
  have wired := anchored.toWired.submitInternal arguments outcome
  rcases panel.submitInternal_cases host arguments outcome with same | same | same
  · rw [same]
    exact anchored.reopened
  · -- a request that could not be sent leaves the panel idle
    have unloaded : (panel.submitInternal host arguments outcome).panel.core.chat.isLoading = false := by
      rw [same]
      rfl
    exact of_calm wired (.inl unloaded)
  · have reopened : Wired host (panel.reopened host) := anchored.reopened.toWired
    exact (startRequest (reopened.setLoading true) arguments).of_core same

theorem continues {other : Panel κ ν} (anchored : Anchored host panel) (continued : Panel.Continues host panel other) :
    Anchored host other := by
  rcases continued with same | ⟨middle, arguments, outcome, sameMiddle, submitted⟩
  · exact anchored.of_core same
  · exact ((anchored.of_core sameMiddle).submitInternal arguments outcome).of_core submitted

theorem settle (anchored : Anchored host panel) (submission : ChatSubmission) (result : ClientResult ν) :
    Anchored host (panel.settle submission result) := by
  have same := panel.settle_core submission result
  split at same
  · have cleared : Anchored host (panel.onChat (·.clearActiveRequest)) :=
      of_calm anchored.toWired.clearActiveRequest (.inr rfl)
    exact cleared.of_core same
  · exact anchored.of_core same

theorem cancelActiveRequest_handle (panel : Panel κ ν) (statusText stopReason : String) :
    (panel.cancelActiveRequest statusText stopReason).chat.active.handle = none := by
  have same := congrArg (·.chat.active.handle) (panel.core_cancelActiveRequest statusText stopReason)
  exact same.trans (cancelHandle_handle panel)

/-- The transfers' threads touch neither the panel nor the darkroom. -/
theorem of_sameRequests (anchored : Anchored host panel) {other : Panel κ ν} (wired : Wired host other)
    (sameChat : other.chat = panel.chat) (sameDevelop : other.develop = panel.develop)
    (known : ∀ transfer ∈ other.transfers, ∃ original ∈ panel.transfers, original.submission = transfer.submission) :
    Anchored host other := by
  refine { wired with onImage := ?_ }
  rw [sameChat, sameDevelop]
  intro visible loading transfer member held
  obtain ⟨original, originally, same⟩ := known transfer member
  rw [← same] at held ⊢
  exact anchored.onImage visible loading original originally held

theorem streamed (anchored : Anchored host panel) (requestId : String) (progress : ClientProgress ν) :
    Anchored host (panel.streamed requestId progress) := by
  have same : panel.streamed requestId progress = { panel with
      queue := (panel.streamed requestId progress).queue } := by
    unfold Panel.streamed
    split <;> [split; skip] <;> rfl
  refine anchored.of_sameRequests (anchored.toWired.streamed requestId progress) ?_ ?_ ?_
  · rw [same]
  · rw [same]
  · rw [same]
    exact fun transfer member => ⟨transfer, member, rfl⟩

theorem ended (anchored : Anchored host panel) (requestId : String) (ending : TransferEnd ν) :
    Anchored host (panel.ended requestId ending) := by
  have wired := anchored.toWired.ended requestId ending
  unfold Panel.ended at wired ⊢
  cases found : panel.findTransfer requestId with
  | none => exact anchored
  | some transfer =>
    rw [found] at wired
    dsimp only at wired ⊢
    split_ifs at wired ⊢
    · exact anchored
    · refine anchored.of_sameRequests wired rfl rfl ?_
      intro marked member
      obtain ⟨original, originally, rfl⟩ := List.mem_map.mp member
      refine ⟨original, originally, ?_⟩
      split <;> rfl

section Handlers

variable [Numeric ν]

theorem executes (anchored : Anchored host panel) (origin : ChatSubmission)
    (operations : Option (List (ChatOperation ν))) : Anchored host (panel.executes host origin operations) := by
  cases operations with
  | none => exact anchored
  | some operations => exact { anchored with }

theorem progressFinished (anchored : Anchored host panel) (origin : ChatSubmission) (progress : ClientProgress ν) :
    Anchored host (panel.progressFinished host origin progress) := by
  rcases panel.progressFinished_cases host origin progress with
    ⟨-, same⟩ | ⟨-, -, same⟩ | ⟨operations, -, -, ⟨-, same⟩ | ⟨-, same⟩⟩
  · exact anchored.of_core same
  · have counted : Anchored host (panel.countToolCalls progress) := { anchored with }
    exact counted.of_core same
  · have counted : Anchored host
        (((panel.countToolCalls progress).afterExecution host origin operations).countLiveEdits progress) :=
      { anchored with }
    exact counted.of_core same
  · have executed : Wired host ((panel.countToolCalls progress).afterExecution host origin operations) :=
      { anchored.toWired with }
    exact (of_calm (executed.cancelHandle.setLoading false) (.inl rfl)).of_core same

theorem requestFinished (anchored : Anchored host panel) (submission : ChatSubmission) (result : ClientResult ν)
    (outcome : SubmitOutcome) : Anchored host (panel.requestFinished host submission result outcome) := by
  obtain ⟨middle, calm, continued⟩ := panel.requestFinished_cases host submission result outcome
  exact (((anchored.settle submission result).executes submission _).calms calm).continues continued

theorem dispatch (anchored : Anchored host panel) (outcome : SubmitOutcome) :
    Anchored host (panel.dispatch host outcome) := by
  have dequeued : ∀ {delivery : Delivery ν} {rest}, panel.queue = delivery :: rest →
      Anchored host { panel with queue := rest } :=
    fun queue => { anchored.toWired.dequeued queue with onImage := anchored.onImage }
  unfold Panel.dispatch
  split
  · exact anchored
  · exact (dequeued ‹_›).progressFinished _ _
  · exact (dequeued ‹_›).requestFinished _ _ _

/-- Only entering the darkroom can put the panel on another image than that of the request it holds. -/
theorem enter (anchored : Anchored host panel) {imageId : Int} {content : κ}
    (undisturbed : Undisturbed panel (.enter imageId content)) : Anchored host (panel.enter host imageId content) := by
  have wired := anchored.toWired.step (.enter imageId content)
  refine { wired with onImage := ?_ }
  intro _ loading
  have stored : panel.chat.sessionLoading (⟨imageId, true, content⟩ : Develop κ).currentImageId := by
    rw [← AgentChat.sessionLoading_preferences panel.chat panel.configured.loaded]
    exact (Panel.isLoading_switchToImageSession host _ _ false).symm.trans loading
  exact undisturbed stored

/-- A replaced image drops the held request, unless it is the image that the panel shows already. -/
theorem imageChanged (anchored : Anchored host panel) {imageId : Int} {content : κ} :
    Anchored host (panel.imageChanged host imageId content) := by
  have wired := anchored.toWired.step (.imageChanged imageId content)
  change Wired host (panel.imageChanged host imageId content) at wired
  unfold Panel.imageChanged at wired ⊢
  dsimp only at wired ⊢
  split at wired
  · rw [if_pos ‹_›]
    exact of_calm wired (.inr (cancelActiveRequest_handle _ _ _))
  · rw [if_neg ‹_›]
    refine { wired with onImage := ?_ }
    intro visible loading transfer member held
    have sameImage := not_not.mp ‹_›
    rw [anchored.onImage visible loading transfer member held, anchored.shown visible]
    exact sameImage.symm

theorem step (anchored : Anchored host panel) {event : Event κ ν} (undisturbed : Undisturbed panel event) :
    Anchored host (Chat.step host panel event) := by
  have wired := anchored.toWired.step event
  cases event with
  | submit prompt outcome => exact anchored.submitInternal _ outcome
  | cancel => exact of_calm wired (.inr (cancelActiveRequest_handle panel _ _))
  | newChat => exact of_calm wired (.inr (cancelActiveRequest_handle panel _ _))
  | multiTurnToggled | maxTurnsChanged | fastModeToggled => exact { wired with onImage := anchored.onImage }
  | imageChanged imageId content => exact anchored.imageChanged
  | leave =>
    refine { wired with onImage := ?_ }
    intro visible
    cases visible
  | enter imageId content => exact anchored.enter undisturbed
  | edit content => exact { wired with onImage := anchored.onImage }
  | streamed requestId progress => exact anchored.streamed requestId progress
  | ended requestId ending => exact anchored.ended requestId ending
  | dispatch outcome => exact anchored.dispatch outcome

end Handlers

end Anchored

section Runs

variable [Numeric ν]

/-- A step that dispatches a snapshot leaves every request but the snapshot's own alone. -/
def Confined (panel : Panel κ ν) (event : Event κ ν) : Prop :=
  match event with
  | .dispatch _ => ∀ snapshot ∈ panel.nextSnapshot, SnapshotConfined panel (step host panel event) snapshot.1
  | _ => True

instance [DecidableEq κ] [DecidableEq ν] (panel : Panel κ ν) : ∀ event, Decidable (Confined host panel event)
  | .dispatch outcome => inferInstanceAs (Decidable (∀ snapshot ∈ panel.nextSnapshot,
      SnapshotConfined panel (step host panel (.dispatch outcome)) snapshot.1))
  | .submit .. | .cancel | .newChat | .multiTurnToggled _ | .maxTurnsChanged _ | .fastModeToggled _
  | .imageChanged .. | .leave | .enter .. | .edit _ | .streamed .. | .ended .. => inferInstanceAs (Decidable True)

theorem progressFinished_confined {panel : Panel κ ν} (anchored : Anchored host panel) {origin : ChatSubmission}
    {progress : ClientProgress ν} (known : ∃ transfer ∈ panel.transfers, transfer.submission = origin)
    (undisturbed : panel.takes progress → panel.chat.active.handle = some origin.requestId) :
    SnapshotConfined panel (panel.progressFinished host origin progress) origin := by
  unfold SnapshotConfined Panel.executedSince
  rcases panel.progressFinished_cases host origin progress with
    ⟨-, same⟩ | ⟨taken, -, same⟩ | ⟨operations, taken, pending, applied⟩
  · -- a snapshot that is not taken changes labels at most
    have executed : (panel.progressFinished host origin progress).executed = panel.executed :=
      congrArg (·.executed) same
    split
    · rw [executed, List.drop_length]
      exact fun batch member => nomatch member
    · exact ⟨congrArg (·.develop) same, executed, congrArg (·.chat.active.liveAppliedCount) same,
        congrArg (·.chat.active.toolCallsUsed) same, congrArg (·.chat.active.toolCallsMax) same⟩
  · have executed : (panel.progressFinished host origin progress).executed = panel.executed :=
      congrArg (·.executed) same
    rw [if_pos (undisturbed taken), executed, List.drop_length]
    exact fun batch member => nomatch member
  · have held := undisturbed taken
    have executed : (panel.progressFinished host origin progress).executed = panel.executed ++
        [⟨origin, operations, panel.develop.currentImageId, (panel.execution host operations).ok⟩] := by
      rcases applied with ⟨-, same⟩ | ⟨-, same⟩
      · exact congrArg (·.executed) same
      · exact congrArg (·.executed) same
    rw [if_pos held, executed, List.drop_left]
    intro batch member
    obtain rfl := List.mem_singleton.mp member
    obtain ⟨transfer, sent, same⟩ := known
    -- operations are pending only while the darkroom is visible, so the held request is on its image
    have visible := (Panel.pendingOperations_eq_some pending).1
    have loading := (Panel.takes_eq_true taken).2.1
    have image := anchored.onImage visible loading transfer sent (by rw [same]; exact held)
    rw [same] at image
    exact ⟨rfl, image.symm⟩

/-- While nothing disturbs them, snapshots are confined to the request they belong to and to its image, in every
run. -/
theorem snapshots_confined (configured : Preferences) (content : κ) (events : List (Event κ ν))
    (undisturbed : EveryStep (step host) Undisturbed (initialPanel configured content) events) :
    EveryStep (step host) (Confined host) (initialPanel configured content) events := by
  have kept : ∀ panel event, Anchored host panel → Undisturbed panel event → Anchored host (step host panel event) :=
    fun _ _ anchored here => anchored.step here
  refine everyStep_of_invariant kept ?_ ?_ undisturbed
  · intro panel event anchored here
    cases event with
    | dispatch outcome =>
      intro snapshot next
      have progressed : ∃ rest, panel.queue = .progress snapshot.1 snapshot.2 :: rest := by
        unfold Panel.nextSnapshot at next
        split at next
        · obtain rfl := Option.some.inj next
          exact ⟨_, ‹_›⟩
        · cases next
      obtain ⟨rest, queue⟩ := progressed
      have dispatched : step host panel (.dispatch outcome) =
          { panel with queue := rest }.progressFinished host snapshot.1 snapshot.2 := by
        simp only [step, Panel.dispatch, queue]
      rw [dispatched]
      have dequeued : Anchored host { panel with queue := rest } :=
        { anchored.toWired.dequeued queue with onImage := anchored.onImage }
      have known := anchored.queued (.progress snapshot.1 snapshot.2) (by rw [queue]; exact List.mem_cons_self)
      exact progressFinished_confined host dequeued known (here snapshot next)
    | _ => trivial
  · exact Anchored.of_calm (Wired.initially configured content) (.inl rfl)

end Runs

end Confinement

/-! A darkroom with one slider and a history that grows by an item with every write. -/

structure SampleEdit where
  exposure : ℚ
  history : Nat
  deriving DecidableEq

def sampleRoom : Darkroom SampleEdit ℚ Unit where
  isCurrentView _ := true
  chromaAdaptation _ := false
  candidates _ := some [sampleDescriptor "exposure" "iop/exposure/exposure" .widget]
  sliderGet edit _ := edit.exposure
  sliderSet edit _ exposure := ⟨exposure, edit.history + 1⟩
  comboboxGetData _ _ := 0
  comboboxSetFromValue _ _ _ := none
  isToggleButton _ _ := false
  toggleGetActive _ _ := false
  toggleSetActive edit _ _ := edit
  readRgblevels _ _ := none
  writeRgblevels edit _ _ := (edit, none)
  readColorzones _ _ := none
  writeColorzones edit _ _ := (edit, none)

def sampleUuid (n : Nat) : String := "uuid-" ++ toString n

theorem sampleUuid_injective : Function.Injective sampleUuid := by
  intro first second same
  exact toString_nat_injective (String.append_right_inj _ |>.mp same)

def sampleHost : Host SampleEdit ℚ Unit where
  darkroom := sampleRoom
  historyEnd edit := edit.history
  historyCount edit := edit.history
  uuid := sampleUuid
  uuid_injective := sampleUuid_injective
  operationSummary _ := ""
  toolProgressMessage _ _ _ _ := none

def samplePreferences : Preferences := ⟨true, 4, false⟩

def sampleStart : Panel SampleEdit ℚ := initialPanel samplePreferences ⟨0, 0⟩

/-- The response to a request on the first image of a run, with the exposure set once for each number. -/
def sampleResponse (requestId : String) (numbers : List ℚ) : ChatResponse ℚ where
  schemaVersion := "3.0"
  requestId := requestId
  appSessionId := "app"
  imageSessionId := sampleUuid 0
  conversationId := sampleUuid 1
  turnId := "turn"
  planId := none
  baseImageRevisionId := some "image-1-history-0-0"
  status := "ok"
  messageRole := "assistant"
  messageText := ""
  operations := numbers.map (setNumber "exposure" "iop/exposure/exposure")
  refinementMode := some .multiTurn
  refinementEnabled := true
  refinementPassIndex := 1
  refinementMaxPasses := 4
  refinementContinue := false
  refinementStopReason := none
  errorCode := none
  errorMessage := none

def sampleSnapshot (requestId : String) (numbers : List ℚ) : ClientProgress ℚ where
  found := true
  response := some (sampleResponse requestId numbers)

/-- A snapshot of the first request waits while that request is cancelled and a second one is sent. -/
def lateSnapshot : List (Event SampleEdit ℚ) :=
  [.enter 1 ⟨0, 0⟩, .submit "brighten" .queued, .streamed (sampleUuid 2) (sampleSnapshot (sampleUuid 2) [1]), .cancel,
    .submit "darken" .queued, .dispatch .queued]

theorem lateSnapshot_not_confined :
    ¬ EveryStep (step sampleHost) (Confined sampleHost) sampleStart lateSnapshot := by
  decide +kernel

/-- Without the cancellation the snapshot is the held request's own. -/
theorem snapshots_confined_single :
    EveryStep (step sampleHost) (Confined sampleHost) sampleStart
      [.enter 1 ⟨0, 0⟩, .submit "brighten" .queued, .streamed (sampleUuid 2) (sampleSnapshot (sampleUuid 2) [1]),
        .dispatch .queued] :=
  snapshots_confined sampleHost samplePreferences ⟨0, 0⟩ _ (by decide +kernel)

end DarktableAgent.Chat
