import DarktableAgent.Chat.Confinement
import DarktableAgent.Chat.Log
import DarktableAgent.Foundation.Resume

/-! A panel with one active request, from its submission to the dispatch of its result.

What was executed so far stands for the front of the plan, and the counter of the panel
says how long it is. The stored session of the image lets the darkroom be left and
entered again in between.
-/

set_option autoImplicit false

namespace DarktableAgent.Chat

open Foundation Protocol Client

/-- An image has a stored session. -/
def AgentChat.stores (chat : AgentChat) (imageId : Int) : Bool := (chat.imageSessions.get? imageId).isSome

theorem isSome_changeEntry {κ ν : Type} [DecidableEq κ] (dict : Dict κ ν) (key other : κ) (change : ν → ν) :
    ((changeEntry dict key change).get? other).isSome = (dict.get? other).isSome := by
  rw [get?_changeEntry]
  split_ifs with same
  · rw [same, Option.isSome_map]
  · rfl

namespace AgentChat

variable (chat : AgentChat) (imageId : Int)

@[simp] theorem stores_syncCurrentSession : chat.syncCurrentSession.stores imageId = chat.stores imageId := by
  unfold stores syncCurrentSession
  cases chat.conversationId with
  | none => rfl
  | some conversationId =>
    cases chat.imageSessionId with
    | none => rfl
    | some imageSessionId => exact isSome_changeEntry ..

@[simp] theorem stores_updateSession (other : Int) (change : ChatSession → ChatSession) :
    (chat.updateSession other change).stores imageId = chat.stores imageId := isSome_changeEntry ..

@[simp] theorem stores_setStatus (status : String) : (chat.setStatus status).stores imageId = chat.stores imageId :=
  stores_syncCurrentSession ..

@[simp] theorem stores_setError (error : String) : (chat.setError error).stores imageId = chat.stores imageId :=
  stores_syncCurrentSession ..

@[simp] theorem stores_appendMessage (speaker message : String) :
    (chat.appendMessage speaker message).stores imageId = chat.stores imageId := stores_syncCurrentSession ..

@[simp] theorem stores_setLoading (isLoading : Bool) :
    (chat.setLoading isLoading).stores imageId = chat.stores imageId := rfl

@[simp] theorem stores_updateRefinementStatus (passIndex maxPasses : Nat) :
    (chat.updateRefinementStatus passIndex maxPasses).stores imageId = chat.stores imageId :=
  stores_setStatus ..

/-- The session that is switched to is stored. -/
theorem stores_switchToImageSession (uuid : Nat → String) (drawn : Nat) (forceNewChat : Bool) :
    (chat.switchToImageSession uuid drawn imageId forceNewChat).stores imageId :=
  Option.isSome_iff_exists.mpr ⟨_, Dict.get?_set_self ..⟩

end AgentChat

section Stores

variable {κ ν W : Type} (host : Host κ ν W) (panel : Panel κ ν) (imageId : Int)

namespace Panel

theorem stores_announceRequest (arguments : SubmitArguments) :
    (panel.announceRequest arguments).chat.stores imageId = panel.chat.stores imageId := by
  unfold announceRequest
  dsimp only [onCurrentSession, onChat]
  split_ifs <;> simp

/-- A submission stores the session of the image in the darkroom. -/
theorem stores_submitInternal (arguments : SubmitArguments) (outcome : SubmitOutcome) :
    (panel.submitInternal host arguments outcome).panel.chat.stores panel.develop.currentImageId := by
  have reopened : (panel.switchToImageSession host panel.develop.currentImageId false).chat.stores
      panel.develop.currentImageId := panel.chat.stores_switchToImageSession ..
  have announced := reopened
  rw [← stores_announceRequest _ _ arguments] at announced
  have abandoned : ∀ message, (((panel.switchToImageSession host panel.develop.currentImageId false).announceRequest
      arguments).abandonRequest message).chat.stores panel.develop.currentImageId := by
    intro message
    unfold abandonRequest handleTransportError
    dsimp only [onChat]
    simpa using announced
  unfold submitInternal
  dsimp only
  split_ifs
  · exact reopened
  · split
    · exact abandoned _
    · exact abandoned _
    · exact announced

theorem stores_showRefinement : panel.showRefinement.chat.stores imageId = panel.chat.stores imageId :=
  AgentChat.stores_updateRefinementStatus ..

theorem stores_armRender (progress : ClientProgress ν) :
    (panel.armRender progress).chat.stores imageId = panel.chat.stores imageId := by
  unfold armRender
  split_ifs
  · exact AgentChat.stores_updateSession ..
  · rfl

theorem stores_announceToolCall (progress : ClientProgress ν) (before : ActiveRequest) :
    (panel.announceToolCall host progress before).chat.stores imageId = panel.chat.stores imageId := by
  unfold announceToolCall
  dsimp only [onChat]
  split_ifs
  · split
    · split_ifs <;> simp
    · rfl
  · rfl

theorem stores_cancelActiveRequest (statusText stopReason : String) :
    (panel.cancelActiveRequest statusText stopReason).chat.stores imageId = panel.chat.stores imageId := by
  have dropped : ∀ other : Panel κ ν, other.cancelHandle.chat.stores imageId = other.chat.stores imageId := by
    intro other
    unfold cancelHandle
    cases other.chat.active.handle <;> rfl
  have stopped : ∀ change, (panel.onCurrentSession change).cancelHandle.chat.stores imageId =
      panel.chat.stores imageId := fun change => (dropped _).trans (AgentChat.stores_updateSession ..)
  unfold cancelActiveRequest
  dsimp only [onChat]
  split_ifs
  · simpa using stopped _
  · exact stopped _

theorem stores_failLiveApply (error : Option String) :
    (panel.failLiveApply error).chat.stores imageId = panel.chat.stores imageId := by
  unfold failLiveApply
  rw [stores_cancelActiveRequest]
  simp [onChat]

/-- A snapshot neither stores nor forgets a session. -/
theorem stores_progressFinished [Numeric ν] (origin : ChatSubmission) (progress : ClientProgress ν) :
    (panel.progressFinished host origin progress).chat.stores imageId = panel.chat.stores imageId := by
  unfold progressFinished
  dsimp only
  split_ifs with passed found
  · rfl
  · split
    · rw [stores_showRefinement, stores_announceToolCall]
      rfl
    · split_ifs
      · rw [stores_showRefinement, stores_announceToolCall, stores_armRender]
        rfl
      · rw [stores_failLiveApply]
        rfl
  · exact stores_showRefinement ..

end Panel

end Stores

section Serving

variable {α κ ν W : Type}

/-- What a request's transfer delivers, compared with a plan. -/
structure LiveRequest (α ν : Type) where
  submission : ChatSubmission
  plan : List α
  relates : α → ChatOperation ν → Prop
  shown : ClientProgress ν → Prop
  final : ChatResponse ν → Prop
  reads : ∀ progress, shown progress → passedOver progress ∨ progress.found = false ∨
    ∃ response, progress.response = some response ∧ Begins relates plan response.operations
  answers : ∀ response, final response → List.Forall₂ relates plan response.operations ∧ response.status = "ok" ∧
    response.requestId = submission.requestId ∧ response.conversationId = submission.conversationId ∧
    response.refinementMode = some .multiTurn ∧ response.baseImageRevisionId = some submission.baseImageRevisionId

/-- Nothing but the request's own transfer delivers, and the user leaves the request alone. The panel may be
hidden and shown again, and the image may be edited. -/
def Alone (requestId : String) (shown : ClientProgress ν → Prop) (final : ChatResponse ν → Prop) (panel : Panel κ ν) :
    Event κ ν → Prop
  | .submit .. | .cancel | .newChat => False
  | .imageChanged imageId content | .enter imageId content =>
    (⟨imageId, true, content⟩ : Develop κ).currentImageId = panel.chat.currentImageId
  | .streamed other progress => other = requestId ∧ shown progress
  | .ended other ending => other = requestId ∧ ∃ response, final response ∧ ending = .completed response
  -- the result has not been dispatched yet
  | .dispatch _ => ∀ submission result rest, panel.queue ≠ .result submission result :: rest
  | .multiTurnToggled _ | .maxTurnsChanged _ | .fastModeToggled _ | .leave | .edit _ => True

theorem alone_of_snapshot {requestId : String} {shown : ClientProgress ν → Prop} {final : ChatResponse ν → Prop}
    {panel : Panel κ ν} {submission : ChatSubmission} {progress : ClientProgress ν} {others : List (Delivery ν)}
    (queue : panel.queue = .progress submission progress :: others) (outcome : SubmitOutcome) :
    Alone requestId shown final panel (.dispatch outcome) := by
  intro _ _ _ same
  rw [queue] at same
  cases same

/-- The user's own changes of the edit. -/
def Unedited (panel : Panel κ ν) : Event κ ν → Prop
  | .imageChanged _ content | .enter _ content | .edit content => content = panel.develop.content
  | _ => True

/-- The deliveries that may wait for the request. -/
def LiveRequest.Expects (live : LiveRequest α ν) : Delivery ν → Prop
  | .progress submission progress => submission = live.submission ∧ live.shown progress
  | .result submission result => submission = live.submission ∧
      ∃ response, live.final response ∧ result = { response := some response }

structure Carries (live : LiveRequest α ν) (base : Panel κ ν) (unedited : Prop) (panel : Panel κ ν) : Prop where
  active : panel.chat.active.requestId = some live.submission.requestId
  known : ∀ transfer ∈ panel.transfers, transfer.submission.requestId = live.submission.requestId →
    transfer.submission = live.submission
  queued : ∀ delivery ∈ panel.queue, live.Expects delivery
  executed : ∃ taken, panel.executed = base.executed ++ taken ∧
    panel.chat.active.liveAppliedCount = (taken.flatMap (·.operations)).length ∧
    Begins live.relates live.plan (taken.flatMap (·.operations))
  conversation : panel.chat.conversationId = some live.submission.conversationId
  session : panel.chat.imageSessionId = some live.submission.imageSessionId
  image : panel.chat.currentImageId = live.submission.imageId
  onImage : panel.develop.visible → panel.develop.currentImageId = live.submission.imageId
  content : unedited → panel.chat.active.liveAppliedCount = 0 → panel.develop.content = base.develop.content

structure Serving (live : LiveRequest α ν) (base : Panel κ ν) (unedited : Prop) (panel : Panel κ ν) : Prop
    extends Carries live base unedited panel where
  stored : panel.chat.stores live.submission.imageId

/-- What a submission says about the darkroom it was made in. -/
structure MadeIn (host : Host κ ν W) (submission : ChatSubmission) (base : Panel κ ν) : Prop where
  hasImage : submission.hasImageId = decide (0 < submission.imageId)
  revision : submission.baseImageRevisionId = formatImageRevisionId submission.hasImageId submission.imageId
    (host.historyEnd base.develop.content) (host.historyCount base.develop.content)

namespace Serving

variable {live : LiveRequest α ν} {base panel : Panel κ ν} {unedited : Prop} {host : Host κ ν W}

theorem of_core {other : Panel κ ν} (carries : Carries live base unedited panel) (same : other.core = panel.core) :
    Carries live base unedited other := by
  have core : Carries live base unedited panel.core := { carries with }
  rw [← same] at core
  exact { core with }

/-- The session of the request is found again with the ids it had. -/
theorem targetSession_eq (chat : AgentChat) {imageSessionId conversationId : String} {stored : ChatSession}
    (conversation : chat.conversationId = some conversationId) (session : chat.imageSessionId = some imageSessionId)
    (found : chat.imageSessions.get? chat.currentImageId = some stored) (uuid : Nat → String) (drawn : Nat) :
    chat.syncCurrentSession.targetSession uuid drawn chat.currentImageId false =
      (chat.storeInto imageSessionId conversationId stored, drawn) := by
  have kept : chat.syncCurrentSession.imageSessions.get? chat.currentImageId =
      some (chat.storeInto imageSessionId conversationId stored) := by
    unfold AgentChat.syncCurrentSession
    rw [conversation, session]
    dsimp only
    rw [get?_changeEntry, if_pos rfl, found]
    rfl
  exact AgentChat.targetSession_of_stored _ kept uuid drawn

/-- The darkroom is entered again, with the image of the request. -/
theorem enter (serving : Serving live base unedited panel) {imageId : Int} {content : κ}
    (sameImage : (⟨imageId, true, content⟩ : Develop κ).currentImageId = panel.chat.currentImageId)
    (sameContent : unedited → content = panel.develop.content) :
    Serving live base unedited (panel.enter host imageId content) := by
  obtain ⟨stored, found⟩ := Option.isSome_iff_exists.mp serving.stored
  rw [← serving.image] at found
  have target := targetSession_eq { panel.chat with preferences := panel.configured.loaded }
    serving.conversation serving.session found host.uuid panel.uuidsDrawn
  have switched : (panel.enter host imageId content).chat.conversationId = some live.submission.conversationId ∧
      (panel.enter host imageId content).chat.imageSessionId = some live.submission.imageSessionId := by
    unfold Panel.enter Panel.switchToImageSession AgentChat.switchToImageSession
    dsimp only
    rw [sameImage, target]
    exact ⟨rfl, rfl⟩
  have shownImage : (⟨imageId, true, content⟩ : Develop κ).currentImageId = live.submission.imageId :=
    sameImage.trans serving.image
  constructor
  case toCarries => exact { serving.toCarries with
    conversation := switched.1
    session := switched.2
    image := shownImage
    onImage := fun _ => shownImage
    content := fun same none => (sameContent same).trans (serving.content same none) }
  case stored =>
    rw [← shownImage]
    exact AgentChat.stores_switchToImageSession ..

/-- What the transfer finds under the request's id is the request's own. -/
theorem findTransfer_submission (carries : Carries live base unedited panel) {transfer : Transfer}
    (found : panel.findTransfer live.submission.requestId = some transfer) :
    transfer.submission = live.submission := by
  have named := List.find?_some found
  exact carries.known transfer (List.mem_of_find?_eq_some found) (of_decide_eq_true named)

theorem queue_append (carries : Carries live base unedited panel) (delivery : Delivery ν)
    (expected : live.Expects delivery) :
    Carries live base unedited { panel with queue := panel.queue ++ [delivery] } :=
  { carries with
    queued := fun other member => by
      rcases List.mem_append.mp member with old | new
      · exact carries.queued other old
      · rw [List.mem_singleton.mp new]
        exact expected }

theorem streamed (serving : Serving live base unedited panel) {progress : ClientProgress ν} (shown : live.shown progress) :
    Serving live base unedited (panel.streamed live.submission.requestId progress) := by
  unfold Panel.streamed
  cases found : panel.findTransfer live.submission.requestId with
  | none => exact serving
  | some transfer =>
    dsimp only
    split_ifs
    · exact serving
    · have own := findTransfer_submission serving.toCarries found
      exact { queue_append serving.toCarries (.progress transfer.submission progress) ⟨own, shown⟩ with
        stored := serving.stored }

theorem ended (serving : Serving live base unedited panel) {response : ChatResponse ν} (final : live.final response) :
    Serving live base unedited (panel.ended live.submission.requestId (.completed response)) := by
  unfold Panel.ended
  cases found : panel.findTransfer live.submission.requestId with
  | none => exact serving
  | some transfer =>
    dsimp only
    split_ifs
    · exact serving
    · have own := findTransfer_submission serving.toCarries found
      have queued := queue_append serving.toCarries
        (.result transfer.submission ((TransferEnd.completed response).result transfer.cancelRequested))
        ⟨own, response, final, rfl⟩
      refine { queued with known := ?_, stored := serving.stored }
      intro marked member
      obtain ⟨original, originally, rfl⟩ := List.mem_map.mp member
      have same := serving.known original originally
      split_ifs <;> exact same

/-- An image that only the request has changed is one that the response still fits. -/
theorem revisionMismatch_eq_false (carries : Carries live base unedited panel) (made : MadeIn host live.submission base)
    (enabled : live.submission.refinementEnabled) (visible : panel.develop.visible) (untouched : unedited)
    {response : ChatResponse ν} (final : live.final response) :
    revisionMismatch host panel.develop live.submission { response := some response }
      panel.chat.active.liveAppliedCount = false := by
  obtain ⟨-, ok, -, -, mode, revision⟩ := live.answers response final
  unfold revisionMismatch
  simp only [Option.any_some, ok, decide_true, Bool.true_and]
  by_cases none : panel.chat.active.liveAppliedCount = 0
  · have current : currentImageRevisionId host panel.develop = live.submission.baseImageRevisionId := by
      unfold currentImageRevisionId
      rw [made.revision, made.hasImage, carries.onImage visible, carries.content untouched none]
    simp [current, revision]
  · have positive : 0 < panel.chat.active.liveAppliedCount := Nat.pos_of_ne_zero none
    simp [allowLiveRevisionMismatch, enabled, positive, mode]

theorem matchesActiveRequest (carries : Carries live base unedited panel) :
    panel.chat.matchesActiveRequest live.submission := decide_eq_true carries.active

/-- The response of the request is not stale. -/
theorem isStaleResponse_eq_false (carries : Carries live base unedited panel) (made : MadeIn host live.submission base)
    (visible : panel.develop.visible) {response : ChatResponse ν} (final : live.final response) :
    isStaleResponse (panel.settle live.submission { response := some response }).chat panel.develop live.submission
      { response := some response } = false := by
  obtain ⟨-, -, requestId, conversationId, -, -⟩ := live.answers response final
  have active := matchesActiveRequest carries
  have settled : (panel.settle live.submission { response := some response }).chat.active.requestId = none := by
    unfold Panel.settle
    rw [Panel.onChat, if_pos active]
    rfl
  have conversation : (panel.settle live.submission { response := some response }).chat.conversationId =
      some live.submission.conversationId := by
    unfold Panel.settle
    rw [Panel.onChat, if_pos active]
    exact carries.conversation
  have session : (panel.settle live.submission { response := some response }).chat.imageSessionId =
      some live.submission.imageSessionId := by
    unfold Panel.settle
    rw [Panel.onChat, if_pos active]
    exact carries.session
  have image : live.submission.hasImageId → panel.develop.imageId = live.submission.imageId := by
    intro image
    rw [made.hasImage, decide_eq_true_eq, ← carries.onImage visible] at image
    rw [← carries.onImage visible]
    unfold Develop.currentImageId at image ⊢
    split_ifs at image ⊢
    · rfl
    · exact absurd image (by decide)
  unfold isStaleResponse
  cases known : live.submission.hasImageId with
  | false => simp [settled, conversation, session, requestId, conversationId]
  | true => simp [settled, conversation, session, requestId, conversationId, image known]

/-- The rest of the plan is executed when the result is dispatched. -/
theorem finalOperations_eq (carries : Carries live base unedited panel) (made : MadeIn host live.submission base)
    (visible : panel.develop.visible) {response : ChatResponse ν} (final : live.final response)
    (accepted : revisionMismatch host panel.develop live.submission { response := some response }
      panel.chat.active.liveAppliedCount = false) :
    panel.finalOperations host live.submission { response := some response } =
      if response.operations.length ≤ panel.chat.active.liveAppliedCount then none
      else some (response.operations.drop panel.chat.active.liveAppliedCount) := by
  obtain ⟨-, ok, -⟩ := live.answers response final
  have count : panel.chat.liveAppliedFor live.submission = panel.chat.active.liveAppliedCount := by
    unfold AgentChat.liveAppliedFor
    rw [matchesActiveRequest carries, if_pos rfl]
  have fresh := isStaleResponse_eq_false carries made visible final
  unfold Panel.finalOperations Panel.currentOperations
  rw [count]
  simp [fresh, accepted, visible, ok]

section Handlers

variable [Numeric ν]

/-- A snapshot is executed from where the last one ended. -/
theorem afterSnapshot (carries : Carries live base unedited panel) {progress : ClientProgress ν}
    {response : ChatResponse ν} (answered : progress.response = some response)
    (begins : Begins live.relates live.plan response.operations)
    (longer : panel.chat.active.liveAppliedCount < response.operations.length) :
    Carries live base unedited (((panel.countToolCalls progress).afterExecution host live.submission
      (response.operations.drop panel.chat.active.liveAppliedCount)).countLiveEdits progress) := by
  obtain ⟨taken, executed, count, front⟩ := carries.executed
  have counted : liveEditCount progress = response.operations.length := by
    unfold liveEditCount
    rw [answered]
  let batch : ExecutedBatch ν := ⟨live.submission, response.operations.drop panel.chat.active.liveAppliedCount,
    panel.develop.currentImageId,
    (panel.execution host (response.operations.drop panel.chat.active.liveAppliedCount)).ok⟩
  have operations : (taken ++ [batch]).flatMap (·.operations) = taken.flatMap (·.operations) ++
      response.operations.drop (taken.flatMap (·.operations)).length := by
    rw [List.flatMap_append, List.flatMap_singleton, ← count]
  rw [count] at longer
  refine { carries with executed := ⟨taken ++ [batch], ?_, ?_, ?_⟩, content := ?_ }
  · change panel.executed ++ [batch] = _
    rw [executed, List.append_assoc]
  · change liveEditCount progress = _
    rw [counted, operations, List.length_append, List.length_drop]
    omega
  · rw [operations]
    exact front.resume begins longer.le
  · -- something is live now
    intro _ none
    have empty : liveEditCount progress = 0 := none
    omega

theorem progressFinished (serving : Serving live base unedited panel) {progress : ClientProgress ν}
    (shown : live.shown progress)
    (ok : ∀ batch ∈ panel.batches host live.submission (panel.snapshotOperations progress), batch.ok) :
    Serving live base unedited (panel.progressFinished host live.submission progress) := by
  refine ⟨?_, ?_⟩
  case refine_2 =>
    rw [Panel.stores_progressFinished]
    exact serving.stored
  unfold Panel.snapshotOperations at ok
  rcases panel.progressFinished_cases host live.submission progress with
    ⟨-, same⟩ | ⟨-, -, same⟩ | ⟨operations, taken, pending, ⟨-, same⟩ | ⟨failed, -⟩⟩
  · exact of_core serving.toCarries same
  · have counted : Carries live base unedited (panel.countToolCalls progress) := { serving.toCarries with }
    exact of_core counted same
  · obtain ⟨-, response, answered, longer, rfl⟩ := Panel.pendingOperations_eq_some pending
    obtain ⟨-, -, -, notPassed, found⟩ := Panel.takes_eq_true taken
    have begins : Begins live.relates live.plan response.operations := by
      rcases live.reads progress shown with passed | missing | ⟨read, same, begins⟩
      · rw [notPassed] at passed
        cases passed
      · rw [found] at missing
        cases missing
      · rw [answered] at same
        rw [Option.some.inj same]
        exact begins
    exact of_core (afterSnapshot serving.toCarries answered begins longer) same
  · -- no operation fails
    rw [if_pos taken, pending] at ok
    have ran : (panel.execution host operations).ok := ok _ (List.mem_singleton_self _)
    rw [failed] at ran
    cases ran

theorem step (serving : Serving live base unedited panel) {event : Event κ ν}
    (alone : Alone live.submission.requestId live.shown live.final panel event)
    (same : unedited → Unedited panel event) (ok : ∀ batch ∈ panel.executedBy host event, batch.ok) :
    Serving live base unedited (Chat.step host panel event) := by
  have changed : ∀ change, Serving live base unedited (panel.setPreferences change) := fun change =>
    { serving with stored := (AgentChat.stores_syncCurrentSession ..).trans serving.stored }
  cases event with
  | submit | cancel | newChat => exact alone.elim
  | multiTurnToggled enabled => exact changed fun chosen => { chosen with multiTurnEnabled := enabled }
  | maxTurnsChanged turns => exact changed fun chosen => { chosen with maxRefinementPasses := max turns 1 }
  | fastModeToggled enabled => exact changed fun chosen => { chosen with fastModeEnabled := enabled }
  | imageChanged imageId content =>
    -- the panel shows the session of the new image already
    have kept : panel.imageChanged host imageId content =
        { panel with develop := { panel.develop with imageId, content } } := if_neg (not_not.mpr alone)
    change Serving live base unedited (panel.imageChanged host imageId content)
    rw [kept]
    exact { serving with
      onImage := fun _ => Eq.trans alone serving.image
      content := fun unedited none => (same unedited).trans (serving.content unedited none) }
  | leave => exact { serving with
      onImage := fun visible => nomatch visible
      stored := (AgentChat.stores_syncCurrentSession ..).trans serving.stored }
  | enter imageId content => exact serving.enter alone same
  | edit content =>
    exact { serving with
      content := fun unedited none => (same unedited).trans (serving.content unedited none) }
  | streamed requestId progress =>
    obtain ⟨rfl, shown⟩ := alone
    exact serving.streamed shown
  | ended requestId ending =>
    obtain ⟨rfl, response, final, rfl⟩ := alone
    exact serving.ended final
  | dispatch outcome =>
    unfold Panel.executedBy at ok
    change Serving live base unedited (panel.dispatch host outcome)
    unfold Panel.dispatch
    cases queue : panel.queue with
    | nil => exact serving
    | cons delivery rest =>
      have expected := serving.queued delivery (by rw [queue]; exact List.mem_cons_self)
      cases delivery with
      | result submission result => exact absurd queue (alone submission result rest)
      | progress origin progress =>
        obtain ⟨rfl, shown⟩ := expected
        rw [queue] at ok
        have dequeued : Serving live base unedited { panel with queue := rest } :=
          { serving with queued := fun other member => serving.queued other (by
              rw [queue]
              exact List.mem_cons_of_mem _ member) }
        exact dequeued.progressFinished shown ok

/-- Every operation of the plan has been executed once, in the order of the plan, when the result is handled. -/
theorem requestFinished (carries : Carries live base unedited panel) (made : MadeIn host live.submission base)
    (visible : panel.develop.visible) {response : ChatResponse ν} (final : live.final response)
    (accepted : revisionMismatch host panel.develop live.submission { response := some response }
      panel.chat.active.liveAppliedCount = false) (outcome : SubmitOutcome) :
    List.Forall₂ live.relates live.plan ((base.executedSince (panel.requestFinished host live.submission
      { response := some response } outcome)).flatMap (·.operations)) := by
  obtain ⟨taken, executed, count, front⟩ := carries.executed
  obtain ⟨full, -⟩ := live.answers response final
  have finished := front.finish full
  rw [← count] at finished
  unfold Panel.executedSince
  rw [Panel.requestFinished_executed, finalOperations_eq carries made visible final accepted, executed,
    List.append_assoc, List.drop_left, List.flatMap_append]
  split_ifs with nothing
  · rw [List.drop_eq_nil_of_le nothing] at finished
    exact finished
  · simpa [Panel.batches] using finished

end Handlers

end Serving

section Submission

variable {host : Host κ ν W} {before : Panel κ ν} {arguments : SubmitArguments} {outcome : SubmitOutcome}
  {transfer : Transfer}

/-- A request that was sent is the one that the panel built when the session was open. -/
theorem sent_core (sent : (before.submitInternal host arguments outcome).panel.transfers = before.transfers ++ [transfer]) :
    transfer.submission = (before.reopened host).submission host arguments ∧
      transfer.refinementMode = arguments.refinementMode ∧
      (before.submitInternal host arguments outcome).panel.core =
        (((before.reopened host).onChat (·.setLoading true)).startRequest host arguments).core := by
  have nothing : (before.submitInternal host arguments outcome).panel.transfers ≠ before.transfers := by
    intro same
    have longer := congrArg List.length (sent.symm.trans same)
    simp at longer
  rcases before.submitInternal_cases host arguments outcome with same | same | same
  · exact absurd (congrArg (·.transfers) same) nothing
  · have unsent : (before.submitInternal host arguments outcome).panel.transfers = before.transfers :=
      congrArg (·.transfers) same
    exact absurd unsent nothing
  · have started : (before.submitInternal host arguments outcome).panel.transfers = before.transfers ++ [_] :=
      congrArg (·.transfers) same
    obtain rfl := List.singleton_inj.mp (List.append_cancel_left (sent.symm.trans started))
    exact ⟨rfl, rfl, same⟩

/-- A submission is made in the darkroom that it leaves. -/
theorem madeIn_of_sent
    (sent : (before.submitInternal host arguments outcome).panel.transfers = before.transfers ++ [transfer]) :
    MadeIn host transfer.submission (before.submitInternal host arguments outcome).panel := by
  obtain ⟨submission, -, -⟩ := sent_core sent
  have develop : (before.submitInternal host arguments outcome).panel.develop = before.develop :=
    (before.submitInternal_log host arguments outcome).2.1
  rw [submission]
  constructor
  case hasImage =>
    unfold Panel.submission Develop.currentImageId
    by_cases image : 0 < (before.reopened host).develop.imageId <;> simp [image, noImageId]
  case revision =>
    rw [develop]
    change formatImageRevisionId (decide (0 < before.develop.imageId)) before.develop.imageId _ _ =
      formatImageRevisionId (decide (0 < before.develop.imageId)) before.develop.currentImageId _ _
    unfold Develop.currentImageId
    by_cases image : 0 < before.develop.imageId
    · rw [if_pos image]
      rfl
    · simp [image, formatImageRevisionId]

/-- A request is served from the moment it is sent. -/
theorem serving_of_sent (wired : Wired host before) (idle : before.queue = []) {live : LiveRequest α ν}
    (own : live.submission = transfer.submission)
    (sent : (before.submitInternal host arguments outcome).panel.transfers = before.transfers ++ [transfer])
    (unedited : Prop) :
    Serving live (before.submitInternal host arguments outcome).panel unedited
      (before.submitInternal host arguments outcome).panel := by
  obtain ⟨submission, -, core⟩ := sent_core sent
  obtain ⟨executed, develop, -⟩ := before.submitInternal_log host arguments outcome
  rw [submission] at own
  constructor
  case stored =>
    rw [own]
    exact before.stores_submitInternal host arguments outcome
  case toCarries =>
    refine Serving.of_core ?_ core
    constructor
    case active =>
      rw [own]
      rfl
    case known =>
      intro other member same
      rw [own] at same ⊢
      rcases List.mem_append.mp member with old | new
      · -- the ids of older transfers were drawn before
        obtain ⟨n, below, drawn⟩ := wired.drawn other old
        have fresh := host.uuid_injective (drawn.symm.trans same)
        have later := before.le_switchToImageSession host before.develop.currentImageId false
        unfold Panel.reopened at fresh
        omega
      · rw [List.mem_singleton.mp new]
        rfl
    case queued =>
      intro delivery member
      have waiting : delivery ∈ before.queue := member
      rw [idle] at waiting
      cases waiting
    case executed => exact ⟨[], by rw [executed, List.append_nil]; rfl, rfl, .nil⟩
    case conversation =>
      rw [own]
      rfl
    case session =>
      rw [own]
      rfl
    case image =>
      rw [own]
      rfl
    case onImage =>
      intro _
      rw [own]
      rfl
    case content =>
      intro _ _
      rw [develop]
      rfl

end Submission

section Runs

variable [Numeric ν] (host : Host κ ν W)

/-- No batch in the log of a run failed, so none failed on the way. -/
theorem everyStep_ok {start : Panel κ ν} {events : List (Event κ ν)}
    (ok : ∀ batch ∈ start.executedSince (run (step host) start events), batch.ok) :
    EveryStep (step host) (fun panel event => ∀ batch ∈ panel.executedBy host event, batch.ok) start events := by
  rw [everyStep_iff_split]
  rintro first event rest rfl batch member
  obtain ⟨earlier, before⟩ := start.run_executed_grows host first
  obtain ⟨later, after⟩ := (step host (run (step host) start first) event).run_executed_grows host rest
  refine ok batch ?_
  unfold Panel.executedSince
  rw [run_append, run_cons, after, Panel.step_executed, before, List.append_assoc, List.append_assoc, List.drop_left]
  exact List.mem_append_right _ (List.mem_append_left _ member)

theorem run_serving {live : LiveRequest α ν} {base : Panel κ ν} {unedited : Prop} {start : Panel κ ν}
    (serving : Serving live base unedited start) {events : List (Event κ ν)}
    (alone : EveryStep (step host) (Alone live.submission.requestId live.shown live.final) start events)
    (same : unedited → EveryStep (step host) Unedited start events)
    (ok : EveryStep (step host) (fun panel event => ∀ batch ∈ panel.executedBy host event, batch.ok) start events) :
    Serving live base unedited (run (step host) start events) := by
  induction events generalizing start with
  | nil => exact serving
  | cons event rest ih =>
    have here := serving.step alone.1 (fun unedited => (same unedited).1) ok.1
    exact ih here alone.2 (fun unedited => (same unedited).2) ok.2

/-- A live request is sent while nothing else waits for the panel. -/
structure SentLive where
  before : Panel κ ν
  prompt : String
  outcome : SubmitOutcome
  transfer : Transfer
  reachable : Reachable (step host) (fun panel => ∃ configured content, panel = initialPanel configured content) before
  idle : before.queue = []
  sent : (step host before (.submit prompt outcome)).transfers = before.transfers ++ [transfer]
  live : transfer.refinementMode = .multiTurn

variable {host}

def SentLive.start (request : SentLive host) : Panel κ ν :=
  step host request.before (.submit request.prompt request.outcome)

theorem SentLive.wired (request : SentLive host) : Wired host request.before := by
  refine invariant_of_reachable (Wired host) request.reachable ?_ fun _ event wired => wired.step event
  rintro panel ⟨configured, content, rfl⟩
  exact Wired.initially configured content

theorem SentLive.serving (request : SentLive host) {live : LiveRequest α ν}
    (own : live.submission = request.transfer.submission) (unedited : Prop) :
    Serving live request.start unedited request.start :=
  serving_of_sent request.wired request.idle own request.sent unedited

theorem SentLive.refinementEnabled (request : SentLive host) : request.transfer.submission.refinementEnabled := by
  obtain ⟨submission, mode, -⟩ := sent_core request.sent
  rw [submission]
  exact decide_eq_true (mode.symm.trans request.live)

variable (host) in
/-- The request is the only active one until its result is dispatched, with the darkroom visible. No operation fails,
and the response is not turned down for the user's own edits. -/
structure LiveRun (shown : ClientProgress ν → Prop) (final : ChatResponse ν → Prop) extends SentLive host where
  events : List (Event κ ν)
  result : ClientResult ν
  rest : List (Delivery ν)
  next : SubmitOutcome
  alone : EveryStep (step host) (Alone transfer.submission.requestId shown final) toSentLive.start events
  queue : (run (step host) toSentLive.start events).queue = .result transfer.submission result :: rest
  visible : (run (step host) toSentLive.start events).develop.visible
  accepted : EveryStep (step host) Unedited toSentLive.start events ∨
    revisionMismatch host (run (step host) toSentLive.start events).develop transfer.submission result
      (run (step host) toSentLive.start events).chat.active.liveAppliedCount = false
  ok : ∀ batch ∈ toSentLive.start.executedSince (step host (run (step host) toSentLive.start events) (.dispatch next)),
    batch.ok

namespace LiveRun

variable {shown : ClientProgress ν → Prop} {final : ChatResponse ν → Prop}

/-- The panel that waits for the result to be dispatched. -/
def last (client : LiveRun host shown final) : Panel κ ν := run (step host) client.start client.events

/-- All that is executed from the submission of the request to the end of its result's callback. -/
def executed (client : LiveRun host shown final) : List (ChatOperation ν) :=
  (client.start.executedSince (step host client.last (.dispatch client.next))).flatMap (·.operations)

end LiveRun

/-- Every operation of the plan is executed exactly once, in the order of the plan. -/
theorem executed_exactly (live : LiveRequest α ν) (client : LiveRun host live.shown live.final)
    (own : live.submission = client.transfer.submission) : List.Forall₂ live.relates live.plan client.executed := by
  have made : MadeIn host live.submission client.start := by
    rw [own]
    exact madeIn_of_sent client.sent
  have enabled : live.submission.refinementEnabled := by
    rw [own]
    exact client.refinementEnabled
  have alone := client.alone
  have queue : client.last.queue = _ := client.queue
  have accepted := client.accepted
  rw [← own] at alone queue accepted
  -- the log goes on to the dispatch of the result
  have whole : run (step host) client.start (client.events ++ [.dispatch client.next]) =
      step host client.last (.dispatch client.next) := run_append ..
  have noneFailed : EveryStep (step host) (fun panel event => ∀ batch ∈ panel.executedBy host event, batch.ok)
      client.start (client.events ++ [.dispatch client.next]) := by
    refine everyStep_ok host ?_
    rw [whole]
    exact client.ok
  have served : Serving live client.start _ client.last :=
    run_serving host (client.serving own _) alone id (everyStep_append.mp noneFailed).1
  obtain ⟨-, response, final, isResult⟩ := served.queued (.result live.submission client.result) (by
    rw [queue]
    exact List.mem_cons_self)
  rw [isResult] at queue accepted
  have dequeued : Carries live client.start _ { client.last with queue := client.rest } :=
    { served.toCarries with queued := fun other member => served.queued other (by
        rw [queue]
        exact List.mem_cons_of_mem _ member) }
  have taken : revisionMismatch host client.last.develop live.submission { response := some response }
      client.last.chat.active.liveAppliedCount = false := by
    rcases accepted with unedited | accepted
    · exact Serving.revisionMismatch_eq_false served.toCarries made enabled client.visible unedited final
    · exact accepted
  have dispatched : step host client.last (.dispatch client.next) =
      { client.last with queue := client.rest }.requestFinished host live.submission { response := some response }
        client.next := by
    simp only [step, Panel.dispatch, queue]
  unfold LiveRun.executed
  rw [dispatched]
  exact Serving.requestFinished dequeued made client.visible final taken client.next

end Runs

end Serving

end DarktableAgent.Chat
