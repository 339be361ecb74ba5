import DarktableAgent.Chat.Writes

/-! Which stored session belongs to whom.

Each stored session has an image session id of its own, drawn when the session is made.
The session that is shown and the requests that were sent carry these ids, so a result
finds the session that its request was sent for.
-/

set_option autoImplicit false

namespace DarktableAgent.Chat

open Foundation Protocol Client

section Keys

/-- The image session id under which an image's session is stored. -/
def AgentChat.key (chat : AgentChat) (imageId : Int) : Option String :=
  (chat.imageSessions.get? imageId).map (·.imageSessionId)

/-- The session that is shown is stored for the current image. -/
def Keyed (chat : AgentChat) : Prop := ∀ ids, chat.shownIds = some ids → chat.key chat.currentImageId = some ids.1

/-- No session is made, and none changes its id. -/
structure SameKeys (before after : AgentChat) : Prop where
  currentImageId : after.currentImageId = before.currentImageId
  shownIds : after.shownIds = before.shownIds
  key : ∀ imageId, after.key imageId = before.key imageId

namespace SameKeys

variable {first second third : AgentChat}

theorem refl (chat : AgentChat) : SameKeys chat chat := ⟨rfl, rfl, fun _ => rfl⟩

theorem trans (before : SameKeys first second) (after : SameKeys second third) : SameKeys first third where
  currentImageId := after.currentImageId.trans before.currentImageId
  shownIds := after.shownIds.trans before.shownIds
  key imageId := (after.key imageId).trans (before.key imageId)

theorem keyed (same : SameKeys first second) (keyed : Keyed first) : Keyed second := by
  intro ids shown
  rw [same.currentImageId, same.key]
  exact keyed ids (same.shownIds ▸ shown)

end SameKeys

/-- What happens on the session that is shown, loading flags included. -/
structure Works (before after : AgentChat) : Prop where
  currentImageId : after.currentImageId = before.currentImageId
  shownIds : after.shownIds = before.shownIds
  preferences : after.preferences = before.preferences
  others : ∀ imageId, imageId ≠ before.currentImageId →
    after.imageSessions.get? imageId = before.imageSessions.get? imageId
  key : after.key before.currentImageId = before.key before.currentImageId ∨
    ∃ ids, before.shownIds = some ids ∧ after.key before.currentImageId = some ids.1
  faithful : before.Faithful → after.Faithful

namespace Works

variable {first second third : AgentChat}

theorem refl (chat : AgentChat) : Works chat chat := ⟨rfl, rfl, rfl, fun _ _ => rfl, .inl rfl, id⟩

theorem trans (before : Works first second) (after : Works second third) : Works first third where
  currentImageId := after.currentImageId.trans before.currentImageId
  shownIds := after.shownIds.trans before.shownIds
  preferences := after.preferences.trans before.preferences
  others imageId other :=
    (after.others imageId (before.currentImageId ▸ other)).trans (before.others imageId other)
  key := by
    have later := after.key
    rw [before.currentImageId, before.shownIds] at later
    rcases later with same | copied
    · rw [same]
      exact before.key
    · exact .inr copied
  faithful := after.faithful ∘ before.faithful

theorem of_labels (labels : Labels first second) : Works first second where
  currentImageId := labels.currentImageId
  shownIds := labels.shownIds
  preferences := labels.preferences
  others := labels.others
  key := by
    have keyOf : ∀ chat : AgentChat, chat.key first.currentImageId =
        (chat.storedTag first.currentImageId).map (·.imageSessionId) := by
      intro chat
      unfold AgentChat.key AgentChat.storedTag
      rw [Option.map_map]
      rfl
    rw [keyOf, keyOf]
    rcases labels.stored with same | ⟨-, shown, copied⟩
    · exact .inl (by rw [same])
    · obtain ⟨ids, isShown⟩ := Option.isSome_iff_exists.mp (Option.isSome_map ▸ shown)
      refine .inr ⟨ids, isShown, ?_⟩
      rw [copied, AgentChat.shownTag, isShown]
      rfl
  faithful := labels.faithful

theorem setLoading (chat : AgentChat) (isLoading : Bool) : Works chat (chat.setLoading isLoading) :=
  { refl chat with }

theorem updateSession (chat : AgentChat) {change : ChatSession → ChatSession}
    (kept : ∀ session, (change session).thread = session.thread) :
    Works chat (chat.updateSession chat.currentImageId change) where
  currentImageId := rfl
  shownIds := rfl
  preferences := rfl
  others imageId other := by rw [AgentChat.get?_updateSession, if_neg other]
  key := by
    left
    unfold AgentChat.key
    rw [AgentChat.get?_updateSession, if_pos rfl, Option.map_map]
    exact congrArg (fun f => Option.map f _) (funext fun session => congrArg (·.1.1) (kept session))
  faithful faithful := faithful.updateSession kept chat.currentImageId

theorem sameKeys (works : Works first second) (keyed : Keyed first) : SameKeys first second where
  currentImageId := works.currentImageId
  shownIds := works.shownIds
  key imageId := by
    by_cases current : imageId = first.currentImageId
    · subst current
      rcases works.key with same | ⟨ids, shown, copied⟩
      · exact same
      · exact copied.trans (keyed ids shown).symm
    · unfold AgentChat.key
      rw [works.others imageId current]

end Works

/-- A submission was made for the stored session of its image, and no other session has the id of this one. -/
structure Addressed (chat : AgentChat) (submission : ChatSubmission) : Prop where
  distinct : ∀ first second id, chat.key first = some id → chat.key second = some id → first = second
  filed : chat.key submission.imageId = some submission.imageSessionId

theorem SameKeys.addressed {before after : AgentChat} (same : SameKeys before after) {submission : ChatSubmission}
    (addressed : Addressed before submission) : Addressed after submission where
  distinct first second id := by
    rw [same.key, same.key]
    exact addressed.distinct first second id
  filed := (same.key _).trans addressed.filed

/-- It is found again. -/
theorem Addressed.found {chat : AgentChat} {submission : ChatSubmission} (addressed : Addressed chat submission) :
    chat.submissionImage submission = some submission.imageId := by
  unfold AgentChat.submissionImage
  split_ifs with image
  · rfl
  -- the image is looked up by the session id, and ids are distinct
  · obtain ⟨session, found, same⟩ := Option.map_eq_some_iff.mp addressed.filed
    have present : (chat.imageSessions.entries.find? fun entry =>
        entry.2.imageSessionId = submission.imageSessionId).isSome := by
      rw [List.find?_isSome]
      exact ⟨(submission.imageId, session), Dict.mem_of_get? found, by simpa using same⟩
    obtain ⟨entry, isEntry⟩ := Option.isSome_iff_exists.mp present
    have named := List.find?_some isEntry
    have stored : chat.imageSessions.get? entry.1 = some entry.2 :=
      Dict.get?_of_mem (List.mem_of_find?_eq_some isEntry)
    rw [isEntry]
    refine congrArg some (addressed.distinct entry.1 submission.imageId submission.imageSessionId ?_ addressed.filed)
    unfold AgentChat.key
    rw [stored]
    exact congrArg some (of_decide_eq_true named)

/-- A submission of the conversation that is shown was made for the current image. -/
theorem Addressed.current {chat : AgentChat} {submission : ChatSubmission} (addressed : Addressed chat submission)
    (keyed : Keyed chat) (matched : chat.matchesCurrentSession submission = true) :
    submission.imageId = chat.currentImageId :=
  addressed.distinct _ _ _ addressed.filed (keyed _ ((AgentChat.matchesCurrentSession_iff submission).mp matched))

end Keys

section Handlers

variable {κ ν W : Type} (host : Host κ ν W) (panel : Panel κ ν)

namespace Panel

theorem works_cancelHandle : Works panel.chat panel.cancelHandle.chat := by
  unfold cancelHandle
  cases panel.chat.active.handle <;> exact { Works.refl panel.chat with }

theorem works_onCurrentSession {change : ChatSession → ChatSession}
    (kept : ∀ session, (change session).thread = session.thread) :
    Works panel.chat (panel.onCurrentSession change).chat :=
  Works.updateSession panel.chat kept

theorem works_cancelActiveRequest (statusText stopReason : String) :
    Works panel.chat (panel.cancelActiveRequest statusText stopReason).chat := by
  obtain ⟨stopped, isStopped⟩ : ∃ stopped, (panel.onCurrentSession fun session => { session with
    isLoading := false, refinementStopReason := some stopReason, statusText := statusText }).cancelHandle = stopped :=
    ⟨_, rfl⟩
  have works : Works panel.chat stopped.chat := by
    rw [← isStopped]
    refine Works.trans ?_ (works_cancelHandle _)
    exact works_onCurrentSession panel fun _ => rfl
  unfold cancelActiveRequest
  dsimp only
  rw [isStopped]
  dsimp only [onChat]
  split
  · refine works.trans ?_
    exact ((Works.of_labels (Labels.setError ..)).trans (Works.setLoading ..)).trans
      (Works.of_labels (Labels.setStatus ..))
  · exact works

theorem works_announceRequest (arguments : SubmitArguments) :
    Works panel.chat (panel.announceRequest arguments).chat := by
  obtain ⟨told, isTold⟩ : ∃ told, (if arguments.appendUserMessage then
    panel.chat.appendMessage "you" arguments.message else panel.chat) = told := ⟨_, rfl⟩
  have first : Works panel.chat told := by
    rw [← isTold]
    split
    · exact Works.of_labels (Labels.appendMessage ..)
    · exact Works.refl _
  have second : Works told (((told.setError "").setLoading true).updateRefinementStatus arguments.refinementPassIndex
      arguments.refinementMaxPasses) :=
    ((Works.of_labels (Labels.setError ..)).trans (Works.setLoading ..)).trans
      (Works.of_labels (Labels.updateRefinementStatus ..))
  -- the request is recorded in the stored session only, and not in its conversation
  have recorded : ∀ session, (arguments.recordIn session).thread = session.thread := fun _ => rfl
  have third := Works.updateSession (((told.setError "").setLoading true).updateRefinementStatus
    arguments.refinementPassIndex arguments.refinementMaxPasses) recorded
  rw [← isTold] at first second third
  exact (first.trans second).trans third

theorem works_abandonRequest (message : String) : Works panel.chat (panel.abandonRequest message).chat :=
  (Works.setLoading panel.chat false).trans
    (Works.of_labels (labels_handleTransportError ({ panel with uuidsDrawn := panel.uuidsDrawn + 1 }.onChat
      (·.setLoading false)) (some message)))

end Panel

end Handlers

section Results

/-- A stored session is changed, and besides it at most the active request. -/
structure FiledAt (before after : AgentChat) (imageId : Int) (change : ChatSession → ChatSession) : Prop where
  shown : { after with imageSessions := before.imageSessions, active := before.active } = before
  stored : ∀ other, after.imageSessions.get? other =
    if other = imageId then (before.imageSessions.get? imageId).map change else before.imageSessions.get? other

namespace FiledAt

variable {first second third : AgentChat} {imageId : Int} {change next : ChatSession → ChatSession}

theorem currentImageId (filed : FiledAt first second imageId change) : second.currentImageId = first.currentImageId :=
  congrArg (·.currentImageId) filed.shown

theorem shownIds (filed : FiledAt first second imageId change) : second.shownIds = first.shownIds :=
  congrArg (·.shownIds) filed.shown

theorem shownThread (filed : FiledAt first second imageId change) : second.shownThread = first.shownThread :=
  congrArg (·.shownThread) filed.shown

theorem preferences (filed : FiledAt first second imageId change) : second.preferences = first.preferences :=
  congrArg (·.preferences) filed.shown

theorem matchesCurrentSession (filed : FiledAt first second imageId change) (submission : ChatSubmission) :
    second.matchesCurrentSession submission = first.matchesCurrentSession submission :=
  congrArg (·.matchesCurrentSession submission) filed.shown

theorem trans (before : FiledAt first second imageId change) (after : FiledAt second third imageId next) :
    FiledAt first third imageId (next ∘ change) where
  shown := by
    have both := congrArg (fun chat : AgentChat =>
      { chat with imageSessions := first.imageSessions, active := first.active }) after.shown
    exact both.trans before.shown
  stored other := by
    rw [after.stored, before.stored, before.stored, if_pos rfl, Option.map_map]
    split_ifs <;> rfl

theorem key (filed : FiledAt first second imageId change)
    (kept : ∀ session, (change session).imageSessionId = session.imageSessionId) (other : Int) :
    second.key other = first.key other := by
  unfold AgentChat.key
  rw [filed.stored]
  split_ifs with same
  · subst same
    rw [Option.map_map]
    exact congrArg (fun f => Option.map f _) (funext kept)
  · rfl

theorem sameKeys (filed : FiledAt first second imageId change)
    (kept : ∀ session, (change session).imageSessionId = session.imageSessionId) : SameKeys first second :=
  ⟨filed.currentImageId, filed.shownIds, filed.key kept⟩

/-- A conversation that is kept is kept on the current image, too. -/
theorem faithful (filed : FiledAt first second imageId change)
    (kept : imageId = first.currentImageId → ∀ session, (change session).thread = session.thread)
    (faithful : first.Faithful) : second.Faithful := by
  intro thread shown session found
  rw [filed.shownThread] at shown
  rw [filed.currentImageId, filed.stored] at found
  split_ifs at found with same
  · obtain ⟨original, stored, rfl⟩ := Option.map_eq_some_iff.mp found
    rw [kept same.symm]
    exact faithful thread shown original (same ▸ stored)
  · exact faithful thread shown session found

theorem works (filed : FiledAt first second first.currentImageId change)
    (kept : ∀ session, (change session).thread = session.thread) : Works first second where
  currentImageId := filed.currentImageId
  shownIds := filed.shownIds
  preferences := filed.preferences
  others imageId other := by rw [filed.stored, if_neg other]
  key := .inl (filed.key (fun session => congrArg (·.1.1) (kept session)) _)
  faithful := filed.faithful fun _ => kept

end FiledAt

theorem filedAt_onSubmissionSession {chat : AgentChat} {submission : ChatSubmission} {imageId : Int}
    (found : chat.submissionImage submission = some imageId) (change : ChatSession → ChatSession) :
    FiledAt chat (chat.onSubmissionSession submission change) imageId change where
  shown := rfl
  stored other := by
    unfold AgentChat.onSubmissionSession
    rw [found]
    exact get?_changeEntry ..

/-- The settings with which a session is shown again. -/
def ChatSession.settings (session : ChatSession) : Preferences where
  multiTurnEnabled := session.lastRefinementEnabled
  maxRefinementPasses := max 1 session.lastRefinementMaxPasses
  fastModeEnabled := session.lastFastModeEnabled

/-- The change keeps the conversation, the settings and the loading flag of a session. -/
def Keeps (change : ChatSession → ChatSession) : Prop :=
  ∀ session, (change session).thread = session.thread ∧ (change session).settings = session.settings ∧
    (change session).isLoading = session.isLoading

/-- A result is noted in a stored session, and then on the panel if it shows the session of the submission. -/
def Notes (submission : ChatSubmission) (imageId : Int) (change : ChatSession → ChatSession)
    (before after : AgentChat) : Prop :=
  ∃ middle, FiledAt before middle imageId change ∧ Works middle after ∧
    (before.matchesCurrentSession submission = false → after = middle)

theorem notes_onSubmissionSession {chat : AgentChat} {submission : ChatSubmission} {imageId : Int}
    (found : chat.submissionImage submission = some imageId) (change : ChatSession → ChatSession)
    {shown : Prop} [Decidable shown] (matching : shown → chat.matchesCurrentSession submission = true)
    (labels : AgentChat → AgentChat) (works : ∀ chat, Works chat (labels chat)) :
    Notes submission imageId change chat (if shown then labels (chat.onSubmissionSession submission change)
      else chat.onSubmissionSession submission change) := by
  refine ⟨_, filedAt_onSubmissionSession found change, ?_, fun unmatched => ?_⟩
  · split
    · exact works _
    · exact .refl _
  · rw [if_neg fun isShown => Bool.false_ne_true (unmatched.symm.trans (matching isShown))]

variable {κ ν W : Type} (panel : Panel κ ν) {submission : ChatSubmission} (result : ClientResult ν) {imageId : Int}

namespace Panel

theorem filedAt_settle (found : panel.chat.submissionImage submission = some imageId) :
    FiledAt panel.chat (panel.settle submission result).chat imageId (recordResult submission result) := by
  unfold settle
  dsimp only [onChat]
  split
  · have foundThen : panel.chat.clearActiveRequest.submissionImage submission = some imageId := found
    exact ⟨rfl, (filedAt_onSubmissionSession foundThen (recordResult submission result)).stored⟩
  · exact filedAt_onSubmissionSession found _

variable {panel}

theorem notes_finishCancelled (found : panel.chat.submissionImage submission = some imageId) (isActive : Bool) :
    ∃ change, Keeps change ∧
      Notes submission imageId change panel.chat (panel.finishCancelled submission isActive).chat := by
  unfold finishCancelled
  dsimp only [onChat]
  split
  · refine ⟨id, fun _ => ⟨rfl, rfl, rfl⟩, panel.chat, ⟨rfl, fun other => ?_⟩, .refl _, fun _ => rfl⟩
    rw [Option.map_id, id]
    split_ifs with same
    · rw [same]
    · rfl
  · refine ⟨_, ?_, notes_onSubmissionSession found _ ?_
      (fun chat => ((chat.setError "").setLoading false).setStatus "Request canceled") fun chat => ?_⟩
    · exact fun _ => ⟨rfl, rfl, rfl⟩
    · exact fun matching => matching
    · exact ((Works.of_labels (Labels.setError ..)).trans (Works.setLoading ..)).trans
        (Works.of_labels (Labels.setStatus ..))

theorem notes_finishStale (found : panel.chat.submissionImage submission = some imageId) :
    ∃ change, Keeps change ∧ Notes submission imageId change panel.chat (panel.finishStale submission).chat := by
  unfold finishStale
  dsimp only [onChat]
  refine ⟨_, ?_, notes_onSubmissionSession found _ ?_
    (fun chat => (chat.setLoading false).setStatus "Ignored stale response") fun chat => ?_⟩
  · exact fun _ => ⟨rfl, rfl, rfl⟩
  · exact fun matching => matching
  · exact (Works.setLoading ..).trans (Works.of_labels (Labels.setStatus ..))

theorem notes_finishMismatch (found : panel.chat.submissionImage submission = some imageId) :
    ∃ change, Keeps change ∧ Notes submission imageId change panel.chat (panel.finishMismatch submission).chat := by
  unfold finishMismatch
  dsimp only [onChat]
  refine ⟨_, ?_, notes_onSubmissionSession found _ ?_
    (fun chat => ((chat.setError mismatchMessage).setStatus "Image changed").appendMessage "system" mismatchMessage)
    fun chat => ?_⟩
  · exact fun _ => ⟨rfl, rfl, rfl⟩
  · exact fun shown => shown.2
  · exact ((Works.of_labels (Labels.setError ..)).trans (Works.of_labels (Labels.setStatus ..))).trans
      (Works.of_labels (Labels.appendMessage ..))

theorem filedAt_finishHidden (found : panel.chat.submissionImage submission = some imageId) :
    FiledAt panel.chat (panel.finishHidden submission result).chat imageId (hiddenOutcome result) :=
  filedAt_onSubmissionSession found _

theorem quieted_of_unmatched (unmatched : panel.chat.matchesCurrentSession submission = false) :
    panel.quieted submission = panel := by
  unfold quieted onChat
  dsimp only
  rw [unmatched]
  rfl

theorem works_quieted (panel : Panel κ ν) (submission : ChatSubmission) :
    Works panel.chat (panel.quieted submission).chat := by
  unfold quieted
  dsimp only [onChat]
  split
  · exact .setLoading _ false
  · exact .refl _

end Panel

theorem thread_recordResult (submission : ChatSubmission) (result : ClientResult ν) (session : ChatSession) :
    (recordResult submission result session).thread = session.thread := by
  unfold recordResult
  split <;> rfl

/-- What the assistant says with a result: its message, or what went wrong. -/
def ClientResult.messages (result : ClientResult ν) : List String :=
  match result.transportError, result.response with
  | some message, _ => [message]
  | none, none => ["failed to contact the agent server"]
  | none, some response => if response.messageText = "" then [] else [response.messageText]

/-- A transcript with what the assistant said since. -/
def transcriptSince (transcript : String) (messages : List String) : String :=
  messages.foldl (fun transcript message => transcriptWith transcript "assistant" message) transcript

theorem transcriptSince_append (transcript : String) (first second : List String) :
    transcriptSince transcript (first ++ second) = transcriptSince (transcriptSince transcript first) second :=
  List.foldl_append

/-- A deferred result adds its message to the conversation. -/
theorem thread_hiddenOutcome [Numeric ν] (result : ClientResult ν) (session : ChatSession) :
    (Panel.hiddenOutcome result session).thread =
      (session.thread.1, transcriptSince session.transcript result.messages) := by
  unfold Panel.hiddenOutcome Panel.hiddenOutcome.failed ClientResult.messages
  cases result.transportError with
  | some message => rfl
  | none =>
    cases result.response with
    | none => rfl
    | some response =>
      dsimp only
      split_ifs <;> rfl

theorem settings_hiddenOutcome [Numeric ν] (result : ClientResult ν) (session : ChatSession) :
    (Panel.hiddenOutcome result session).settings = session.settings ∧
      (Panel.hiddenOutcome result session).isLoading = session.isLoading := by
  unfold Panel.hiddenOutcome Panel.hiddenOutcome.failed
  split
  · exact ⟨rfl, rfl⟩
  · exact ⟨rfl, rfl⟩
  · dsimp only
    split_ifs <;> exact ⟨rfl, rfl⟩

/-- Neither the darkroom nor the requests and their callbacks change. -/
structure Rests (before after : Panel κ ν) : Prop where
  transfers : after.transfers = before.transfers
  queue : after.queue = before.queue
  uuidsDrawn : after.uuidsDrawn = before.uuidsDrawn
  visible : after.develop.visible = before.develop.visible
  imageId : after.develop.imageId = before.develop.imageId

namespace Rests

variable {first second third : Panel κ ν}

theorem onChat (panel : Panel κ ν) (change : AgentChat → AgentChat) : Rests panel (panel.onChat change) :=
  ⟨rfl, rfl, rfl, rfl, rfl⟩

theorem trans (before : Rests first second) (after : Rests second third) : Rests first third where
  transfers := after.transfers.trans before.transfers
  queue := after.queue.trans before.queue
  uuidsDrawn := after.uuidsDrawn.trans before.uuidsDrawn
  visible := after.visible.trans before.visible
  imageId := after.imageId.trans before.imageId

theorem of_writes (writes : Writes first second) : Rests first second :=
  ⟨writes.transfers, writes.queue, writes.uuidsDrawn, writes.visible, writes.imageId⟩

end Rests

theorem Panel.submissions_cancelActiveRequest (statusText stopReason : String) :
    (panel.cancelActiveRequest statusText stopReason).transfers.map (·.submission) =
      panel.transfers.map (·.submission) := by
  have cancelled : (panel.cancelActiveRequest statusText stopReason).transfers = panel.cancelHandle.transfers :=
    congrArg (·.transfers) (panel.core_cancelActiveRequest statusText stopReason)
  have same : ∀ requestId transfer, (requestCancel requestId transfer).submission = transfer.submission := by
    intro requestId transfer
    unfold requestCancel
    split <;> rfl
  rw [cancelled]
  unfold cancelHandle
  cases panel.chat.active.handle with
  | none => rfl
  | some requestId =>
    dsimp only
    rw [List.map_map]
    exact List.map_congr_left fun transfer _ => same requestId transfer

variable [Numeric ν] (host : Host κ ν W) {panel}

/-- The result is kept for the session until the darkroom is visible again. -/
def Panel.defers (panel : Panel κ ν) (submission : ChatSubmission) (result : ClientResult ν) : Bool :=
  !result.cancelled && !panel.develop.visible &&
    !revisionMismatch host panel.develop submission result (panel.chat.liveAppliedFor submission)

namespace Panel

/-- A result of another conversation than the one that is shown changes the stored session of its image. -/
theorem requestFinished_unmatched (addressed : Addressed panel.chat submission)
    (unmatched : panel.chat.matchesCurrentSession submission = false) (outcome : SubmitOutcome) :
    Rests panel (panel.requestFinished host submission result outcome) ∧
    ((panel.defers host submission result = false ∧ ∃ change, Keeps change ∧ FiledAt panel.chat
        (panel.requestFinished host submission result outcome).chat submission.imageId
        (change ∘ recordResult submission result)) ∨
      panel.defers host submission result ∧ FiledAt panel.chat
        (panel.requestFinished host submission result outcome).chat submission.imageId
        (hiddenOutcome result ∘ recordResult submission result)) := by
  obtain ⟨settled, isSettled⟩ : ∃ settled, panel.settle submission result = settled := ⟨_, rfl⟩
  have rests : Rests panel settled := isSettled ▸ Rests.onChat ..
  have filed : FiledAt panel.chat settled.chat submission.imageId (recordResult submission result) :=
    isSettled ▸ panel.filedAt_settle result addressed.found
  have found : settled.chat.submissionImage submission = some submission.imageId := by
    refine (SameKeys.addressed (filed.sameKeys fun session => ?_) addressed).found
    exact congrArg (·.1.1) (thread_recordResult submission result session)
  have unmatchedThen : settled.chat.matchesCurrentSession submission = false :=
    (filed.matchesCurrentSession submission).trans unmatched
  have noted : ∀ {after : AgentChat}, (∃ change, Keeps change ∧ Notes submission submission.imageId change settled.chat
      after) → ∃ change, Keeps change ∧ FiledAt panel.chat after submission.imageId
        (change ∘ recordResult submission result) := by
    rintro after ⟨change, kept, middle, filedThen, -, same⟩
    rw [same unmatchedThen]
    exact ⟨change, kept, filed.trans filedThen⟩
  rcases panel.requestFinished_paths host submission result outcome with
    ⟨cancelled, same⟩ | ⟨visible, same⟩ | ⟨completed, fresh, same⟩
  all_goals rw [same, isSettled]
  · refine ⟨rests.trans (.onChat ..), .inl ⟨?_, noted (notes_finishCancelled found _)⟩⟩
    simp [defers, cancelled]
  · refine ⟨rests.trans (.onChat ..), .inl ⟨?_, noted (notes_finishStale found)⟩⟩
    simp [defers, visible]
  · have quiet : settled.quieted submission = settled := quieted_of_unmatched unmatchedThen
    have sameDevelop : settled.develop = panel.develop := by rw [← isSettled]; rfl
    rcases settled.finishCurrent_paths host submission result (panel.chat.liveAppliedFor submission) outcome with
      ⟨otherRevision, mismatch⟩ | ⟨hidden, sameRevision, deferred⟩ | ⟨visible, -⟩
    · rw [sameDevelop] at otherRevision
      rw [mismatch, quiet]
      refine ⟨rests.trans (.onChat ..), .inl ⟨?_, noted (notes_finishMismatch found)⟩⟩
      simp [defers, otherRevision]
    · rw [sameDevelop] at hidden sameRevision
      rw [deferred, quiet]
      refine ⟨rests.trans (.onChat ..), .inr ⟨?_, filed.trans (filedAt_finishHidden result found)⟩⟩
      simp [defers, completed, hidden, sameRevision]
    · -- the result would be stale
      rw [rests.visible] at visible
      have stale := fresh visible
      rw [isSettled] at stale
      unfold isStaleResponse at stale
      unfold AgentChat.matchesCurrentSession at unmatchedThen
      simp_all

/-- A result of the conversation that is shown is worked on there, and may be followed by the next request. -/
theorem requestFinished_matched (addressed : Addressed panel.chat submission) (keyed : Keyed panel.chat)
    (matched : panel.chat.matchesCurrentSession submission = true) (outcome : SubmitOutcome) :
    ∃ told sent, Rests panel told ∧ (panel.develop.visible = false → sent = told) ∧ Resubmits host told sent ∧
      Writes sent (panel.requestFinished host submission result outcome) ∧
      (Works panel.chat told.chat ∨ panel.defers host submission result ∧ ∃ middle, Works panel.chat middle ∧
        FiledAt middle told.chat submission.imageId (hiddenOutcome result)) := by
  have current : submission.imageId = panel.chat.currentImageId := addressed.current keyed matched
  obtain ⟨settled, isSettled⟩ : ∃ settled, panel.settle submission result = settled := ⟨_, rfl⟩
  have rests : Rests panel settled := isSettled ▸ Rests.onChat ..
  have filed : FiledAt panel.chat settled.chat panel.chat.currentImageId (recordResult submission result) := by
    rw [← isSettled, ← current]
    exact panel.filedAt_settle result addressed.found
  have works : Works panel.chat settled.chat := filed.works (thread_recordResult submission result)
  have found : ∀ {chat : AgentChat}, Works panel.chat chat →
      chat.submissionImage submission = some submission.imageId :=
    fun works => ((works.sameKeys keyed).addressed addressed).found
  have noted : ∀ {before after : AgentChat}, Works panel.chat before →
      (∃ change, Keeps change ∧ Notes submission submission.imageId change before after) → Works panel.chat after := by
    rintro before after works ⟨change, kept, middle, filedThen, worksThen, -⟩
    rw [current, ← works.currentImageId] at filedThen
    exact (works.trans (filedThen.works fun session => (kept session).1)).trans worksThen
  -- the cases of `requestFinished_unmatched`, worked on instead of filed
  rcases panel.requestFinished_paths host submission result outcome with
    ⟨-, same⟩ | ⟨-, same⟩ | ⟨completed, fresh, same⟩
  all_goals rw [same, isSettled]
  · exact ⟨_, _, rests.trans (.onChat ..), fun _ => rfl, .inl rfl, .refl _,
      .inl (noted works (notes_finishCancelled (found works) _))⟩
  · exact ⟨_, _, rests.trans (.onChat ..), fun _ => rfl, .inl rfl, .refl _,
      .inl (noted works (notes_finishStale (found works)))⟩
  · have quiet := works.trans (works_quieted settled submission)
    have restsThen : Rests panel (settled.quieted submission) := rests.trans (.onChat ..)
    rcases settled.finishCurrent_paths host submission result (panel.chat.liveAppliedFor submission) outcome with
      ⟨-, mismatch⟩ | ⟨hidden, sameRevision, deferred⟩ | ⟨visible, told, sent, writes, resubmits, last⟩
    · rw [mismatch]
      exact ⟨_, _, restsThen.trans (.onChat ..), fun _ => rfl, .inl rfl, .refl _,
        .inl (noted quiet (notes_finishMismatch (found quiet)))⟩
    · rw [deferred]
      have sameDevelop : settled.develop = panel.develop := by rw [← isSettled]; rfl
      rw [sameDevelop] at hidden sameRevision
      refine ⟨_, _, restsThen.trans (.onChat ..), fun _ => rfl, .inl rfl, .refl _, .inr ⟨?_, _, quiet, ?_⟩⟩
      · simp [defers, completed, hidden, sameRevision]
      · exact filedAt_finishHidden result (found quiet)
    · rw [rests.visible] at visible
      refine ⟨told, sent, restsThen.trans (.of_writes writes), fun hidden => ?_, resubmits, last,
        .inl (quiet.trans (.of_labels writes.labels))⟩
      rw [visible] at hidden
      cases hidden

end Panel

end Results

end DarktableAgent.Chat
