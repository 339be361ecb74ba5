import DarktableAgent.Chat.Belonging
import DarktableAgent.Chat.Running

/-! When a session is loading.

The loading flag is kept in the panel and in the stored session, and neither knows the
requests. While each result comes to a session that waits for no other one, and only the
session's own request is cancelled, the flags say whether a request of the session runs.
-/

set_option autoImplicit false

namespace DarktableAgent.Chat

open Foundation Protocol Client

section Flags

/-- The flags of all sessions say which of them wait for a response. -/
structure Flagged (tags : Tags) (running : List ChatSubmission) : Prop where
  coherent : tags.Coherent
  unopened : tags.shown = none → tags.isLoading = false ∧ ∀ imageId, tags.stored imageId = none
  sent : ∀ submission ∈ running, ∃ tag, tags.stored submission.imageId = some tag ∧
    tag.imageSessionId = submission.imageSessionId ∧ tag.conversationId = submission.conversationId
  flags : ∀ imageId tag, tags.stored imageId = some tag →
    (tag.isLoading ↔ ∃ submission ∈ running, submission.imageId = imageId)

namespace Flagged

variable {tags : Tags} {running : List ChatSubmission}

/-- The flag of the panel is the flag of the session that is shown. -/
theorem isLoading_iff (flagged : Flagged tags running) :
    tags.isLoading ↔ ∃ submission ∈ running, submission.imageId = tags.current := by
  cases shown : tags.shown with
  | some ids => exact flagged.flags tags.current _ (flagged.coherent ids shown)
  | none =>
    obtain ⟨quiet, nothing⟩ := flagged.unopened shown
    rw [quiet]
    refine iff_of_false Bool.false_ne_true fun ⟨submission, member, _⟩ => ?_
    obtain ⟨tag, stored, -⟩ := flagged.sent submission member
    rw [nothing] at stored
    cases stored

/-- A running request of the current image is one of the session that is shown. -/
theorem shown (flagged : Flagged tags running) {submission : ChatSubmission} (member : submission ∈ running)
    (here : submission.imageId = tags.current) :
    tags.shown = some (submission.imageSessionId, submission.conversationId) := by
  obtain ⟨tag, stored, sameSession, sameConversation⟩ := flagged.sent submission member
  cases shown : tags.shown with
  | none =>
    rw [(flagged.unopened shown).2] at stored
    cases stored
  | some ids =>
    rw [here, flagged.coherent ids shown] at stored
    obtain rfl := Option.some.inj stored
    rw [← sameSession, ← sameConversation]

/-- Both flags of an image are lowered when all requests of its session end, and no others do. -/
theorem quiet (flagged : Flagged tags running) {imageId : Int} {ends : ChatSubmission → Prop} [DecidablePred ends]
    (own : ∀ submission ∈ running, submission.imageId = imageId ↔ ends submission) :
    Flagged (tags.quietAt imageId) (running.filter fun submission => decide (¬ ends submission)) := by
  have kept : ∀ submission, submission ∈ running.filter (fun submission => decide (¬ ends submission)) ↔
      submission ∈ running ∧ submission.imageId ≠ imageId := by
    intro submission
    rw [List.mem_filter, decide_eq_true_iff]
    exact and_congr_right fun member => not_congr (own submission member).symm
  have stored := fun other => tags.stored_quietAt imageId other
  constructor
  case coherent =>
    intro ids shown
    have agrees := flagged.coherent ids shown
    change (tags.quietAt imageId).stored tags.current = some ⟨ids.1, ids.2, (tags.quietAt imageId).isLoading⟩
    rw [stored]
    by_cases here : tags.current = imageId
    · rw [if_pos here, ← here, agrees]
      simp [Tags.quietAt, Tags.setLoading, SessionTag.flag]
    · rw [if_neg here, agrees]
      simp [Tags.quietAt, Tags.setLoading, Ne.symm here]
  case unopened =>
    intro isNone
    obtain ⟨quiet, nothing⟩ := flagged.unopened isNone
    refine ⟨?_, fun other => ?_⟩
    · simp [Tags.quietAt, Tags.setLoading, quiet]
    · rw [stored, nothing, nothing]
      split_ifs <;> rfl
  case sent =>
    intro submission member
    obtain ⟨old, other⟩ := (kept submission).mp member
    rw [stored, if_neg other]
    exact flagged.sent submission old
  case flags =>
    intro other tag isTag
    rw [stored] at isTag
    split_ifs at isTag with here
    · obtain ⟨old, -, rfl⟩ := Option.map_eq_some_iff.mp isTag
      apply iff_of_false Bool.false_ne_true
      rintro ⟨submission, member, same⟩
      exact ((kept submission).mp member).2 (same.trans here)
    · rw [flagged.flags other tag isTag]
      refine exists_congr fun submission => and_congr_left fun same => ?_
      exact ((kept submission).trans (and_iff_left fun image => here (same.symm.trans image))).symm

/-- A session is opened whose flag and ids are known. -/
theorem opened (flagged : Flagged tags running) {target : Int} {tag : SessionTag}
    (isLoading : tag.isLoading ↔ ∃ submission ∈ running, submission.imageId = target)
    (sent : ∀ submission ∈ running, submission.imageId = target →
      tag.imageSessionId = submission.imageSessionId ∧ tag.conversationId = submission.conversationId) :
    Flagged (tags.opened target tag) running where
  coherent := tags.coherent_opened target tag
  unopened isNone := by cases isNone
  sent submission member := by
    unfold Tags.opened
    dsimp only
    by_cases here : submission.imageId = target
    · rw [here, Function.update_self]
      exact ⟨tag, rfl, sent submission member here⟩
    · rw [Function.update_of_ne here]
      exact flagged.sent submission member
  flags imageId other stored := by
    unfold Tags.opened at stored
    dsimp only at stored
    by_cases here : imageId = target
    · rw [here, Function.update_self] at stored
      obtain rfl := Option.some.inj stored
      rw [here]
      exact isLoading
    · rw [Function.update_of_ne here] at stored
      exact flagged.flags imageId other stored

/-- A request is sent for the session that is shown, and both flags are raised. -/
theorem started (flagged : Flagged tags running) {submission : ChatSubmission}
    (shown : tags.shown = some (submission.imageSessionId, submission.conversationId))
    (here : submission.imageId = tags.current) : Flagged (tags.flagged true) (running ++ [submission]) where
  coherent := Tags.coherent_flagged flagged.coherent true
  unopened isNone := by
    change tags.shown = none at isNone
    rw [shown] at isNone
    cases isNone
  sent other member := by
    have sentBefore : ∃ tag, tags.stored other.imageId = some tag ∧ tag.imageSessionId = other.imageSessionId ∧
        tag.conversationId = other.conversationId := by
      rcases List.mem_append.mp member with old | new
      · exact flagged.sent other old
      · obtain rfl := List.mem_singleton.mp new
        exact ⟨_, here ▸ flagged.coherent _ shown, rfl, rfl⟩
    obtain ⟨tag, stored, same⟩ := sentBefore
    rw [Tags.stored_flagged]
    split_ifs with current
    · rw [← current, stored]
      exact ⟨_, rfl, same⟩
    · exact ⟨tag, stored, same⟩
  flags imageId tag stored := by
    rw [Tags.stored_flagged] at stored
    split_ifs at stored with current
    · obtain ⟨old, -, rfl⟩ := Option.map_eq_some_iff.mp stored
      exact iff_of_true rfl ⟨submission, List.mem_append_right _ List.mem_cons_self, here.trans current.symm⟩
    · rw [flagged.flags imageId tag stored]
      constructor
      · rintro ⟨other, member, same⟩
        exact ⟨other, List.mem_append_left _ member, same⟩
      · rintro ⟨other, member, same⟩
        rcases List.mem_append.mp member with old | new
        · exact ⟨other, old, same⟩
        · obtain rfl := List.mem_singleton.mp new
          exact absurd (same.symm.trans here) current

end Flagged

end Flags

section Panels

variable {κ ν W : Type} {host : Host κ ν W} {panel other : Panel κ ν}

/-- The loading flags of the session that is shown say whether one of its requests is running. -/
def LoadingAgrees (panel : Panel κ ν) : Prop :=
  (panel.chat.isLoading ↔ panel.RunsFor panel.chat.currentImageId) ∧
    ∀ session ∈ panel.chat.imageSessions.get? panel.chat.currentImageId,
      (session.isLoading ↔ panel.RunsFor panel.chat.currentImageId)

/-- The request that is held is the one that runs for the session that is shown. -/
def HoldsOwn (panel : Panel κ ν) : Prop :=
  ∀ submission ∈ panel.running,
    submission.imageId = panel.chat.currentImageId ↔ panel.chat.active.handle = some submission.requestId

theorem Flagged.loadingAgrees (flagged : Flagged panel.chat.tags panel.running) : LoadingAgrees panel := by
  refine ⟨flagged.isLoading_iff, fun session stored => ?_⟩
  have isTag : panel.chat.tags.stored panel.chat.currentImageId = some session.tag :=
    congrArg (Option.map ChatSession.tag) stored
  exact flagged.flags panel.chat.currentImageId session.tag isTag

theorem Flagged.writes (flagged : Flagged panel.chat.tags panel.running) (writes : Writes panel other) :
    Flagged other.chat.tags other.running := by
  rw [writes.labels.tags flagged.coherent, Panel.running_congr writes.transfers writes.queue]
  exact flagged

theorem flagged_cancelActiveRequest (flagged : Flagged panel.chat.tags panel.running) (own : HoldsOwn panel)
    (statusText stopReason : String) : Flagged (panel.cancelActiveRequest statusText stopReason).chat.tags
      (panel.cancelActiveRequest statusText stopReason).running := by
  have core := panel.core_cancelActiveRequest statusText stopReason
  have running : (panel.cancelActiveRequest statusText stopReason).running = panel.cancelHandle.running :=
    Panel.running_congr (congrArg (·.transfers) core) (congrArg (·.queue) core)
  rw [Panel.tags_cancelActiveRequest flagged.coherent, ← Tags.quietAt_current, running, Panel.running_cancelHandle]
  exact flagged.quiet own

theorem flagged_switchToImageSession (flagged : Flagged panel.chat.tags panel.running) (target : Int) :
    Flagged (panel.switchToImageSession host target false).chat.tags
      (panel.switchToImageSession host target false).running := by
  have synced : panel.chat.syncCurrentSession.tags = panel.chat.tags :=
    (AgentChat.tags_syncCurrentSession _).trans (Tags.sync_eq_self flagged.coherent)
  have switched := AgentChat.tags_switchToImageSession panel.chat flagged.coherent host.uuid panel.uuidsDrawn target false
  rw [AgentChat.tag_targetSession, synced] at switched
  unfold Panel.switchToImageSession
  dsimp only
  rw [switched]
  cases stored : panel.chat.tags.stored target with
  | some tag =>
    refine flagged.opened (flagged.flags target tag stored) fun submission member here => ?_
    obtain ⟨sentTag, isSent, same⟩ := flagged.sent submission member
    rw [here, stored] at isSent
    obtain rfl := Option.some.inj isSent
    exact same
  | none =>
    have unsent : ∀ submission ∈ panel.running, submission.imageId ≠ target := by
      intro submission member here
      obtain ⟨sentTag, isSent, -⟩ := flagged.sent submission member
      rw [here, stored] at isSent
      cases isSent
    refine flagged.opened ?_ fun submission member here => absurd here (unsent submission member)
    exact iff_of_false Bool.false_ne_true fun ⟨submission, member, here⟩ => unsent submission member here

/-- A new chat gives the session another conversation, of which no request was sent. -/
theorem flagged_newConversation (flagged : Flagged panel.chat.tags panel.running) {target : Int}
    (free : ¬ panel.RunsFor target) : Flagged (panel.switchToImageSession host target true).chat.tags
      (panel.switchToImageSession host target true).running := by
  have opened : Flagged (panel.switchToImageSession host target false).chat.tags panel.running :=
    flagged_switchToImageSession flagged target
  have switched := fun force =>
    AgentChat.tags_switchToImageSession panel.chat flagged.coherent host.uuid panel.uuidsDrawn target force
  have unchanged := switched false
  unfold Panel.switchToImageSession at opened ⊢
  dsimp only at opened ⊢
  rw [switched true, AgentChat.tag_targetSession_force]
  rw [unchanged] at opened
  refine flagged.opened ?_ fun submission member here => absurd ⟨submission, member, here⟩ free
  have flag := opened.flags target
    (panel.chat.syncCurrentSession.targetSession host.uuid panel.uuidsDrawn target false).1.tag (Function.update_self ..)
  exact flag

/-- After a cancellation no request of the session that was shown is running. -/
theorem not_runsFor_cancelActiveRequest (own : HoldsOwn panel) (statusText stopReason : String) {imageId : Int}
    (free : imageId ≠ panel.chat.currentImageId → ¬ panel.RunsFor imageId) :
    ¬ (panel.cancelActiveRequest statusText stopReason).RunsFor imageId := by
  have core := panel.core_cancelActiveRequest statusText stopReason
  have running : (panel.cancelActiveRequest statusText stopReason).running = panel.cancelHandle.running :=
    Panel.running_congr (congrArg (·.transfers) core) (congrArg (·.queue) core)
  rintro ⟨submission, member, here⟩
  rw [running, Panel.running_cancelHandle] at member
  obtain ⟨old, unheld⟩ := List.mem_filter.mp member
  by_cases current : imageId = panel.chat.currentImageId
  · exact of_decide_eq_true unheld ((own submission old).mp (here.trans current))
  · exact free current ⟨submission, old, here⟩

theorem flagged_submitInternal (flagged : Flagged panel.chat.tags panel.running) (arguments : SubmitArguments)
    (outcome : SubmitOutcome) : Flagged (panel.submitInternal host arguments outcome).panel.chat.tags
      (panel.submitInternal host arguments outcome).panel.running := by
  obtain ⟨reopened, isReopened⟩ : ∃ reopened, panel.reopened host = reopened := ⟨_, rfl⟩
  have reopens : Flagged reopened.chat.tags reopened.running := by
    rw [← isReopened]
    exact flagged_switchToImageSession flagged _
  obtain ⟨ids, shown⟩ : ∃ ids, reopened.chat.tags.shown = some ids := by
    rw [← isReopened]
    exact ⟨_, rfl⟩
  have image : reopened.develop.currentImageId = reopened.chat.currentImageId := by
    rw [← isReopened]
    rfl
  have isShown : reopened.chat.tags.shown.isSome := by rw [shown]; rfl
  have announced := Panel.tags_announceRequest reopens.coherent isShown arguments
  have announcedRunning : (reopened.announceRequest arguments).running = reopened.running := Panel.running_congr rfl rfl
  have paths := panel.submitInternal_paths host arguments outcome
  rw [isReopened] at paths
  rcases paths with refused | ⟨quiet, ⟨message, abandoned⟩ | started⟩
  · rw [refused]
    exact reopens
  · -- the flags were down before, and are lowered again
    have lowered : reopened.chat.tags.flagged false = reopened.chat.tags := by
      rw [← quiet]
      exact Tags.flagged_eq_self reopens.coherent isShown
    have coherent : (reopened.announceRequest arguments).chat.tags.Coherent := by
      rw [announced]
      exact Tags.coherent_flagged reopens.coherent true
    have shownThen : (reopened.announceRequest arguments).chat.tags.shown.isSome := by
      rw [announced]
      exact isShown
    have running : ((reopened.announceRequest arguments).abandonRequest message).running = reopened.running :=
      Panel.running_congr rfl rfl
    rw [abandoned, Panel.tags_abandonRequest coherent shownThen, announced, Tags.flagged_flagged, lowered, running]
    exact reopens
  · have tags : ((reopened.announceRequest arguments).startRequest host arguments).chat.tags =
        reopened.chat.tags.flagged true := announced
    rw [started, tags, Panel.running_startRequest, announcedRunning]
    have sameIds : (reopened.announceRequest arguments).chat.shownIds = some ids :=
      (congrArg Tags.shown announced).trans shown
    obtain ⟨isSession, isConversation⟩ := AgentChat.ids_of_shown sameIds
    refine reopens.started ?_ image
    rw [shown]
    unfold Panel.submission
    dsimp only
    rw [isSession, isConversation]
    rfl

theorem FiledAt.tags {before after : AgentChat} {imageId : Int} {change : ChatSession → ChatSession}
    (filed : FiledAt before after imageId change) {tagChange : SessionTag → SessionTag}
    (tagged : ∀ session, (change session).tag = tagChange session.tag) :
    after.tags = before.tags.change imageId tagChange := by
  ext1
  case current => exact filed.currentImageId
  case shown => exact filed.shownIds
  case isLoading => exact congrArg (·.isLoading) filed.shown
  case stored =>
    funext image
    rw [Tags.stored_change]
    unfold AgentChat.tags AgentChat.storedTag
    dsimp only
    rw [filed.stored]
    split_ifs
    · rw [Option.map_map, Option.map_map]
      exact congrArg (fun f => Option.map f _) (funext tagged)
    · rfl

theorem tag_recordResult (submission : ChatSubmission) (result : ClientResult ν) (session : ChatSession) :
    (recordResult submission result session).tag = SessionTag.flag false session.tag := by
  unfold recordResult
  split <;> rfl

theorem tag_of_keeps {change : ChatSession → ChatSession} (keeps : Keeps change) (session : ChatSession) :
    (change session).tag = session.tag := by
  obtain ⟨thread, -, isLoading⟩ := keeps session
  have ids := congrArg (·.1) thread
  exact congrArg₂ (fun ids isLoading => (⟨ids.1, ids.2, isLoading⟩ : SessionTag)) ids isLoading

theorem Orderly.calms (orderly : Orderly panel) (calm : Panel.Calms panel other) : Orderly other := by
  rcases calm with same | same
  · exact orderly.of_same (congrArg (·.transfers) same) (congrArg (·.queue) same)
  · exact orderly.of_same (congrArg (·.transfers) same) (congrArg (·.queue) same)

variable [Numeric ν] {submission : ChatSubmission} {result : ClientResult ν}

theorem tag_hiddenOutcome (result : ClientResult ν) (session : ChatSession) :
    (Panel.hiddenOutcome result session).tag = session.tag := by
  have ids := congrArg (·.1) (thread_hiddenOutcome result session)
  exact congrArg₂ (fun ids isLoading => (⟨ids.1, ids.2, isLoading⟩ : SessionTag)) ids
    (settings_hiddenOutcome result session).2

variable (host result) in
/-- A result of another conversation than the one that is shown lowers the stored flag of its session. -/
theorem tags_requestFinished_unmatched (addressed : Addressed panel.chat submission)
    (unmatched : panel.chat.matchesCurrentSession submission = false) (outcome : SubmitOutcome) :
    (panel.requestFinished host submission result outcome).chat.tags =
      panel.chat.tags.change submission.imageId (SessionTag.flag false) := by
  obtain ⟨-, ⟨-, change, keeps, filed⟩ | ⟨-, filed⟩⟩ :=
    panel.requestFinished_unmatched result host addressed unmatched outcome
  · exact filed.tags fun session => (tag_of_keeps keeps _).trans (tag_recordResult submission result session)
  · exact filed.tags fun session => (tag_hiddenOutcome result _).trans (tag_recordResult submission result session)

variable (host result) in
/-- A result of the conversation that is shown lowers both flags of its session. -/
theorem tags_requestFinished_matched (coherent : panel.chat.tags.Coherent) (addressed : Addressed panel.chat submission)
    (keyed : Keyed panel.chat) (matched : panel.chat.matchesCurrentSession submission = true)
    (idle : result.cancelled → panel.chat.matchesActiveRequest submission = false → panel.chat.isLoading = false)
    (outcome : SubmitOutcome) :
    ∃ told sent, told.chat.tags = panel.chat.tags.flagged false ∧ told.transfers = panel.transfers ∧
      told.queue = panel.queue ∧ Panel.Resubmits host told sent ∧
      Writes sent (panel.requestFinished host submission result outcome) := by
  obtain ⟨settled, isSettled⟩ : ∃ settled, panel.settle submission result = settled := ⟨_, rfl⟩
  have filed : FiledAt panel.chat settled.chat panel.chat.currentImageId (recordResult submission result) := by
    rw [← isSettled, ← addressed.current keyed matched]
    exact panel.filedAt_settle result addressed.found
  have transfers : settled.transfers = panel.transfers := by rw [← isSettled]; rfl
  have queue : settled.queue = panel.queue := by rw [← isSettled]; rfl
  have tags : settled.chat.tags = panel.chat.tags.change panel.chat.tags.current (SessionTag.flag false) :=
    filed.tags (tag_recordResult submission result)
  have matchedThen : settled.chat.matchesCurrentSession submission = true :=
    (filed.matchesCurrentSession submission).trans matched
  have lowered : (settled.chat.tags.setLoading false) = panel.chat.tags.flagged false := by
    rw [tags]
    rfl
  have synced : (panel.chat.tags.flagged false).sync = panel.chat.tags.flagged false :=
    Tags.sync_eq_self (Tags.coherent_flagged coherent false)
  rcases panel.requestFinished_paths host submission result outcome with
    ⟨cancelled, same⟩ | ⟨-, same⟩ | ⟨-, -, same⟩
  all_goals rw [same, isSettled]
  · refine ⟨settled.finishCancelled submission _, _, ?_, transfers, queue, .inl rfl, .refl _⟩
    unfold Panel.finishCancelled
    dsimp only [Panel.onChat]
    cases active : panel.chat.matchesActiveRequest submission with
    | false =>
      have quiet : panel.chat.tags.isLoading = false := idle cancelled active
      rw [if_pos Bool.false_ne_true, ← lowered, tags]
      unfold Tags.setLoading Tags.change
      dsimp only
      rw [← quiet]
    | true =>
      rw [if_neg (not_not.mpr rfl), if_pos (show (settled.chat.onSubmissionSession submission _).matchesCurrentSession
        submission = true from matchedThen), AgentChat.tags_setStatus, AgentChat.tags_setLoading, AgentChat.tags_setError,
        AgentChat.tags_onSubmissionSession_same, tags]
      · exact Tags.sync_lowered coherent
      · exact fun _ => rfl
  · refine ⟨settled.finishStale submission, _, ?_, transfers, queue, .inl rfl, .refl _⟩
    unfold Panel.finishStale
    dsimp only [Panel.onChat]
    rw [if_pos (show (settled.chat.onSubmissionSession submission _).matchesCurrentSession submission = true from
      matchedThen), AgentChat.tags_setStatus, AgentChat.tags_setLoading, AgentChat.tags_onSubmissionSession_same, lowered,
      synced]
    exact fun _ => rfl
  · have quietTags : (settled.quieted submission).chat.tags = panel.chat.tags.flagged false := by
      unfold Panel.quieted
      dsimp only [Panel.onChat]
      rw [if_pos matchedThen]
      exact lowered
    have quietCoherent : (settled.quieted submission).chat.tags.Coherent := by
      rw [quietTags]
      exact Tags.coherent_flagged coherent false
    rcases settled.finishCurrent_paths host submission result (panel.chat.liveAppliedFor submission) outcome with
      ⟨-, mismatch⟩ | ⟨-, -, deferred⟩ | ⟨-, told, sent, writes, resubmits, last⟩
    · rw [mismatch]
      refine ⟨(settled.quieted submission).finishMismatch submission, _, ?_, transfers, queue, .inl rfl, .refl _⟩
      obtain ⟨noted, isNoted⟩ : ∃ noted, ((settled.quieted submission).chat.onSubmissionSession submission fun session =>
          { session with
            errorText := Panel.mismatchMessage
            statusText := "Image changed"
            refinementStopReason := some "revision-mismatch" }) = noted := ⟨_, rfl⟩
      have notedTags : noted.tags = (settled.quieted submission).chat.tags := by
        rw [← isNoted]
        exact AgentChat.tags_onSubmissionSession_same _ _ fun _ => rfl
      rw [← quietTags, ← notedTags]
      unfold Panel.finishMismatch
      dsimp only [Panel.onChat]
      rw [isNoted]
      split
      · refine Labels.tags ?_ (notedTags ▸ quietCoherent)
        exact ((Labels.setError ..).trans (Labels.setStatus ..)).trans (Labels.appendMessage ..)
      · rfl
    · rw [deferred]
      refine ⟨(settled.quieted submission).finishHidden submission result, _, ?_, transfers, queue, .inl rfl, .refl _⟩
      rw [← quietTags]
      exact AgentChat.tags_onSubmissionSession_same _ _ (tag_hiddenOutcome result)
    · refine ⟨told, sent, ?_, writes.transfers.trans transfers, writes.queue.trans queue, resubmits, last⟩
      exact (writes.labels.tags quietCoherent).trans quietTags

/-- A result comes while no other request of its session is running, and a snapshot that fails belongs to the
request that runs for the session that is shown. -/
def DeliveredInTurn (host : Host κ ν W) (panel : Panel κ ν) : Delivery ν → Prop
  | .result submission _ => ∀ other ∈ panel.running, other.imageId = submission.imageId →
      other.requestId = submission.requestId
  | .progress _ progress => ∀ operations ∈ panel.snapshotOperations progress,
      (panel.execution host operations).ok = false → HoldsOwn panel

instance (panel : Panel κ ν) : Decidable (HoldsOwn panel) :=
  inferInstanceAs (Decidable (∀ submission ∈ panel.running,
    submission.imageId = panel.chat.currentImageId ↔ panel.chat.active.handle = some submission.requestId))

instance (host : Host κ ν W) (panel : Panel κ ν) : ∀ delivery, Decidable (DeliveredInTurn host panel delivery)
  | .result submission _ => inferInstanceAs (Decidable (∀ other ∈ panel.running,
      other.imageId = submission.imageId → other.requestId = submission.requestId))
  | .progress _ progress => inferInstanceAs (Decidable (∀ operations ∈ panel.snapshotOperations progress,
      (panel.execution host operations).ok = false → HoldsOwn panel))

variable (host) in
/-- Callbacks are delivered in turn, and what is cancelled is the request that runs for the session that is shown. -/
def InTurn (panel : Panel κ ν) : Event κ ν → Prop
  | .dispatch _ => ∀ delivery ∈ panel.queue.head?, DeliveredInTurn host panel delivery
  | .cancel => HoldsOwn panel
  | .newChat => HoldsOwn panel ∧
      (panel.develop.currentImageId ≠ panel.chat.currentImageId → ¬ panel.RunsFor panel.develop.currentImageId)
  | .imageChanged imageId content =>
    (⟨imageId, true, content⟩ : Develop κ).currentImageId ≠ panel.chat.currentImageId → HoldsOwn panel
  | _ => True

instance (panel : Panel κ ν) : ∀ event, Decidable (InTurn host panel event)
  | .dispatch _ => inferInstanceAs (Decidable (∀ delivery ∈ panel.queue.head?, DeliveredInTurn host panel delivery))
  | .cancel => inferInstanceAs (Decidable (HoldsOwn panel))
  | .newChat => inferInstanceAs (Decidable (HoldsOwn panel ∧
      (panel.develop.currentImageId ≠ panel.chat.currentImageId → ¬ panel.RunsFor panel.develop.currentImageId)))
  | .imageChanged imageId content => inferInstanceAs (Decidable
      ((⟨imageId, true, content⟩ : Develop κ).currentImageId ≠ panel.chat.currentImageId → HoldsOwn panel))
  | .submit .. | .multiTurnToggled _ | .maxTurnsChanged _ | .fastModeToggled _ | .leave | .enter .. | .edit _
  | .streamed .. | .ended .. => inferInstanceAs (Decidable True)

variable (host) in
/-- The flags of all sessions are right, and stay right. -/
structure Loads (panel : Panel κ ν) : Prop extends Wired host panel, Filed host panel, Orderly panel where
  flagged : Flagged panel.chat.tags panel.running

namespace Orderly

theorem progressFinished (orderly : Orderly panel) (origin : ChatSubmission) (progress : ClientProgress ν) :
    Orderly (panel.progressFinished host origin progress) := by
  rcases panel.progressFinished_paths host origin progress with writes | ⟨-, -, -, middle, writes, same⟩
  · exact orderly.of_same writes.transfers writes.queue
  · rw [same]
    exact (orderly.of_same writes.transfers writes.queue).cancelActiveRequest ..

theorem requestFinished (orderly : Orderly panel) (wired : Wired host panel) (submission : ChatSubmission)
    (result : ClientResult ν) (outcome : SubmitOutcome) :
    Orderly (panel.requestFinished host submission result outcome) := by
  obtain ⟨middle, calm, continued⟩ := panel.requestFinished_cases host submission result outcome
  have settled : Orderly (panel.settle submission result) := orderly.of_same rfl rfl
  have executed : Orderly ((panel.settle submission result).executes host submission
      (panel.finalOperations host submission result)) := by
    unfold Panel.executes
    split
    · exact settled
    · exact settled.of_same rfl rfl
  have wiredThen := ((wired.settle submission result).executes submission
    (panel.finalOperations host submission result)).calms calm
  have orderlyThen := executed.calms calm
  rcases continued with same | ⟨next, arguments, sent, sameNext, submitted⟩
  · exact orderlyThen.of_same (congrArg (·.transfers) same) (congrArg (·.queue) same)
  · have orderlyNext : Orderly next := orderlyThen.of_same (congrArg (·.transfers) sameNext) (congrArg (·.queue) sameNext)
    have submits := orderlyNext.submitInternal (wiredThen.of_core sameNext).toThreaded arguments sent
    exact submits.of_same (congrArg (·.transfers) submitted) (congrArg (·.queue) submitted)

end Orderly

namespace Loads

theorem progressFinished (loads : Loads host panel) {origin : ChatSubmission} {progress : ClientProgress ν}
    (own : ∀ operations ∈ panel.snapshotOperations progress, (panel.execution host operations).ok = false →
      HoldsOwn panel) : Flagged (panel.progressFinished host origin progress).chat.tags
        (panel.progressFinished host origin progress).running := by
  rcases panel.progressFinished_paths host origin progress with writes | ⟨operations, taken, failed, middle, writes, same⟩
  · exact loads.flagged.writes writes
  · rw [same]
    refine flagged_cancelActiveRequest (loads.flagged.writes writes) ?_ ..
    unfold HoldsOwn
    rw [Panel.running_congr writes.transfers writes.queue, writes.labels.currentImageId, writes.handle]
    exact own operations taken failed

/-- The result of the only request of its session that can be running lowers the flags of this session. -/
theorem requestFinished (loads : Loads host panel) {rest : List (Delivery ν)} {submission : ChatSubmission}
    {result : ClientResult ν} (queue : panel.queue = .result submission result :: rest)
    (alone : ∀ other ∈ panel.running, other.imageId = submission.imageId → other.requestId = submission.requestId)
    (outcome : SubmitOutcome) :
    Flagged (Panel.requestFinished host { panel with queue := rest } submission result outcome).chat.tags
      (Panel.requestFinished host { panel with queue := rest } submission result outcome).running := by
  obtain ⟨transfer, known, isSubmission, -, cancels⟩ :=
    loads.answered submission result (by rw [queue]; exact List.mem_cons_self)
  have addressed : Addressed panel.chat submission := loads.addressed (List.mem_map.mpr ⟨transfer, known, isSubmission⟩)
  -- the request is the one whose transfer ended, and it has the only result
  have named : ∀ other ∈ panel.running, other.requestId = submission.requestId → other = submission := by
    intro other member same
    obtain ⟨twin, twinKnown, -, rfl⟩ := Panel.mem_running.mp member
    rw [loads.inj twinKnown known (same.trans (congrArg (·.requestId) isSubmission).symm), isSubmission]
  have own : ∀ other ∈ panel.running, other.imageId = submission.imageId ↔ other.requestId = submission.requestId :=
    fun other member => ⟨alone other member, fun same => congrArg (·.imageId) (named other member same)⟩
  obtain ⟨next, isNext⟩ : ∃ next, { panel with queue := rest } = next := ⟨_, rfl⟩
  have sameChat : next.chat = panel.chat := by rw [← isNext]
  have running : next.running = panel.running.filter fun other => decide (¬ other.requestId = submission.requestId) := by
    rw [← isNext]
    exact Panel.running_result loads.toOrderly queue
  have quiet : Flagged (panel.chat.tags.quietAt submission.imageId) next.running := by
    rw [running]
    exact loads.flagged.quiet own
  rw [isNext]
  rw [← sameChat] at addressed quiet
  have nextTags : next.chat.tags = panel.chat.tags := by rw [sameChat]
  -- while the session that is shown is loading, it waits for this result
  have waiting : submission.imageId = next.chat.currentImageId → next.chat.isLoading → submission ∈ panel.running := by
    rw [sameChat]
    intro here loading
    obtain ⟨other, member, same⟩ := loads.flagged.isLoading_iff.mp loading
    exact named other member (alone other member (same.trans here.symm)) ▸ member
  cases matched : next.chat.matchesCurrentSession submission with
  | false =>
    have idle : submission.imageId = next.chat.currentImageId → next.chat.isLoading = false := by
      intro here
      refine Bool.eq_false_iff.mpr fun loading => ?_
      have shown := loads.flagged.shown (waiting here loading) (sameChat ▸ here)
      rw [← nextTags] at shown
      rw [(AgentChat.matchesCurrentSession_iff submission).mpr shown] at matched
      cases matched
    have tags := tags_requestFinished_unmatched host result addressed matched outcome
    obtain ⟨rests, -⟩ := Panel.requestFinished_unmatched result host addressed matched outcome
    rw [tags, Tags.change_eq_quietAt idle, Panel.running_congr rests.transfers rests.queue]
    exact quiet
  | true =>
    have keyed : Keyed next.chat := sameChat ▸ loads.keyed
    have here : submission.imageId = next.chat.currentImageId := addressed.current keyed matched
    have idle : result.cancelled → next.chat.matchesActiveRequest submission = false → next.chat.isLoading = false := by
      intro cancelled _
      refine Bool.eq_false_iff.mpr fun loading => ?_
      obtain ⟨twin, twinKnown, running, isTwin⟩ := Panel.mem_running.mp (waiting here loading)
      have same := congrArg (·.requestId) (isTwin.trans isSubmission.symm)
      rw [loads.inj twinKnown known same] at running
      simp [Panel.runs, cancels cancelled] at running
    have coherent : next.chat.tags.Coherent := by
      rw [nextTags]
      exact loads.flagged.coherent
    obtain ⟨told, sent, tags, transfers, toldQueue, resubmits, last⟩ :=
      tags_requestFinished_matched host result coherent addressed keyed matched idle outcome
    have flaggedTold : Flagged told.chat.tags told.running := by
      rw [here] at quiet
      rw [tags, Panel.running_congr transfers toldQueue, ← Tags.quietAt_current]
      exact quiet
    refine Flagged.writes ?_ last
    rcases resubmits with same | ⟨arguments, again, same⟩
    · rw [same]
      exact flaggedTold
    · rw [same]
      exact flagged_submitInternal flaggedTold arguments again

theorem dispatch (loads : Loads host panel) {outcome : SubmitOutcome} (inTurn : InTurn host panel (.dispatch outcome)) :
    Orderly (panel.dispatch host outcome) ∧
      Flagged (panel.dispatch host outcome).chat.tags (panel.dispatch host outcome).running := by
  unfold Panel.dispatch
  cases queue : panel.queue with
  | nil => exact ⟨loads.toOrderly, loads.flagged⟩
  | cons delivery rest =>
    have inTurnNow : DeliveredInTurn host panel delivery := inTurn delivery (by rw [queue]; rfl)
    have orderly := loads.toOrderly.dequeued queue
    have wired := loads.toWired.dequeued queue
    cases delivery with
    | progress origin progress =>
      have running := Panel.running_progress queue
      have flagged : Flagged panel.chat.tags ({ panel with queue := rest } : Panel κ ν).running := by
        rw [running]
        exact loads.flagged
      have dequeued : Loads host { panel with queue := rest } := { wired, orderly, loads.toFiled with flagged }
      refine ⟨orderly.progressFinished origin progress, dequeued.progressFinished ?_⟩
      intro operations taken failed
      have own := inTurnNow operations taken failed
      unfold HoldsOwn at own ⊢
      rw [running]
      exact own
    | result submission result =>
      exact ⟨orderly.requestFinished wired submission result outcome, loads.requestFinished queue inTurnNow outcome⟩

omit [Numeric ν] in
theorem setPreferences (loads : Loads host panel) (change : Preferences → Preferences) :
    Orderly (panel.setPreferences change) ∧
      Flagged (panel.setPreferences change).chat.tags (panel.setPreferences change).running := by
  refine ⟨loads.toOrderly.of_same rfl rfl, ?_⟩
  have tags : (panel.setPreferences change).chat.tags = panel.chat.tags.sync :=
    AgentChat.tags_syncCurrentSession { panel.chat with preferences := change panel.chat.preferences }
  have running : (panel.setPreferences change).running = panel.running := Panel.running_congr rfl rfl
  rw [tags, running, Tags.sync_eq_self loads.flagged.coherent]
  exact loads.flagged

theorem imageChanged (loads : Loads host panel) {imageId : Int} {content : κ}
    (own : InTurn host panel (.imageChanged imageId content)) : Orderly (panel.imageChanged host imageId content) ∧
      Flagged (panel.imageChanged host imageId content).chat.tags (panel.imageChanged host imageId content).running := by
  have replaced : Orderly { panel with develop := { panel.develop with imageId, content } } :=
    loads.toOrderly.of_same rfl rfl
  unfold Panel.imageChanged
  dsimp only
  split_ifs with changed
  · have cancelled := replaced.cancelActiveRequest "Request canceled" "image-changed"
    exact ⟨cancelled.of_same rfl rfl,
      flagged_switchToImageSession (flagged_cancelActiveRequest loads.flagged (own changed) ..) _⟩
  · exact ⟨replaced, loads.flagged⟩

theorem step (loads : Loads host panel) {event : Event κ ν} (inTurn : InTurn host panel event) :
    Loads host (Chat.step host panel event) := by
  have wired := loads.toWired.step event
  have filed := loads.toFiled.step loads.toWired event
  obtain ⟨orderly, flagged⟩ : Orderly (Chat.step host panel event) ∧
      Flagged (Chat.step host panel event).chat.tags (Chat.step host panel event).running := by
    cases event with
    | submit prompt outcome =>
      exact ⟨loads.toOrderly.submitInternal loads.toThreaded _ outcome, flagged_submitInternal loads.flagged _ outcome⟩
    | cancel => exact ⟨loads.toOrderly.cancelActiveRequest .., flagged_cancelActiveRequest loads.flagged inTurn ..⟩
    | newChat =>
      have cancelled := flagged_cancelActiveRequest loads.flagged inTurn.1 "Request canceled" "new-chat"
      refine ⟨(loads.toOrderly.cancelActiveRequest "Request canceled" "new-chat").of_same rfl rfl, ?_⟩
      exact flagged_newConversation cancelled (not_runsFor_cancelActiveRequest inTurn.1 _ _ inTurn.2)
    | multiTurnToggled enabled => exact loads.setPreferences fun chosen => { chosen with multiTurnEnabled := enabled }
    | maxTurnsChanged turns =>
      exact loads.setPreferences fun chosen => { chosen with maxRefinementPasses := max turns 1 }
    | fastModeToggled enabled => exact loads.setPreferences fun chosen => { chosen with fastModeEnabled := enabled }
    | imageChanged imageId content => exact loads.imageChanged inTurn
    | leave =>
      have tags : (Chat.step host panel .leave).chat.tags = panel.chat.tags :=
        (AgentChat.tags_syncCurrentSession _).trans (Tags.sync_eq_self loads.flagged.coherent)
      refine ⟨loads.toOrderly.of_same rfl rfl, ?_⟩
      rw [tags]
      exact loads.flagged
    | enter imageId content =>
      have entered : Flagged { panel with
          develop := ⟨imageId, true, content⟩
          chat := { panel.chat with preferences := panel.configured.loaded } }.chat.tags panel.running := loads.flagged
      exact ⟨loads.toOrderly.of_same rfl rfl, flagged_switchToImageSession entered _⟩
    | edit content => exact ⟨loads.toOrderly.of_same rfl rfl, loads.flagged⟩
    | streamed requestId progress =>
      refine ⟨loads.toOrderly.streamed requestId progress, ?_⟩
      change Flagged (panel.streamed requestId progress).chat.tags (panel.streamed requestId progress).running
      rw [panel.chat_streamed, panel.running_streamed]
      exact loads.flagged
    | ended requestId ending =>
      refine ⟨loads.toOrderly.ended requestId ending, ?_⟩
      change Flagged (panel.ended requestId ending).chat.tags (panel.ended requestId ending).running
      rw [panel.chat_ended, Panel.running_ended loads.toOrderly]
      exact loads.flagged
    | dispatch outcome => exact loads.dispatch inTurn
  exact { wired, filed, orderly with flagged }

end Loads

omit [Numeric ν] in
theorem Loads.initially (configured : Preferences) (content : κ) :
    Loads host (initialPanel configured content : Panel κ ν) where
  toWired := Wired.initially configured content
  toFiled := Filed.initially configured content
  toOrderly := ⟨List.nodup_nil, List.nodup_nil, fun _ _ waits => nomatch waits⟩
  flagged := {
    coherent := fun _ shown => nomatch shown
    unopened := fun _ => ⟨rfl, fun _ => rfl⟩
    sent := fun _ member => nomatch member
    flags := fun _ _ stored => nomatch stored }

variable (host) in
/-- While everything comes in turn, the loading flags of the session that is shown say whether one of its requests is
running, in every run. -/
theorem loading_in_turn (configured : Preferences) (content : κ) {events : List (Event κ ν)}
    (inTurn : EveryStep (step host) (InTurn host) (initialPanel configured content) events) :
    LoadingAgrees (run (step host) (initialPanel configured content) events) := by
  have kept : ∀ panel event, Loads host panel → InTurn host panel event → Loads host (step host panel event) :=
    fun _ _ loads here => loads.step here
  exact (run_invariant kept (Loads.initially configured content) inTurn).flagged.loadingAgrees

end Panels

instance (panel : Panel SampleEdit ℚ) : Decidable (LoadingAgrees panel) := inferInstanceAs (Decidable (_ ∧ _))

/-- A request is cancelled when its result waits on the main loop, and the next request is sent. -/
def staleAfterResubmission : List (Event SampleEdit ℚ) :=
  [.enter 1 ⟨0, 0⟩, .submit "brighten" .queued, .ended (sampleUuid 2) (.completed (sampleResponse (sampleUuid 2) [1])),
    .cancel, .submit "darken" .queued, .dispatch .queued]

theorem staleAfterResubmission_not_loading :
    ¬ LoadingAgrees (run (step sampleHost) sampleStart staleAfterResubmission) := by
  decide +kernel

/-- The result comes before the next request is sent. -/
theorem loading_in_turn_resubmitted : LoadingAgrees (run (step sampleHost) sampleStart
    [.enter 1 ⟨0, 0⟩, .submit "brighten" .queued, .ended (sampleUuid 2) (.completed (sampleResponse (sampleUuid 2) [1])),
      .cancel, .dispatch .queued, .submit "darken" .queued]) := by
  refine loading_in_turn sampleHost samplePreferences ⟨0, 0⟩ ?_
  decide +kernel

end DarktableAgent.Chat
