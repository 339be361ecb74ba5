import DarktableAgent.Chat.Filing

/-! Every request belongs to a stored session.

Sessions are never dropped and keep their image session id, which is drawn once. So a
request finds the session that it was sent for, in every run.
-/

set_option autoImplicit false

namespace DarktableAgent.Chat

open Foundation Protocol Client

section Filed

variable {κ ν W : Type} (host : Host κ ν W)

/-- Each session has an id of its own, and each request was sent for the stored session of its image. -/
structure Filed (panel : Panel κ ν) : Prop where
  keyed : Keyed panel.chat
  distinct : ∀ first second id, panel.chat.key first = some id → panel.chat.key second = some id → first = second
  drawnKeys : ∀ imageId id, panel.chat.key imageId = some id → ∃ n < panel.uuidsDrawn, id = host.uuid n
  filed : ∀ submission ∈ panel.transfers.map (·.submission),
    panel.chat.key submission.imageId = some submission.imageSessionId

namespace Filed

variable {host} {panel other : Panel κ ν}

theorem addressed (filed : Filed host panel) {submission : ChatSubmission}
    (sent : submission ∈ panel.transfers.map (·.submission)) : Addressed panel.chat submission :=
  ⟨filed.distinct, filed.filed submission sent⟩

theorem of_sameKeys (filed : Filed host panel) (same : SameKeys panel.chat other.chat)
    (submissions : other.transfers.map (·.submission) = panel.transfers.map (·.submission))
    (drawn : panel.uuidsDrawn ≤ other.uuidsDrawn) : Filed host other where
  keyed := same.keyed filed.keyed
  distinct first second id := by
    rw [same.key, same.key]
    exact filed.distinct first second id
  drawnKeys imageId id stored := by
    obtain ⟨n, below, isId⟩ := filed.drawnKeys imageId id (by rw [← same.key]; exact stored)
    exact ⟨n, below.trans_le drawn, isId⟩
  filed submission sent := by
    rw [same.key]
    exact filed.filed submission (submissions ▸ sent)

theorem of_works (filed : Filed host panel) (works : Works panel.chat other.chat)
    (submissions : other.transfers.map (·.submission) = panel.transfers.map (·.submission))
    (drawn : panel.uuidsDrawn ≤ other.uuidsDrawn) : Filed host other :=
  filed.of_sameKeys (works.sameKeys filed.keyed) submissions drawn

theorem of_writes (filed : Filed host panel) (writes : Writes panel other) : Filed host other :=
  filed.of_works (.of_labels writes.labels) (congrArg _ writes.transfers) writes.uuidsDrawn.ge

end Filed

/-- The keys after a switch: a session is made for the image if it has none. -/
theorem key_switchToImageSession {chat : AgentChat} (keyed : Keyed chat) (uuid : Nat → String) (drawn : Nat)
    (imageId : Int) (forceNewChat : Bool) (other : Int) :
    (chat.switchToImageSession uuid drawn imageId forceNewChat).key other =
      if other = imageId then some ((chat.key imageId).getD (uuid drawn)) else chat.key other := by
  have synced : SameKeys chat chat.syncCurrentSession :=
    (Works.of_labels (Labels.syncCurrentSession chat)).sameKeys keyed
  rw [← synced.key imageId, ← synced.key other]
  unfold AgentChat.key
  rw [chat.get?_switchToImageSession]
  split_ifs
  · refine congrArg some ?_
    unfold AgentChat.targetSession
    cases chat.syncCurrentSession.imageSessions.get? imageId <;> cases forceNewChat <;> rfl
  · rfl

/-- An id is drawn for a session that is made. -/
theorem lt_targetSession {chat : AgentChat} (uuid : Nat → String) (drawn : Nat) {imageId : Int}
    (unknown : chat.key imageId = none) (forceNewChat : Bool) :
    drawn < (chat.targetSession uuid drawn imageId forceNewChat).2 := by
  have absent : chat.imageSessions.get? imageId = none := Option.map_eq_none_iff.mp unknown
  unfold AgentChat.targetSession
  rw [absent]
  cases forceNewChat
  · have later : drawn < drawn + 2 := by omega
    exact later
  · have later : drawn < drawn + 2 + 1 := by omega
    exact later

namespace Filed

variable {host} {panel : Panel κ ν}

theorem switchToImageSession (filed : Filed host panel) (imageId : Int) (forceNewChat : Bool) :
    Filed host (panel.switchToImageSession host imageId forceNewChat) := by
  have key := key_switchToImageSession filed.keyed host.uuid panel.uuidsDrawn imageId forceNewChat
  have synced : SameKeys panel.chat panel.chat.syncCurrentSession :=
    (Works.of_labels (Labels.syncCurrentSession panel.chat)).sameKeys filed.keyed
  -- a key after the switch is an old one, or the one that was drawn for the image
  have known : ∀ other id, (panel.switchToImageSession host imageId forceNewChat).chat.key other = some id →
      panel.chat.key other = some id ∨
        other = imageId ∧ id = host.uuid panel.uuidsDrawn ∧ panel.chat.key imageId = none := by
    intro other id stored
    rw [Panel.switchToImageSession, key] at stored
    split_ifs at stored with same
    · subst same
      cases before : panel.chat.key other with
      | none =>
        rw [before] at stored
        exact .inr ⟨rfl, (Option.some.inj stored).symm, rfl⟩
      | some old =>
        rw [before] at stored
        exact .inl stored
    · exact .inl stored
  have fresh : ∀ other, panel.chat.key other ≠ some (host.uuid panel.uuidsDrawn) := by
    intro other stored
    obtain ⟨n, below, same⟩ := filed.drawnKeys other _ stored
    exact absurd (host.uuid_injective same) below.ne'
  constructor
  case keyed =>
    rintro ids ⟨⟩
    change (panel.chat.switchToImageSession host.uuid panel.uuidsDrawn imageId forceNewChat).key imageId = _
    unfold AgentChat.key
    rw [panel.chat.get?_switchToImageSession, if_pos rfl]
    rfl
  case distinct =>
    intro first second id isFirst isSecond
    rcases known first id isFirst with old | ⟨rfl, rfl, -⟩
    · rcases known second id isSecond with older | ⟨rfl, rfl, -⟩
      · exact filed.distinct first second id old older
      · exact absurd old (fresh first)
    · rcases known second _ isSecond with older | ⟨rfl, -, -⟩
      · exact absurd older (fresh second)
      · rfl
  case drawnKeys =>
    intro other id stored
    rcases known other id stored with old | ⟨rfl, rfl, unknown⟩
    · obtain ⟨n, below, same⟩ := filed.drawnKeys other id old
      exact ⟨n, below.trans_le (panel.le_switchToImageSession host imageId forceNewChat), same⟩
    · exact ⟨panel.uuidsDrawn, lt_targetSession _ _ ((synced.key other).trans unknown) forceNewChat, rfl⟩
  case filed =>
    intro submission sent
    have stored := filed.filed submission sent
    rw [Panel.switchToImageSession, key]
    split_ifs with same
    · rw [← same, stored]
      rfl
    · exact stored

theorem cancelActiveRequest (filed : Filed host panel) (statusText stopReason : String) :
    Filed host (panel.cancelActiveRequest statusText stopReason) :=
  filed.of_works (panel.works_cancelActiveRequest statusText stopReason)
    (panel.submissions_cancelActiveRequest statusText stopReason) le_rfl

/-- A request is sent for the session that is shown. -/
theorem startRequest (filed : Filed host panel) {ids : String × String} (shown : panel.chat.shownIds = some ids)
    (here : panel.develop.currentImageId = panel.chat.currentImageId) (arguments : SubmitArguments) :
    Filed host (panel.startRequest host arguments) where
  keyed := filed.keyed
  distinct := filed.distinct
  drawnKeys imageId id stored := by
    obtain ⟨n, below, same⟩ := filed.drawnKeys imageId id stored
    exact ⟨n, below.trans (Nat.lt_succ_self _), same⟩
  filed submission sent := by
    unfold Panel.startRequest at sent
    dsimp only at sent
    rw [List.map_append, List.mem_append] at sent
    rcases sent with old | new
    · exact filed.filed submission old
    · obtain rfl := List.mem_singleton.mp new
      have key := filed.keyed ids shown
      have sessionId := (AgentChat.ids_of_shown shown).1
      unfold Panel.submission
      dsimp only
      rw [here, sessionId]
      exact key

theorem submitInternal (filed : Filed host panel) (arguments : SubmitArguments) (outcome : SubmitOutcome) :
    Filed host (panel.submitInternal host arguments outcome).panel := by
  have reopened : Filed host (panel.reopened host) := filed.switchToImageSession _ false
  have announced : Filed host ((panel.reopened host).announceRequest arguments) :=
    reopened.of_works (Panel.works_announceRequest ..) rfl le_rfl
  rcases panel.submitInternal_paths host arguments outcome with refused | ⟨-, ⟨message, abandoned⟩ | started⟩
  · rw [refused]
    exact reopened
  · rw [abandoned]
    exact announced.of_works (Panel.works_abandonRequest ..) rfl (Nat.le_succ _)
  · have works := (panel.reopened host).works_announceRequest arguments
    rw [started]
    refine announced.startRequest (works.shownIds.trans rfl) ?_ arguments
    exact works.currentImageId.symm

theorem ended (filed : Filed host panel) (requestId : String) (ending : TransferEnd ν) :
    Filed host (panel.ended requestId ending) := by
  unfold Panel.ended
  split
  · split
    · exact filed
    · refine filed.of_sameKeys (.refl _) ?_ le_rfl
      dsimp only
      rw [List.map_map]
      refine List.map_congr_left fun transfer _ => ?_
      dsimp only [Function.comp]
      split <;> rfl
  · exact filed

theorem streamed (filed : Filed host panel) (requestId : String) (progress : ClientProgress ν) :
    Filed host (panel.streamed requestId progress) := by
  unfold Panel.streamed
  split
  · split
    · exact filed
    · exact { filed with }
  · exact filed

theorem setPreferences (filed : Filed host panel) (change : Preferences → Preferences) :
    Filed host (panel.setPreferences change) := by
  obtain ⟨chosen, isChosen⟩ : ∃ chosen, { panel.chat with preferences := change panel.chat.preferences } = chosen :=
    ⟨_, rfl⟩
  have keyed : Keyed chosen := by
    rw [← isChosen]
    exact filed.keyed
  have synced := (Works.of_labels (Labels.syncCurrentSession chosen)).sameKeys keyed
  rw [← isChosen] at synced
  exact filed.of_sameKeys ⟨synced.currentImageId, synced.shownIds, synced.key⟩ rfl le_rfl

theorem initially (configured : Preferences) (content : κ) :
    Filed host (initialPanel configured content : Panel κ ν) where
  keyed ids shown := by cases shown
  distinct first second id stored := by cases stored
  drawnKeys imageId id stored := by cases stored
  filed submission sent := by cases sent

variable [Numeric ν]

theorem progressFinished (filed : Filed host panel) (origin : ChatSubmission) (progress : ClientProgress ν) :
    Filed host (panel.progressFinished host origin progress) := by
  rcases panel.progressFinished_paths host origin progress with writes | ⟨-, -, -, middle, writes, same⟩
  · exact filed.of_writes writes
  · rw [same]
    exact (filed.of_writes writes).cancelActiveRequest ..

theorem requestFinished (filed : Filed host panel) {submission : ChatSubmission}
    (sent : submission ∈ panel.transfers.map (·.submission)) (result : ClientResult ν) (outcome : SubmitOutcome) :
    Filed host (panel.requestFinished host submission result outcome) := by
  have addressed := filed.addressed sent
  have recorded : ∀ session, (recordResult submission result session).imageSessionId = session.imageSessionId :=
    fun session => congrArg (·.1.1) (thread_recordResult submission result session)
  have deferred : ∀ session, (Panel.hiddenOutcome result session).imageSessionId = session.imageSessionId :=
    fun session => congrArg (·.1.1) (thread_hiddenOutcome result session)
  cases matched : panel.chat.matchesCurrentSession submission with
  | false =>
    obtain ⟨rests, ⟨-, change, kept, noted⟩ | ⟨-, noted⟩⟩ :=
      panel.requestFinished_unmatched result host addressed matched outcome
    · refine filed.of_sameKeys (noted.sameKeys fun session => ?_) (congrArg _ rests.transfers) rests.uuidsDrawn.ge
      exact (congrArg (·.1.1) (kept _).1).trans (recorded session)
    · refine filed.of_sameKeys (noted.sameKeys fun session => ?_) (congrArg _ rests.transfers) rests.uuidsDrawn.ge
      exact (deferred _).trans (recorded session)
  | true =>
    obtain ⟨told, sentPanel, rests, -, resubmits, last, works⟩ :=
      panel.requestFinished_matched result host addressed filed.keyed matched outcome
    have filedTold : Filed host told := by
      rcases works with works | ⟨-, middle, works, noted⟩
      · exact filed.of_works works (congrArg _ rests.transfers) rests.uuidsDrawn.ge
      · exact filed.of_sameKeys ((works.sameKeys filed.keyed).trans (noted.sameKeys deferred))
          (congrArg _ rests.transfers) rests.uuidsDrawn.ge
    refine Filed.of_writes ?_ last
    rcases resubmits with same | ⟨arguments, next, same⟩
    · rw [same]
      exact filedTold
    · rw [same]
      exact filedTold.submitInternal arguments next

theorem dispatch (filed : Filed host panel) (wired : Wired host panel) (outcome : SubmitOutcome) :
    Filed host (panel.dispatch host outcome) := by
  unfold Panel.dispatch
  split
  · exact filed
  · rename_i origin progress rest queue
    have dequeued : Filed host { panel with queue := rest } := { filed with }
    exact dequeued.progressFinished ..
  · rename_i submission result rest queue
    have dequeued : Filed host { panel with queue := rest } := { filed with }
    obtain ⟨transfer, known, same⟩ := wired.queued (.result submission result) (by rw [queue]; exact List.mem_cons_self)
    exact dequeued.requestFinished (List.mem_map.mpr ⟨transfer, known, same⟩) result outcome

theorem step (filed : Filed host panel) (wired : Wired host panel) (event : Event κ ν) :
    Filed host (Chat.step host panel event) := by
  cases event with
  | submit prompt outcome => exact filed.submitInternal _ outcome
  | cancel => exact filed.cancelActiveRequest ..
  | newChat => exact (filed.cancelActiveRequest ..).switchToImageSession _ true
  | multiTurnToggled enabled => exact filed.setPreferences fun chosen => { chosen with multiTurnEnabled := enabled }
  | maxTurnsChanged turns => exact filed.setPreferences fun chosen => { chosen with maxRefinementPasses := max turns 1 }
  | fastModeToggled enabled => exact filed.setPreferences fun chosen => { chosen with fastModeEnabled := enabled }
  | imageChanged imageId content =>
    have replaced : Filed host { panel with develop := { panel.develop with imageId, content } } := { filed with }
    change Filed host (Panel.imageChanged host panel imageId content)
    unfold Panel.imageChanged
    dsimp only
    split
    · exact (replaced.cancelActiveRequest ..).switchToImageSession _ false
    · exact replaced
  | leave =>
    exact filed.of_sameKeys ((Works.of_labels (Labels.syncCurrentSession panel.chat)).sameKeys filed.keyed) rfl le_rfl
  | enter imageId content =>
    have entered : Filed host { panel with
        develop := ⟨imageId, true, content⟩
        chat := { panel.chat with preferences := panel.configured.loaded } } := { filed with }
    exact entered.switchToImageSession _ false
  | edit content => exact { filed with }
  | streamed requestId progress => exact filed.streamed requestId progress
  | ended requestId ending => exact filed.ended requestId ending
  | dispatch outcome => exact filed.dispatch wired outcome

end Filed

theorem filed_of_run [Numeric ν] (configured : Preferences) (content : κ) (events : List (Event κ ν)) :
    Wired host (run (step host) (initialPanel configured content) events) ∧
      Filed host (run (step host) (initialPanel configured content) events) := by
  have kept : ∀ panel event, Wired host panel ∧ Filed host panel → True →
      Wired host (step host panel event) ∧ Filed host (step host panel event) :=
    fun _ event invariants _ => ⟨invariants.1.step event, invariants.2.step invariants.1 event⟩
  exact run_invariant kept ⟨Wired.initially configured content, Filed.initially configured content⟩
    (everyStep_of_forall (fun _ _ => trivial) _ events)

end Filed

end DarktableAgent.Chat
