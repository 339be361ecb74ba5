import DarktableAgent.Chat.Labels

/-! Ids and loading flags of the panel and of its stored sessions.

While the panel and the stored session of the current image agree, labels change no id
and no flag, and only a few places are left that do: a switch, the raising and lowering
of the flag, and a result.
-/

set_option autoImplicit false

namespace DarktableAgent.Chat

open Foundation Protocol Client

def SessionTag.flag (isLoading : Bool) (tag : SessionTag) : SessionTag := { tag with isLoading }

/-- The tags of the session that is shown and of all sessions that are stored. -/
@[ext] structure Tags where
  current : Int
  shown : Option (String × String)
  isLoading : Bool
  stored : Int → Option SessionTag

namespace Tags

variable (tags : Tags)

def change (imageId : Int) (change : SessionTag → SessionTag) : Tags :=
  { tags with stored := Function.update tags.stored imageId ((tags.stored imageId).map change) }

/-- What is shown is written back. -/
def sync : Tags :=
  match tags.shown with
  | none => tags
  | some ids => tags.change tags.current fun _ => ⟨ids.1, ids.2, tags.isLoading⟩

def setLoading (isLoading : Bool) : Tags := { tags with isLoading }

/-- The stored session of the current image is the one that is shown. -/
def Coherent : Prop := ∀ ids ∈ tags.shown, tags.stored tags.current = some ⟨ids.1, ids.2, tags.isLoading⟩

/-- The flag of the panel and that of the stored session of the current image are set alike. -/
def flagged (isLoading : Bool) : Tags := (tags.setLoading isLoading).change tags.current (SessionTag.flag isLoading)

/-- No flag of an image is set. -/
def quietAt (imageId : Int) : Tags :=
  (tags.setLoading (tags.isLoading && decide (imageId ≠ tags.current))).change imageId (SessionTag.flag false)

variable {tags}

@[simp] theorem current_change (imageId : Int) (change : SessionTag → SessionTag) :
    (tags.change imageId change).current = tags.current := rfl

@[simp] theorem shown_change (imageId : Int) (change : SessionTag → SessionTag) :
    (tags.change imageId change).shown = tags.shown := rfl

@[simp] theorem isLoading_change (imageId : Int) (change : SessionTag → SessionTag) :
    (tags.change imageId change).isLoading = tags.isLoading := rfl

theorem stored_change (imageId other : Int) (change : SessionTag → SessionTag) :
    (tags.change imageId change).stored other =
      if other = imageId then (tags.stored imageId).map change else tags.stored other :=
  Function.update_apply ..

theorem stored_quietAt (tags : Tags) (imageId other : Int) : (tags.quietAt imageId).stored other =
    if other = imageId then (tags.stored imageId).map (SessionTag.flag false) else tags.stored other :=
  stored_change ..

theorem stored_flagged (tags : Tags) (isLoading : Bool) (imageId : Int) : (tags.flagged isLoading).stored imageId =
    if imageId = tags.current then (tags.stored tags.current).map (SessionTag.flag isLoading) else tags.stored imageId :=
  stored_change ..

theorem quietAt_current (tags : Tags) : tags.quietAt tags.current = tags.flagged false := by
  unfold quietAt flagged
  simp [setLoading]

/-- Only the stored flag has to be lowered while the panel is not loading. -/
theorem change_eq_quietAt {imageId : Int} (idle : imageId = tags.current → tags.isLoading = false) :
    tags.change imageId (SessionTag.flag false) = tags.quietAt imageId := by
  have same : tags.setLoading (tags.isLoading && decide (imageId ≠ tags.current)) = tags := by
    unfold setLoading
    by_cases here : imageId = tags.current
    · simp [here, ← idle here]
    · simp [here]
  unfold quietAt
  rw [same]

theorem change_change (tags : Tags) (imageId : Int) (first second : SessionTag → SessionTag) :
    (tags.change imageId first).change imageId second = tags.change imageId (second ∘ first) := by
  ext1
  case stored =>
    funext other
    simp only [stored_change, if_true, Option.map_map]
    split_ifs <;> rfl
  all_goals rfl

theorem sync_of_some {ids : String × String} (shown : tags.shown = some ids) :
    tags.sync = tags.change tags.current fun _ => ⟨ids.1, ids.2, tags.isLoading⟩ := by
  unfold sync
  rw [shown]

theorem sync_of_none (unshown : tags.shown = none) : tags.sync = tags := by
  unfold sync
  rw [unshown]

theorem change_eq_self {imageId : Int} {change : SessionTag → SessionTag}
    (same : (tags.stored imageId).map change = tags.stored imageId) : tags.change imageId change = tags := by
  unfold Tags.change
  rw [same, Function.update_eq_self]

theorem sync_eq_self (coherent : tags.Coherent) : tags.sync = tags := by
  unfold sync
  cases shown : tags.shown with
  | none => rfl
  | some ids =>
    apply change_eq_self
    rw [coherent ids shown]
    rfl

theorem change_congr {imageId : Int} {first second : SessionTag → SessionTag}
    (same : (tags.stored imageId).map first = (tags.stored imageId).map second) :
    tags.change imageId first = tags.change imageId second := by
  unfold Tags.change
  rw [same]

theorem coherent_flagged (coherent : tags.Coherent) (isLoading : Bool) : (tags.flagged isLoading).Coherent := by
  intro ids shown
  change (tags.flagged isLoading).stored tags.current = some ⟨ids.1, ids.2, isLoading⟩
  unfold flagged
  rw [stored_change, if_pos rfl]
  exact congrArg (Option.map _) (coherent ids shown)

/-- The next label that is written carries the flag of the panel to the stored session. -/
theorem sync_setLoading (coherent : tags.Coherent) (shown : tags.shown.isSome = true) (isLoading : Bool) :
    (tags.setLoading isLoading).sync = tags.flagged isLoading := by
  obtain ⟨ids, isShown⟩ := Option.isSome_iff_exists.mp shown
  rw [sync_of_some (show (tags.setLoading isLoading).shown = some ids from isShown)]
  apply change_congr
  change (tags.stored tags.current).map _ = (tags.stored tags.current).map _
  rw [coherent ids isShown]
  rfl

theorem flagged_flagged (tags : Tags) (first second : Bool) : (tags.flagged first).flagged second = tags.flagged second :=
  (tags.setLoading second).change_change tags.current _ _

theorem flagged_eq_self (coherent : tags.Coherent) (shown : tags.shown.isSome = true) :
    tags.flagged tags.isLoading = tags := by
  rw [← sync_setLoading coherent shown]
  exact sync_eq_self coherent

/-- The stored flag is lowered first or last; the next label that is written makes both sides agree. -/
theorem sync_lowered (coherent : tags.Coherent) :
    (((tags.change tags.current (SessionTag.flag false)).sync).setLoading false).sync = tags.flagged false := by
  cases shown : tags.shown with
  | none =>
    rw [sync_of_none (show (tags.change tags.current (SessionTag.flag false)).shown = none from shown)]
    exact sync_eq_self (coherent_flagged coherent false)
  | some ids =>
    -- the label undoes the first lowering, since the panel still has its flag
    have first : (tags.change tags.current (SessionTag.flag false)).sync = tags := by
      rw [sync_of_some (show (tags.change tags.current (SessionTag.flag false)).shown = some ids from shown)]
      exact (tags.change_change tags.current _ _).trans ((sync_of_some shown).symm.trans (sync_eq_self coherent))
    rw [first]
    exact sync_setLoading coherent (by rw [shown]; rfl) false

/-- The session of an image is shown. -/
def opened (imageId : Int) (tag : SessionTag) : Tags where
  current := imageId
  shown := some (tag.imageSessionId, tag.conversationId)
  isLoading := tag.isLoading
  stored := Function.update tags.stored imageId (some tag)

theorem coherent_opened (tags : Tags) (imageId : Int) (tag : SessionTag) : (tags.opened imageId tag).Coherent := by
  rintro ids ⟨⟩
  exact Function.update_self ..

end Tags

namespace AgentChat

variable (chat : AgentChat)

def tags : Tags where
  current := chat.currentImageId
  shown := chat.shownIds
  isLoading := chat.isLoading
  stored := chat.storedTag

/-- A stored session is changed, and so is its tag. -/
theorem tags_changeEntry (imageId : Int) {change : ChatSession → ChatSession} {tagChange : SessionTag → SessionTag}
    (tagged : ∀ session, (change session).tag = tagChange session.tag) :
    { chat with imageSessions := changeEntry chat.imageSessions imageId change }.tags =
      chat.tags.change imageId tagChange := by
  ext1
  case stored =>
    funext other
    unfold tags Tags.change storedTag
    dsimp only
    rw [get?_changeEntry]
    by_cases same : other = imageId
    · subst same
      rw [if_pos rfl, Function.update_self]
      cases chat.imageSessions.get? other with
      | none => rfl
      | some session => exact congrArg some (tagged session)
    · rw [if_neg same, Function.update_of_ne same]
  all_goals rfl

theorem tags_updateSession (imageId : Int) {change : ChatSession → ChatSession} {tagChange : SessionTag → SessionTag}
    (tagged : ∀ session, (change session).tag = tagChange session.tag) :
    (chat.updateSession imageId change).tags = chat.tags.change imageId tagChange :=
  chat.tags_changeEntry imageId tagged

theorem tags_updateSession_same (imageId : Int) {change : ChatSession → ChatSession}
    (tagged : ∀ session, (change session).tag = session.tag) : (chat.updateSession imageId change).tags = chat.tags := by
  have unchanged : (chat.updateSession imageId change).tags = chat.tags.change imageId id :=
    chat.tags_updateSession imageId tagged
  rw [unchanged]
  exact Tags.change_eq_self (by simp)

theorem tags_syncCurrentSession : chat.syncCurrentSession.tags = chat.tags.sync := by
  unfold Tags.sync
  change _ = match chat.shownIds with
    | none => chat.tags
    | some ids => chat.tags.change chat.tags.current fun _ => ⟨ids.1, ids.2, chat.tags.isLoading⟩
  cases shown : chat.shownIds with
  | none => rw [syncCurrentSession_of_none shown]
  | some ids =>
    rw [syncCurrentSession_of_some shown]
    exact chat.tags_updateSession chat.currentImageId fun _ => rfl

@[simp] theorem tags_setStatus (status : String) : (chat.setStatus status).tags = chat.tags.sync :=
  tags_syncCurrentSession { chat with statusLabel := status }

@[simp] theorem tags_setError (error : String) : (chat.setError error).tags = chat.tags.sync :=
  tags_syncCurrentSession { chat with errorLabel := error }

@[simp] theorem tags_appendMessage (speaker message : String) :
    (chat.appendMessage speaker message).tags = chat.tags.sync :=
  tags_syncCurrentSession { chat with transcript := transcriptWith chat.transcript speaker message }

@[simp] theorem tags_updateRefinementStatus (passIndex maxPasses : Nat) :
    (chat.updateRefinementStatus passIndex maxPasses).tags = chat.tags.sync :=
  tags_setStatus _ _

@[simp] theorem tags_setLoading (isLoading : Bool) : (chat.setLoading isLoading).tags = chat.tags.setLoading isLoading :=
  rfl

theorem tags_onSubmissionSession_same (submission : ChatSubmission) {change : ChatSession → ChatSession}
    (tagged : ∀ session, (change session).tag = session.tag) :
    (chat.onSubmissionSession submission change).tags = chat.tags := by
  unfold onSubmissionSession
  cases chat.submissionImage submission with
  | none => rfl
  | some imageId => exact chat.tags_updateSession_same imageId tagged

/-- The tag of the session that is switched to. -/
theorem tag_targetSession (uuid : Nat → String) (drawn : Nat) (imageId : Int) :
    (chat.targetSession uuid drawn imageId false).1.tag =
      (chat.tags.stored imageId).getD ⟨uuid drawn, uuid (drawn + 1), false⟩ := by
  unfold targetSession tags storedTag
  dsimp only
  cases chat.imageSessions.get? imageId <;> rfl

theorem tag_targetSession_force (uuid : Nat → String) (drawn : Nat) (imageId : Int) :
    (chat.targetSession uuid drawn imageId true).1.tag =
      { (chat.targetSession uuid drawn imageId false).1.tag with
        conversationId := uuid (chat.targetSession uuid drawn imageId false).2 } := by
  unfold targetSession
  dsimp only
  cases chat.imageSessions.get? imageId <;> rfl

theorem tags_switchToImageSession (coherent : chat.tags.Coherent) (uuid : Nat → String) (drawn : Nat) (imageId : Int)
    (forceNewChat : Bool) : (chat.switchToImageSession uuid drawn imageId forceNewChat).tags =
      chat.tags.opened imageId (chat.syncCurrentSession.targetSession uuid drawn imageId forceNewChat).1.tag := by
  have synced : chat.syncCurrentSession.tags = chat.tags :=
    chat.tags_syncCurrentSession.trans (Tags.sync_eq_self coherent)
  ext1
  case stored =>
    funext other
    rw [← synced]
    unfold switchToImageSession Tags.opened tags storedTag
    dsimp only [loadSession]
    rw [Dict.get?_set, Function.update_apply]
    split_ifs <;> rfl
  all_goals rfl

end AgentChat

/-- While both sides agree, labels change no tag. -/
theorem Labels.tags {before after : AgentChat} (labels : Labels before after) (coherent : before.tags.Coherent) :
    after.tags = before.tags := by
  ext1
  case current => exact labels.currentImageId
  case shown => exact labels.shownIds
  case isLoading => exact labels.isLoading
  case stored =>
    funext imageId
    change after.storedTag imageId = before.storedTag imageId
    -- on the current image the panel writes its own tag, which is the stored one already
    by_cases current : imageId = before.currentImageId
    · subst current
      rcases labels.stored with same | ⟨-, shown, copied⟩
      · exact same
      · obtain ⟨ids, isShown⟩ := Option.isSome_iff_exists.mp (Option.isSome_map ▸ shown)
        have agrees : before.storedTag before.currentImageId = some ⟨ids.1, ids.2, before.isLoading⟩ :=
          coherent ids isShown
        rw [copied, agrees, AgentChat.shownTag, isShown]
        rfl
    · unfold AgentChat.storedTag
      rw [labels.others imageId current]

section Panel

variable {κ ν W : Type} (host : Host κ ν W) {panel : Panel κ ν}

namespace Panel

theorem tags_cancelHandle : panel.cancelHandle.chat.tags = panel.chat.tags := by
  unfold cancelHandle
  cases panel.chat.active.handle <;> rfl

/-- A cancellation lowers the flags of the session that is shown. -/
theorem tags_cancelActiveRequest (coherent : panel.chat.tags.Coherent) (statusText stopReason : String) :
    (panel.cancelActiveRequest statusText stopReason).chat.tags = panel.chat.tags.flagged false := by
  have stopped : (panel.onCurrentSession fun session => { session with
      isLoading := false, refinementStopReason := some stopReason, statusText := statusText }).cancelHandle.chat.tags =
      panel.chat.tags.change panel.chat.tags.current (SessionTag.flag false) :=
    tags_cancelHandle.trans (AgentChat.tags_updateSession _ _ fun _ => rfl)
  have kept := congrArg Tags.isLoading stopped
  unfold cancelActiveRequest
  dsimp only [onChat]
  -- an idle panel lowers the stored flag only, and that is its own
  split_ifs with loading
  · rw [AgentChat.tags_setStatus, AgentChat.tags_setLoading, AgentChat.tags_setError, stopped]
    exact Tags.sync_lowered coherent
  · rw [stopped]
    have quiet : panel.chat.tags.isLoading = false := kept.symm.trans (Bool.eq_false_iff.mpr loading)
    unfold Tags.flagged Tags.setLoading
    rw [← quiet]

theorem tags_announceRequest (coherent : panel.chat.tags.Coherent) (shown : panel.chat.tags.shown.isSome = true)
    (arguments : SubmitArguments) : (panel.announceRequest arguments).chat.tags = panel.chat.tags.flagged true := by
  obtain ⟨told, isTold⟩ : ∃ told, (if arguments.appendUserMessage then
    panel.chat.appendMessage "you" arguments.message else panel.chat) = told := ⟨_, rfl⟩
  have same : told.tags = panel.chat.tags := by
    rw [← isTold]
    split
    · exact (Labels.appendMessage ..).tags coherent
    · rfl
  have announced : (panel.announceRequest arguments).chat.tags =
      (((told.setError "").setLoading true).updateRefinementStatus arguments.refinementPassIndex
        arguments.refinementMaxPasses).tags := by
    rw [← isTold]
    exact AgentChat.tags_updateSession_same _ _ fun _ => rfl
  rw [announced, AgentChat.tags_updateRefinementStatus, AgentChat.tags_setLoading, AgentChat.tags_setError, same,
    Tags.sync_eq_self coherent]
  exact Tags.sync_setLoading coherent shown true

theorem tags_abandonRequest (coherent : panel.chat.tags.Coherent) (shown : panel.chat.tags.shown.isSome = true)
    (message : String) : (panel.abandonRequest message).chat.tags = panel.chat.tags.flagged false := by
  have lowered : (panel.abandonRequest message).chat.tags = (panel.chat.tags.setLoading false).sync.sync.sync := by
    unfold abandonRequest handleTransportError
    dsimp only [onChat]
    rw [AgentChat.tags_appendMessage, AgentChat.tags_setStatus, AgentChat.tags_setError, AgentChat.tags_setLoading]
  have synced := Tags.sync_eq_self (Tags.coherent_flagged coherent false)
  rw [lowered, Tags.sync_setLoading coherent shown, synced, synced]

end Panel

end Panel

end DarktableAgent.Chat
