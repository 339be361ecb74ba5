import DarktableAgent.Chat.Confinement

/-! What the writing of labels changes.

A label, a line of the transcript or the state of a refinement is written on the session
that is shown, and everything that the panel shows is copied to its stored session along
with it. No other session is touched, and the ids and flags that are stored afterwards
are those of the session or those of the panel.
-/

set_option autoImplicit false

namespace DarktableAgent.Chat

open Foundation Protocol Client

/-- Whose session it is, and whether it waits for a response. -/
structure SessionTag where
  imageSessionId : String
  conversationId : String
  isLoading : Bool
  deriving DecidableEq, Repr

def ChatSession.tag (session : ChatSession) : SessionTag :=
  ⟨session.imageSessionId, session.conversationId, session.isLoading⟩

/-- The conversation that a session holds: its ids and its transcript. -/
def ChatSession.thread (session : ChatSession) : (String × String) × String :=
  ((session.imageSessionId, session.conversationId), session.transcript)

namespace AgentChat

variable (chat : AgentChat)

/-- The ids of the session that is shown, if one is. -/
def shownIds : Option (String × String) :=
  match chat.imageSessionId, chat.conversationId with
  | some imageSessionId, some conversationId => some (imageSessionId, conversationId)
  | _, _ => none

def shownTag : Option SessionTag := chat.shownIds.map fun ids => ⟨ids.1, ids.2, chat.isLoading⟩

def storedTag (imageId : Int) : Option SessionTag := (chat.imageSessions.get? imageId).map (·.tag)

def shownThread : Option ((String × String) × String) := chat.shownIds.map fun ids => (ids, chat.transcript)

/-- The stored session of the current image holds the conversation that is shown. -/
def Faithful : Prop :=
  ∀ thread ∈ chat.shownThread, ∀ session ∈ chat.imageSessions.get? chat.currentImageId, session.thread = thread

variable {chat}

theorem syncCurrentSession_of_none (unshown : chat.shownIds = none) : chat.syncCurrentSession = chat := by
  obtain ⟨currentImageId, conversationId, imageSessionId⟩ := chat
  cases conversationId <;> cases imageSessionId
  case some.some => cases unshown
  all_goals rfl

theorem syncCurrentSession_of_some {ids : String × String} (shown : chat.shownIds = some ids) :
    chat.syncCurrentSession = chat.updateSession chat.currentImageId (chat.storeInto ids.1 ids.2) := by
  obtain ⟨currentImageId, conversationId, imageSessionId⟩ := chat
  cases conversationId <;> cases imageSessionId
  case some.some =>
    obtain rfl := Option.some.inj shown
    rfl
  all_goals cases shown

theorem ids_of_shown {ids : String × String} (shown : chat.shownIds = some ids) :
    chat.imageSessionId = some ids.1 ∧ chat.conversationId = some ids.2 := by
  unfold shownIds at shown
  split at shown
  · rename_i isSession isConversation
    obtain rfl := Option.some.inj shown
    exact ⟨isSession, isConversation⟩
  · cases shown

theorem matchesCurrentSession_iff (submission : ChatSubmission) : chat.matchesCurrentSession submission = true ↔
    chat.shownIds = some (submission.imageSessionId, submission.conversationId) := by
  unfold matchesCurrentSession shownIds
  cases chat.imageSessionId <;> cases chat.conversationId <;> simp [and_comm]

theorem get?_updateSession (imageId other : Int) (change : ChatSession → ChatSession) :
    (chat.updateSession imageId change).imageSessions.get? other =
      if other = imageId then (chat.imageSessions.get? imageId).map change else chat.imageSessions.get? other :=
  get?_changeEntry ..

theorem Faithful.updateSession (faithful : chat.Faithful) {change : ChatSession → ChatSession}
    (threaded : ∀ session, (change session).thread = session.thread) (imageId : Int) :
    (chat.updateSession imageId change).Faithful := by
  intro thread shown session found
  change session ∈ (chat.updateSession imageId change).imageSessions.get? chat.currentImageId at found
  rw [get?_updateSession] at found
  split_ifs at found with current
  · obtain ⟨original, stored, rfl⟩ := Option.map_eq_some_iff.mp found
    rw [threaded]
    exact faithful thread shown original (current ▸ stored)
  · exact faithful thread shown session found

/-- What is shown has just been written back. -/
theorem faithful_syncCurrentSession (chat : AgentChat) : chat.syncCurrentSession.Faithful := by
  cases shown : chat.shownIds with
  | none =>
    rw [syncCurrentSession_of_none shown]
    intro thread isShown
    rw [shownThread, shown] at isShown
    cases isShown
  | some ids =>
    rw [syncCurrentSession_of_some shown]
    intro thread isShown session found
    change thread ∈ chat.shownThread at isShown
    change session ∈ (chat.updateSession chat.currentImageId (chat.storeInto ids.1 ids.2)).imageSessions.get?
      chat.currentImageId at found
    rw [get?_updateSession, if_pos rfl] at found
    rw [shownThread, shown] at isShown
    obtain rfl := Option.some.inj isShown
    obtain ⟨original, -, rfl⟩ := Option.map_eq_some_iff.mp found
    rfl

end AgentChat

/-- Labels, the transcript and the counters of the active request are written on the session that is shown. -/
structure Labels (before after : AgentChat) : Prop where
  currentImageId : after.currentImageId = before.currentImageId
  shownIds : after.shownIds = before.shownIds
  isLoading : after.isLoading = before.isLoading
  preferences : after.preferences = before.preferences
  others : ∀ imageId, imageId ≠ before.currentImageId →
    after.imageSessions.get? imageId = before.imageSessions.get? imageId
  stored : after.storedTag before.currentImageId = before.storedTag before.currentImageId ∨
    (before.storedTag before.currentImageId).isSome ∧ before.shownTag.isSome ∧
      after.storedTag before.currentImageId = before.shownTag
  faithful : before.Faithful → after.Faithful

namespace Labels

variable {first second third : AgentChat}

theorem refl (chat : AgentChat) : Labels chat chat := ⟨rfl, rfl, rfl, rfl, fun _ _ => rfl, .inl rfl, id⟩

theorem shownTag (labels : Labels first second) : second.shownTag = first.shownTag := by
  unfold AgentChat.shownTag
  rw [labels.shownIds, labels.isLoading]

theorem trans (before : Labels first second) (after : Labels second third) : Labels first third where
  currentImageId := after.currentImageId.trans before.currentImageId
  shownIds := after.shownIds.trans before.shownIds
  isLoading := after.isLoading.trans before.isLoading
  preferences := after.preferences.trans before.preferences
  others imageId other :=
    (after.others imageId (before.currentImageId ▸ other)).trans (before.others imageId other)
  stored := by
    have later := after.stored
    rw [before.currentImageId, before.shownTag] at later
    -- the later label decides what is stored, and copies what is shown all along
    rcases later with same | ⟨present, shown, copied⟩
    · rw [same]
      exact before.stored
    · rcases before.stored with earlier | ⟨earlier, -, -⟩
      · exact .inr ⟨earlier ▸ present, shown, copied⟩
      · exact .inr ⟨earlier, shown, copied⟩
  faithful := after.faithful ∘ before.faithful

/-- A change of the stored session that keeps ids, transcript and flag. -/
theorem of_update (chat : AgentChat) {change : ChatSession → ChatSession}
    (tagged : ∀ session, (change session).tag = session.tag)
    (threaded : ∀ session, (change session).thread = session.thread) :
    Labels chat (chat.updateSession chat.currentImageId change) where
  currentImageId := rfl
  shownIds := rfl
  isLoading := rfl
  preferences := rfl
  others imageId other := by rw [AgentChat.get?_updateSession, if_neg other]
  stored := by
    left
    unfold AgentChat.storedTag
    rw [AgentChat.get?_updateSession, if_pos rfl]
    cases chat.imageSessions.get? chat.currentImageId with
    | none => rfl
    | some session => exact congrArg some (tagged session)
  faithful faithful := faithful.updateSession threaded chat.currentImageId

theorem syncCurrentSession (chat : AgentChat) : Labels chat chat.syncCurrentSession := by
  cases shown : chat.shownIds with
  | none =>
    rw [AgentChat.syncCurrentSession_of_none shown]
    exact refl chat
  | some ids =>
    have written := AgentChat.faithful_syncCurrentSession chat
    rw [AgentChat.syncCurrentSession_of_some shown] at written ⊢
    refine ⟨rfl, rfl, rfl, rfl, fun imageId other => ?_, ?_, fun _ => written⟩
    · rw [AgentChat.get?_updateSession, if_neg other]
    -- only a session that is stored already is written
    · unfold AgentChat.storedTag AgentChat.shownTag
      rw [AgentChat.get?_updateSession, if_pos rfl, shown]
      cases chat.imageSessions.get? chat.currentImageId with
      | none => exact .inl rfl
      | some session => exact .inr ⟨rfl, rfl, rfl⟩

theorem setStatus (chat : AgentChat) (status : String) : Labels chat (chat.setStatus status) :=
  { syncCurrentSession { chat with statusLabel := status } with }

theorem setError (chat : AgentChat) (error : String) : Labels chat (chat.setError error) :=
  { syncCurrentSession { chat with errorLabel := error } with }

theorem appendMessage (chat : AgentChat) (speaker message : String) :
    Labels chat (chat.appendMessage speaker message) :=
  { syncCurrentSession { chat with transcript := transcriptWith chat.transcript speaker message } with
    faithful := fun _ => AgentChat.faithful_syncCurrentSession _ }

theorem updateRefinementStatus (chat : AgentChat) (passIndex maxPasses : Nat) :
    Labels chat (chat.updateRefinementStatus passIndex maxPasses) :=
  { setStatus { chat with active := { chat.active with
      refinementPassIndex := passIndex
      refinementMaxPasses := maxPasses } } (chat.refinementStatus maxPasses) with }

end Labels

section Panel

variable {κ ν W : Type} (host : Host κ ν W) (panel : Panel κ ν)

namespace Panel

theorem labels_showRefinement : Labels panel.chat panel.showRefinement.chat := Labels.updateRefinementStatus ..

theorem labels_armRender (progress : ClientProgress ν) : Labels panel.chat (panel.armRender progress).chat := by
  unfold armRender
  split
  · exact Labels.of_update _ (fun _ => rfl) fun _ => rfl
  · exact Labels.refl _

theorem labels_announceToolCall (progress : ClientProgress ν) (before : ActiveRequest) :
    Labels panel.chat (panel.announceToolCall host progress before).chat := by
  unfold announceToolCall onChat
  dsimp only
  split
  · exact Labels.refl _
  · split
    · split
      · exact Labels.refl _
      · exact Labels.appendMessage ..
    · exact Labels.refl _

theorem labels_handleTransportError (message : Option String) :
    Labels panel.chat (panel.handleTransportError message).chat :=
  ((Labels.setError ..).trans (Labels.setStatus ..)).trans (Labels.appendMessage ..)

theorem labels_appendSummary (report : ExecutionReport ν) :
    Labels panel.chat (panel.appendSummary host report).chat := by
  unfold appendSummary onChat
  dsimp only
  split
  · exact Labels.refl _
  · exact Labels.appendMessage ..

variable [Numeric ν]

theorem labels_applyRest (submission : ChatSubmission) (operations : List (ChatOperation ν)) :
    Labels panel.chat (panel.applyRest host submission operations).panel.chat := by
  have executed : Labels panel.chat (panel.afterExecution host submission operations).chat := Labels.refl _
  unfold applyRest
  dsimp only
  split
  · exact (executed.trans (labels_appendSummary ..)).trans (Labels.setStatus ..)
  · refine Labels.trans ?_ (Labels.appendMessage ..)
    refine Labels.trans ?_ (labels_appendSummary ..)
    exact executed.trans ((Labels.setError ..).trans (Labels.setStatus ..))

theorem labels_handleResponse (submission : ChatSubmission) (response : ChatResponse ν) (applied : Nat) :
    Labels panel.chat (panel.handleResponse host submission response applied).panel.chat := by
  obtain ⟨told, isTold⟩ : ∃ told, (panel.onChat fun chat => if response.messageText = "" then chat
    else chat.appendMessage "assistant" response.messageText) = told := ⟨_, rfl⟩
  have labels : Labels panel.chat told.chat := by
    rw [← isTold]
    unfold onChat
    dsimp only
    split
    · exact Labels.refl _
    · exact Labels.appendMessage ..
  unfold handleResponse
  rw [isTold]
  dsimp only
  split_ifs
  · exact labels.trans ((Labels.setError ..).trans (Labels.setStatus ..))
  · exact labels.trans (Labels.setStatus ..)
  · exact labels.trans (labels_applyRest ..)

end Panel

end Panel

end DarktableAgent.Chat
