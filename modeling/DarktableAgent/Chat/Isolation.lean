import DarktableAgent.Chat.Belonging

/-! What one image's session shows of the others.

An action works on the session that is shown, a result on the session it was requested
for. A session that was left is found again as it was, with what its own results said
since.
-/

set_option autoImplicit false

namespace DarktableAgent.Chat

open Foundation Protocol Client

section Sessions

namespace AgentChat

variable {chat : AgentChat}

/-- A switch touches the session that was shown, and makes the session that is shown next if there is none. -/
theorem mem_switchToImageSession (uuid : Nat → String) (drawn : Nat) {imageId target : Int} {forceNewChat : Bool}
    (other : imageId ≠ chat.currentImageId) (spared : imageId ≠ target ∨ forceNewChat = false) {session : ChatSession}
    (stored : session ∈ chat.imageSessions.get? imageId) :
    session ∈ (chat.switchToImageSession uuid drawn target forceNewChat).imageSessions.get? imageId := by
  have synced : chat.syncCurrentSession.imageSessions.get? imageId = chat.imageSessions.get? imageId :=
    (Labels.syncCurrentSession chat).others imageId other
  rw [← synced] at stored
  rw [get?_switchToImageSession]
  split_ifs with same
  · obtain rfl : forceNewChat = false := spared.resolve_left (absurd same)
    subst same
    rw [targetSession_of_stored _ stored]
    rfl
  · exact stored

theorem faithful_switchToImageSession (chat : AgentChat) (uuid : Nat → String) (drawn : Nat) (target : Int)
    (forceNewChat : Bool) : (chat.switchToImageSession uuid drawn target forceNewChat).Faithful := by
  rintro thread ⟨⟩ session stored
  have opened := chat.get?_switchToImageSession uuid drawn target forceNewChat target
  rw [if_pos rfl] at opened
  obtain rfl := Option.some.inj (opened.symm.trans stored)
  rfl

end AgentChat

/-- A session with a conversation and settings is stored for an image. -/
def Holds (chat : AgentChat) (imageId : Int) (thread : (String × String) × String) (settings : Preferences) : Prop :=
  ∃ session ∈ chat.imageSessions.get? imageId, session.thread = thread ∧ session.settings = settings

/-- A session is shown with its conversation and its settings. -/
def Shows (chat : AgentChat) (thread : (String × String) × String) (settings : Preferences) : Prop :=
  chat.shownThread = some thread ∧ chat.preferences = settings

theorem Shows.isSome_shownIds {chat : AgentChat} {thread : (String × String) × String} {settings : Preferences}
    (seen : Shows chat thread settings) : chat.shownIds.isSome := by
  have shown : (chat.shownIds.map fun ids => (ids, chat.transcript)).isSome := by
    rw [show chat.shownIds.map (fun ids => (ids, chat.transcript)) = some thread from seen.1]
    rfl
  rwa [Option.isSome_map] at shown

section Switches

variable {chat : AgentChat} {thread : (String × String) × String} {settings : Preferences}

/-- What is shown is written back before the switch. -/
theorem holds_syncCurrentSession (keyed : Keyed chat) (positive : 0 < chat.preferences.maxRefinementPasses)
    (seen : Shows chat thread settings) : Holds chat.syncCurrentSession chat.currentImageId thread settings := by
  obtain ⟨isShown, rfl⟩ := seen
  obtain ⟨ids, shown, rfl⟩ := Option.map_eq_some_iff.mp isShown
  obtain ⟨session, stored, -⟩ := Option.map_eq_some_iff.mp (keyed ids shown)
  -- the stored session takes everything over from the one that is shown, its turn limit as at least one
  refine ⟨chat.storeInto ids.1 ids.2 session, ?_, rfl, ?_⟩
  · rw [AgentChat.syncCurrentSession_of_some shown, AgentChat.get?_updateSession, if_pos rfl, stored]
    rfl
  · have limit : max 1 chat.maxRefinementPasses = chat.preferences.maxRefinementPasses := by
      unfold AgentChat.maxRefinementPasses
      rw [if_neg positive.ne']
      omega
    unfold AgentChat.storeInto ChatSession.settings
    dsimp only
    rw [limit]

/-- The session that is left is stored as it was shown. -/
theorem holds_left (keyed : Keyed chat) (positive : 0 < chat.preferences.maxRefinementPasses)
    (seen : Shows chat thread settings) (uuid : Nat → String) (drawn : Nat) {target : Int} (forceNewChat : Bool)
    (left : target ≠ chat.currentImageId) :
    Holds (chat.switchToImageSession uuid drawn target forceNewChat) chat.currentImageId thread settings := by
  obtain ⟨session, stored, same⟩ := holds_syncCurrentSession keyed positive seen
  refine ⟨session, ?_, same⟩
  rw [chat.get?_switchToImageSession, if_neg left.symm]
  exact stored

/-- The session that is switched to is shown as it is stored. -/
theorem shows_switchToImageSession (uuid : Nat → String) (drawn : Nat) {target : Int}
    (holds : Holds chat.syncCurrentSession target thread settings) :
    Shows (chat.switchToImageSession uuid drawn target false) thread settings := by
  obtain ⟨session, stored, rfl, rfl⟩ := holds
  unfold AgentChat.switchToImageSession
  dsimp only
  rw [AgentChat.targetSession_of_stored _ stored]
  exact ⟨rfl, rfl⟩

theorem Holds.works {before after : AgentChat} {imageId : Int} (holds : Holds before imageId thread settings)
    (works : Works before after) (other : imageId ≠ before.currentImageId) : Holds after imageId thread settings := by
  obtain ⟨session, stored, same⟩ := holds
  exact ⟨session, by rw [works.others imageId other]; exact stored, same⟩

end Switches

end Sessions

section Effects

/-- The number of turns is never zero where a session is shown. -/
def Limited (chat : AgentChat) : Prop := chat.shownIds.isSome → 0 < chat.preferences.maxRefinementPasses

/-- What happens concerns the current image only. -/
structure Stays (before after : AgentChat) : Prop where
  currentImageId : after.currentImageId = before.currentImageId
  others : ∀ imageId, imageId ≠ before.currentImageId →
    after.imageSessions.get? imageId = before.imageSessions.get? imageId
  faithful : before.Faithful → after.Faithful
  limited : Limited before → Limited after

namespace Stays

variable {first second third : AgentChat}

theorem refl (chat : AgentChat) : Stays chat chat := ⟨rfl, fun _ _ => rfl, id, id⟩

theorem trans (before : Stays first second) (after : Stays second third) : Stays first third where
  currentImageId := after.currentImageId.trans before.currentImageId
  others imageId other :=
    (after.others imageId (before.currentImageId ▸ other)).trans (before.others imageId other)
  faithful := after.faithful ∘ before.faithful
  limited := after.limited ∘ before.limited

theorem of_works (works : Works first second) : Stays first second where
  currentImageId := works.currentImageId
  others := works.others
  faithful := works.faithful
  limited limited shown := by
    rw [works.preferences]
    exact limited (works.shownIds ▸ shown)

end Stays

/-- The session that is shown is shown with the same conversation and the same settings. -/
structure Steady (before after : AgentChat) : Prop where
  currentImageId : after.currentImageId = before.currentImageId
  shownThread : after.shownThread = before.shownThread
  preferences : before.shownIds.isSome → after.preferences = before.preferences
  others : ∀ imageId, imageId ≠ before.currentImageId →
    after.imageSessions.get? imageId = before.imageSessions.get? imageId
  keyed : Keyed before → Keyed after

namespace Steady

variable {before after : AgentChat} {thread : (String × String) × String} {settings : Preferences}

theorem refl (chat : AgentChat) : Steady chat chat := ⟨rfl, rfl, fun _ => rfl, fun _ _ => rfl, id⟩

theorem shownIds (steady : Steady before after) : after.shownIds = before.shownIds := by
  have ids : ∀ chat : AgentChat, chat.shownIds = chat.shownThread.map (·.1) := by
    intro chat
    rw [AgentChat.shownThread, Option.map_map]
    exact Option.map_id'.symm
  rw [ids, steady.shownThread, ← ids]

theorem limited (steady : Steady before after) (limited : Limited before) : Limited after := by
  intro shown
  rw [steady.shownIds] at shown
  rw [steady.preferences shown]
  exact limited shown

theorem seen (steady : Steady before after) (seen : Shows before thread settings) : Shows after thread settings := by
  have shown := seen.isSome_shownIds
  exact ⟨steady.shownThread.trans seen.1, (steady.preferences shown).trans seen.2⟩

end Steady

/-- The session of an image is opened, and worked on. -/
structure Switched (uuid : Nat → String) (target : Int) (forceNewChat : Bool) (before after : AgentChat) : Prop where
  through : ∃ middle drawn, Steady before middle ∧
    Works (middle.switchToImageSession uuid drawn target forceNewChat) after

namespace Switched

variable {uuid : Nat → String} {target : Int} {forceNewChat : Bool} {before after : AgentChat}

theorem currentImageId (switched : Switched uuid target forceNewChat before after) : after.currentImageId = target := by
  obtain ⟨middle, drawn, -, works⟩ := switched.through
  exact works.currentImageId

theorem faithful (switched : Switched uuid target forceNewChat before after) : after.Faithful := by
  obtain ⟨middle, drawn, -, works⟩ := switched.through
  exact works.faithful (AgentChat.faithful_switchToImageSession middle uuid drawn target forceNewChat)

theorem limited (switched : Switched uuid target forceNewChat before after) : Limited after := by
  obtain ⟨middle, drawn, -, works⟩ := switched.through
  refine (Stays.of_works works).limited fun _ => ?_
  exact Nat.lt_of_lt_of_le Nat.one_pos (le_max_left 1 _)

/-- Opening the current session again changes no other. -/
theorem stays (switched : Switched uuid target forceNewChat before after) (here : target = before.currentImageId) :
    Stays before after where
  currentImageId := switched.currentImageId.trans here
  others imageId other := by
    obtain ⟨middle, drawn, steady, works⟩ := switched.through
    have elsewhere : imageId ≠ target := here ▸ other
    rw [works.others imageId elsewhere, middle.get?_switchToImageSession, if_neg elsewhere,
      (Labels.syncCurrentSession middle).others imageId (steady.currentImageId ▸ other), steady.others imageId other]
  faithful _ := switched.faithful
  limited _ := switched.limited

theorem mem (switched : Switched uuid target forceNewChat before after) {imageId : Int}
    (other : imageId ≠ before.currentImageId) (elsewhere : imageId ≠ target) {session : ChatSession}
    (stored : session ∈ before.imageSessions.get? imageId) : session ∈ after.imageSessions.get? imageId := by
  obtain ⟨middle, drawn, steady, works⟩ := switched.through
  rw [works.others imageId elsewhere]
  refine AgentChat.mem_switchToImageSession uuid drawn (steady.currentImageId ▸ other) (.inl elsewhere) ?_
  rw [steady.others imageId other]
  exact stored

variable {thread : (String × String) × String} {settings : Preferences}

/-- The session that is left is stored as it was shown. -/
theorem holds_left (switched : Switched uuid target forceNewChat before after) (keyed : Keyed before)
    (limited : Limited before) (seen : Shows before thread settings) (left : target ≠ before.currentImageId) :
    Holds after before.currentImageId thread settings := by
  obtain ⟨middle, drawn, steady, works⟩ := switched.through
  have seenThen := steady.seen seen
  have leftThen : target ≠ middle.currentImageId := steady.currentImageId ▸ left
  have holds := Chat.holds_left (steady.keyed keyed) (steady.limited limited seenThen.isSome_shownIds) seenThen uuid drawn
    forceNewChat leftThen
  rw [steady.currentImageId] at holds
  exact holds.works works left.symm

end Switched

/-- The session of an image is opened, and nothing else happens. -/
structure Reopened (uuid : Nat → String) (target : Int) (before after : AgentChat) : Prop where
  through : ∃ middle drawn, Steady before middle ∧ after = middle.switchToImageSession uuid drawn target false

namespace Reopened

variable {uuid : Nat → String} {target : Int} {before after : AgentChat}
variable {thread : (String × String) × String} {settings : Preferences}

theorem switched (reopened : Reopened uuid target before after) : Switched uuid target false before after := by
  obtain ⟨middle, drawn, steady, rfl⟩ := reopened.through
  exact ⟨middle, drawn, steady, .refl _⟩

/-- No session of another image changes, not even the one that is opened. -/
theorem mem (reopened : Reopened uuid target before after) {imageId : Int} (other : imageId ≠ before.currentImageId)
    {session : ChatSession} (stored : session ∈ before.imageSessions.get? imageId) :
    session ∈ after.imageSessions.get? imageId := by
  obtain ⟨middle, drawn, steady, rfl⟩ := reopened.through
  refine AgentChat.mem_switchToImageSession uuid drawn (steady.currentImageId ▸ other) (.inr rfl) ?_
  rw [steady.others imageId other]
  exact stored

/-- The session that is returned to is shown as it is stored. -/
theorem shows_stored (reopened : Reopened uuid target before after) (other : target ≠ before.currentImageId)
    (holds : Holds before target thread settings) : Shows after thread settings := by
  obtain ⟨middle, drawn, steady, rfl⟩ := reopened.through
  obtain ⟨session, stored, same⟩ := holds
  refine shows_switchToImageSession uuid drawn ⟨session, ?_, same⟩
  rw [(Labels.syncCurrentSession middle).others target (steady.currentImageId ▸ other), steady.others target other]
  exact stored

/-- The session that is shown is shown again. -/
theorem shows_again (reopened : Reopened uuid target before after) (keyed : Keyed before) (limited : Limited before)
    (here : target = before.currentImageId) (seen : Shows before thread settings) : Shows after thread settings := by
  obtain ⟨middle, drawn, steady, rfl⟩ := reopened.through
  have seenThen := steady.seen seen
  have holds := holds_syncCurrentSession (steady.keyed keyed) (steady.limited limited seenThen.isSome_shownIds) seenThen
  refine shows_switchToImageSession uuid drawn ?_
  rw [here, ← steady.currentImageId]
  exact holds

end Reopened

end Effects

section Steps

variable {κ ν W : Type} [Numeric ν] (host : Host κ ν W)

/-- The result that an event delivers. -/
def Panel.nextResult (panel : Panel κ ν) : Event κ ν → Option (ChatSubmission × ClientResult ν)
  | .dispatch _ =>
    match panel.queue with
    | .result submission result :: _ => some (submission, result)
    | _ => none
  | _ => none

/-- The submission whose callback runs. -/
def Panel.called (panel : Panel κ ν) : Event κ ν → Option ChatSubmission
  | .dispatch _ => panel.queue.head?.map (·.submission)
  | _ => none

/-- The event shows the session of the image in the darkroom, and does nothing else to it. -/
def Event.switches : Event κ ν → Bool
  | .imageChanged .. | .enter .. => true
  | _ => false

/-- The settings that a result records are those of a session. -/
def SameSettings (submission : ChatSubmission) (result : ClientResult ν) (settings : Preferences) : Prop :=
  submission.fastModeEnabled = settings.fastModeEnabled ∧
    ∀ response ∈ result.response, response.refinementEnabled = settings.multiTurnEnabled ∧
      max 1 response.refinementMaxPasses = settings.maxRefinementPasses

/-- A result that comes for another session than the one that is shown records the settings this session has. A
result that comes for the session that is shown has nothing to say while the darkroom is hidden. No snapshot is taken
that belongs to another session. -/
def DeliveredApart (panel : Panel κ ν) : Delivery ν → Prop
  | .result submission result =>
    if submission.imageId = panel.chat.currentImageId then panel.defers host submission result → result.messages = []
    else ∀ session ∈ panel.chat.imageSessions.get? submission.imageId, SameSettings submission result session.settings
  | .progress origin progress =>
    origin.imageId ≠ panel.chat.currentImageId → panel.chat.ignoresProgress ∨ passedOver progress

/-- The darkroom is entered with the settings that are shown, and callbacks are delivered apart. -/
def KeptApart (panel : Panel κ ν) : Event κ ν → Prop
  | .enter .. => panel.chat.shownIds.isSome → panel.chat.preferences = panel.configured.loaded
  | .dispatch _ => ∀ delivery ∈ panel.queue.head?, DeliveredApart host panel delivery
  | _ => True

instance (submission : ChatSubmission) (result : ClientResult ν) (settings : Preferences) :
    Decidable (SameSettings submission result settings) := inferInstanceAs (Decidable (_ ∧ _))

instance (panel : Panel κ ν) : ∀ delivery, Decidable (DeliveredApart host panel delivery)
  | .result submission result => inferInstanceAs (Decidable (ite (submission.imageId = panel.chat.currentImageId)
      (panel.defers host submission result → result.messages = [])
      (∀ session ∈ panel.chat.imageSessions.get? submission.imageId, SameSettings submission result session.settings)))
  | .progress origin progress => inferInstanceAs (Decidable (origin.imageId ≠ panel.chat.currentImageId →
      panel.chat.ignoresProgress ∨ passedOver progress))

instance (panel : Panel κ ν) : ∀ event, Decidable (KeptApart host panel event)
  | .enter .. => inferInstanceAs (Decidable (panel.chat.shownIds.isSome → panel.chat.preferences = panel.configured.loaded))
  | .dispatch _ => inferInstanceAs (Decidable (∀ delivery ∈ panel.queue.head?, DeliveredApart host panel delivery))
  | .submit .. | .cancel | .newChat | .multiTurnToggled _ | .maxTurnsChanged _ | .fastModeToggled _
  | .imageChanged .. | .leave | .edit _ | .streamed .. | .ended .. => inferInstanceAs (Decidable True)

/-- A step works on the session that is shown or switched to, and a callback on the session of its request. -/
structure Isolated (panel : Panel κ ν) (event : Event κ ν) : Prop where
  others : ∀ imageId, imageId ≠ panel.chat.currentImageId →
    imageId ≠ (step host panel event).chat.currentImageId ∨ event.switches →
    (∀ submission ∈ panel.called event, submission.imageId ≠ imageId) →
    ∀ session ∈ panel.chat.imageSessions.get? imageId,
      session ∈ (step host panel event).chat.imageSessions.get? imageId
  called : ∀ submission ∈ panel.called event, submission.imageId ≠ panel.chat.currentImageId →
    { (step host panel event).chat with
        imageSessions := panel.chat.imageSessions
        active := panel.chat.active } = panel.chat ∧
      (step host panel event).chat.imageSessions.get? panel.chat.currentImageId =
        panel.chat.imageSessions.get? panel.chat.currentImageId
  reopened : event.switches → (step host panel event).chat.currentImageId = panel.chat.currentImageId →
    ∀ thread settings, Shows panel.chat thread settings → Shows (step host panel event).chat thread settings

/-- What is said to the session of an image while another one is shown. -/
def Panel.heard (panel : Panel κ ν) (imageId : Int) (event : Event κ ν) : List String :=
  match panel.nextResult event with
  | some (submission, result) =>
    if submission.imageId = imageId ∧ panel.defers host submission result then result.messages else []
  | none => []

def heardSince (imageId : Int) : Panel κ ν → List (Event κ ν) → List String
  | _, [] => []
  | panel, event :: rest => panel.heard host imageId event ++ heardSince imageId (step host panel event) rest

/-- A session that was left for others is shown again as it was, with what its own results said since. -/
def Restored (left : Panel κ ν) (leaving : Event κ ν) (away : List (Event κ ν)) (returning : Event κ ν) : Prop :=
  ∀ ids settings transcript, Shows left.chat (ids, transcript) settings →
    EveryStep (step host) (fun panel _ => panel.chat.currentImageId ≠ left.chat.currentImageId)
      (step host left leaving) (away ++ [returning]) →
    returning.switches →
    (run (step host) left (leaving :: (away ++ [returning]))).chat.currentImageId = left.chat.currentImageId →
    Shows (run (step host) left (leaving :: (away ++ [returning]))).chat
      (ids, transcriptSince transcript (heardSince host left.chat.currentImageId (step host left leaving) away)) settings

end Steps

section Invariant

variable {κ ν W : Type} (host : Host κ ν W)

/-- The panel shows what is stored for the current image, and its settings can be stored. -/
structure Apart (panel : Panel κ ν) : Prop extends Wired host panel, Filed host panel where
  faithful : panel.chat.Faithful
  limited : Limited panel.chat

variable {host} {panel : Panel κ ν}

theorem steady_cancelActiveRequest (keyed : Keyed panel.chat) (statusText stopReason : String) :
    Steady panel.chat (panel.cancelActiveRequest statusText stopReason).chat := by
  have works := panel.works_cancelActiveRequest statusText stopReason
  refine ⟨works.currentImageId, ?_, fun _ => works.preferences, works.others, (works.sameKeys keyed).keyed⟩
  have same : (panel.cancelActiveRequest statusText stopReason).chat.transcript = panel.chat.transcript := by
    have stopped : ∀ panel : Panel κ ν, panel.cancelHandle.chat.transcript = panel.chat.transcript := by
      intro panel
      unfold Panel.cancelHandle
      cases panel.chat.active.handle <;> rfl
    unfold Panel.cancelActiveRequest
    dsimp only [Panel.onChat]
    split
    · exact stopped _
    · exact stopped _
  rw [AgentChat.shownThread, AgentChat.shownThread, works.shownIds, same]

theorem switched_submitInternal (arguments : SubmitArguments) (outcome : SubmitOutcome) :
    Switched host.uuid panel.develop.currentImageId false panel.chat
      (panel.submitInternal host arguments outcome).panel.chat := by
  refine ⟨panel.chat, panel.uuidsDrawn, .refl _, ?_⟩
  change Works (panel.reopened host).chat _
  rcases panel.submitInternal_paths host arguments outcome with refused | ⟨-, ⟨message, abandoned⟩ | started⟩
  · rw [refused]
    exact .refl _
  · rw [abandoned]
    exact (Panel.works_announceRequest ..).trans (Panel.works_abandonRequest ..)
  · rw [started]
    exact (Panel.works_announceRequest ..).trans { Works.refl _ with }

variable (host panel) in
/-- What a step makes of the sessions: it works on the current one, opens another one, or files a result. -/
inductive Effect (event : Event κ ν) (after : AgentChat) : Prop where
  | stays (stays : Stays panel.chat after)
      (called : ∀ submission ∈ panel.called event, submission.imageId = panel.chat.currentImageId ∨ after = panel.chat)
      (delivered : ∀ delivery ∈ panel.nextResult event, delivery.1.imageId = panel.chat.currentImageId)
      (switches : event.switches → after = panel.chat)
  | opens {target : Int} {forceNewChat : Bool} (uncalled : panel.called event = none) (acts : event.switches = false)
      (switched : Switched host.uuid target forceNewChat panel.chat after)
  | reopens {target : Int} (uncalled : panel.called event = none)
      (reopened : Reopened host.uuid target panel.chat after)
  | files {submission : ChatSubmission} {result : ClientResult ν} {change : ChatSession → ChatSession}
      (delivered : panel.nextResult event = some (submission, result))
      (filed : FiledAt panel.chat after submission.imageId change)
      (thread : ∀ session, (change session).thread =
        (session.thread.1, transcriptSince session.transcript (panel.heard host submission.imageId event)))
      (here : submission.imageId = panel.chat.currentImageId → panel.heard host submission.imageId event = [])
      (settings : submission.imageId ≠ panel.chat.currentImageId →
        ∀ session ∈ panel.chat.imageSessions.get? submission.imageId, (change session).settings = session.settings)

/-- A step that calls no request's function works on the session that is shown. -/
theorem Effect.of_stays {event : Event κ ν} {after : AgentChat} (uncalled : panel.called event = none)
    (delivered : panel.nextResult event = none) (acts : event.switches = false) (stays : Stays panel.chat after) :
    Effect host panel event after := by
  refine .stays stays ?_ ?_ ?_
  · rw [uncalled]
    exact fun _ called => nomatch called
  · rw [delivered]
    exact fun _ next => nomatch next
  · rw [acts]
    exact nofun

theorem stays_setPreferences {change : Preferences → Preferences}
    (positive : ∀ chosen, 0 < chosen.maxRefinementPasses → 0 < (change chosen).maxRefinementPasses) :
    Stays panel.chat (panel.setPreferences change).chat where
  currentImageId := rfl
  others := (Labels.syncCurrentSession { panel.chat with preferences := change panel.chat.preferences }).others
  faithful _ := AgentChat.faithful_syncCurrentSession _
  limited limited shown := positive _ (limited shown)

theorem settings_recordResult {submission : ChatSubmission} {result : ClientResult ν} {session : ChatSession}
    (same : SameSettings submission result session.settings) :
    (recordResult submission result session).settings = session.settings := by
  obtain ⟨fast, recorded⟩ := same
  unfold recordResult
  cases answered : result.response with
  | none =>
    unfold ChatSession.settings at fast ⊢
    simp_all
  | some response =>
    obtain ⟨enabled, passes⟩ := recorded response answered
    unfold ChatSession.settings at fast enabled passes ⊢
    simp_all

theorem effect_imageChanged (apart : Apart host panel) (imageId : Int) (content : κ) :
    Effect host panel (.imageChanged imageId content) (panel.imageChanged host imageId content).chat := by
  unfold Panel.imageChanged
  dsimp only
  split
  · refine .reopens rfl ⟨_, _, ?_, rfl⟩
    have replaced : Keyed { panel with develop := { panel.develop with imageId, content } }.chat := apart.keyed
    exact steady_cancelActiveRequest replaced "Request canceled" "image-changed"
  · exact .stays (.refl _) (fun _ called => nomatch called) (fun _ next => nomatch next) fun _ => rfl

theorem effect_enter (imageId : Int) (content : κ) (kept : KeptApart host panel (.enter imageId content)) :
    Effect host panel (.enter imageId content) (panel.enter host imageId content).chat :=
  .reopens rfl ⟨{ panel.chat with preferences := panel.configured.loaded }, panel.uuidsDrawn,
    ⟨rfl, rfl, fun shown => (kept shown).symm, fun _ _ => rfl, fun keyed => keyed⟩, rfl⟩

theorem called_of_nextResult {event : Event κ ν} {delivery : ChatSubmission × ClientResult ν}
    (next : panel.nextResult event = some delivery) : panel.called event = some delivery.1 := by
  cases event with
  | dispatch outcome =>
    unfold Panel.nextResult at next
    unfold Panel.called
    dsimp only at next
    split at next
    · rename_i queue
      obtain rfl := Option.some.inj next
      rw [queue]
      rfl
    · cases next
  | _ => cases next

theorem heard_eq_nil {imageId : Int} {event : Event κ ν}
    (unheard : ∀ delivery ∈ panel.nextResult event, delivery.1.imageId ≠ imageId) :
    panel.heard host imageId event = [] := by
  unfold Panel.heard
  cases next : panel.nextResult event with
  | none => rfl
  | some delivery => exact if_neg fun said => unheard delivery next said.1

variable [Numeric ν]

variable (host) in
/-- A snapshot works on the session that is shown. -/
theorem works_progressFinished (panel : Panel κ ν) (origin : ChatSubmission) (progress : ClientProgress ν) :
    Works panel.chat (panel.progressFinished host origin progress).chat := by
  rcases panel.progressFinished_paths host origin progress with writes | ⟨-, -, -, middle, writes, same⟩
  · exact .of_labels writes.labels
  · rw [same]
    exact (Works.of_labels writes.labels).trans (Panel.works_cancelActiveRequest ..)

/-- A result of the conversation that is shown may be followed by the next request of its session. -/
theorem stays_requestFinished (apart : Apart host panel) {submission : ChatSubmission} (result : ClientResult ν)
    (outcome : SubmitOutcome) (addressed : Addressed panel.chat submission)
    (matched : panel.chat.matchesCurrentSession submission = true)
    (silent : panel.defers host submission result → result.messages = []) :
    Stays panel.chat (panel.requestFinished host submission result outcome).chat := by
  have here := addressed.current apart.keyed matched
  obtain ⟨told, sent, rests, hidden, resubmits, last, works⟩ :=
    panel.requestFinished_matched result host addressed apart.keyed matched outcome
  have worksTold : Works panel.chat told.chat := by
    rcases works with works | ⟨deferred, middle, works, filed⟩
    · exact works
    · rw [here, ← works.currentImageId] at filed
      refine works.trans (filed.works fun session => ?_)
      rw [thread_hiddenOutcome, silent deferred]
      rfl
  have toldStays := Stays.of_works worksTold
  refine Stays.trans ?_ (.of_works (.of_labels last.labels))
  -- the next pass is submitted for the image in the darkroom, which is the current one while it is visible
  rcases resubmits with same | ⟨arguments, next, same⟩
  · rw [same]
    exact toldStays
  · cases visible : panel.develop.visible with
    | false =>
      rw [hidden visible]
      exact toldStays
    | true =>
      have image : told.develop.currentImageId = told.chat.currentImageId := by
        have sameImage : told.develop.currentImageId = panel.develop.currentImageId := by
          unfold Develop.currentImageId
          rw [rests.imageId]
        rw [sameImage, worksTold.currentImageId]
        exact apart.shown visible
      rw [same]
      exact toldStays.trans ((switched_submitInternal arguments next).stays image)

theorem effect_dispatch (apart : Apart host panel) (outcome : SubmitOutcome)
    (kept : KeptApart host panel (.dispatch outcome)) :
    Effect host panel (.dispatch outcome) (panel.dispatch host outcome).chat := by
  unfold Panel.dispatch
  cases queue : panel.queue with
  | nil =>
    refine .of_stays ?_ ?_ rfl (.refl _)
    · unfold Panel.called
      rw [queue]
      rfl
    · unfold Panel.nextResult
      rw [queue]
  | cons delivery rest =>
    have called : panel.called (.dispatch outcome) = some delivery.submission := by
      unfold Panel.called
      rw [queue]
      rfl
    have apartNow : DeliveredApart host panel delivery := kept delivery (by rw [queue]; rfl)
    cases delivery with
    | progress origin progress =>
      have works := works_progressFinished host { panel with queue := rest } origin progress
      refine .stays (.of_works works) ?_ ?_ nofun
      · rw [called]
        rintro _ ⟨⟩
        by_cases here : origin.imageId = panel.chat.currentImageId
        · exact .inl here
        · right
          dsimp only
          unfold Panel.progressFinished
          rw [if_pos (apartNow here)]
      · unfold Panel.nextResult
        rw [queue]
        exact fun _ next => nomatch next
    | result submission result =>
      unfold DeliveredApart at apartNow
      dsimp only at apartNow
      have next : panel.nextResult (.dispatch outcome) = some (submission, result) := by
        unfold Panel.nextResult
        rw [queue]
      have heard : panel.heard host submission.imageId (.dispatch outcome) =
          if panel.defers host submission result then result.messages else [] := by
        unfold Panel.heard
        rw [next]
        simp
      obtain ⟨transfer, known, same⟩ :=
        apart.queued (.result submission result) (by rw [queue]; exact List.mem_cons_self)
      have addressed := apart.addressed (List.mem_map.mpr ⟨transfer, known, same⟩)
      have dequeued : Apart host { panel with queue := rest } :=
        { apart.toWired.dequeued queue, apart.toFiled with faithful := apart.faithful, limited := apart.limited }
      dsimp only [Delivery.submission] at addressed
      -- a result of another conversation is filed, whether its session is the current one or not
      cases matched : panel.chat.matchesCurrentSession submission with
      | true =>
        have here := addressed.current apart.keyed matched
        rw [if_pos here] at apartNow
        refine .stays (stays_requestFinished dequeued result outcome addressed matched apartNow) ?_ ?_ nofun
        · rw [called]
          rintro _ ⟨⟩
          exact .inl here
        · rw [next]
          rintro _ ⟨⟩
          exact here
      | false =>
        obtain ⟨-, ⟨undeferred, change, keeps, filed⟩ | ⟨deferred, filed⟩⟩ :=
          ({ panel with queue := rest } : Panel κ ν).requestFinished_unmatched result host addressed matched outcome
        · rw [show panel.defers host submission result = false from undeferred, if_neg Bool.false_ne_true] at heard
          refine .files next filed ?_ ?_ ?_
          · intro session
            rw [heard]
            exact (keeps _).1.trans (thread_recordResult submission result session)
          · exact fun _ => heard
          · intro elsewhere session stored
            rw [if_neg elsewhere] at apartNow
            exact (keeps _).2.1.trans (settings_recordResult (apartNow session stored))
        · rw [if_pos (show panel.defers host submission result = true from deferred)] at heard
          refine .files next filed ?_ ?_ ?_
          · intro session
            have recorded := thread_recordResult submission result session
            rw [heard, Function.comp_apply, thread_hiddenOutcome, recorded]
            exact congrArg (fun thread => (session.thread.1, transcriptSince thread.2 result.messages)) recorded
          · intro here
            rw [if_pos here] at apartNow
            exact heard.trans (apartNow deferred)
          · intro elsewhere session stored
            rw [if_neg elsewhere] at apartNow
            exact (settings_hiddenOutcome result _).1.trans (settings_recordResult (apartNow session stored))

theorem effect_step (apart : Apart host panel) (event : Event κ ν) (kept : KeptApart host panel event) :
    Effect host panel event (step host panel event).chat := by
  cases event with
  | submit prompt outcome => exact .opens rfl rfl (switched_submitInternal _ outcome)
  | cancel => exact .of_stays rfl rfl rfl (.of_works (panel.works_cancelActiveRequest ..))
  | newChat =>
    exact .opens rfl rfl ⟨_, _, steady_cancelActiveRequest apart.keyed "Request canceled" "new-chat", .refl _⟩
  | multiTurnToggled enabled => exact .of_stays rfl rfl rfl (stays_setPreferences fun _ positive => positive)
  | maxTurnsChanged turns =>
    exact .of_stays rfl rfl rfl (stays_setPreferences fun _ _ => Nat.lt_of_lt_of_le Nat.one_pos (le_max_right _ 1))
  | fastModeToggled enabled => exact .of_stays rfl rfl rfl (stays_setPreferences fun _ positive => positive)
  | imageChanged imageId content => exact effect_imageChanged apart imageId content
  | leave => exact .of_stays rfl rfl rfl (.of_works (.of_labels (Labels.syncCurrentSession panel.chat)))
  | enter imageId content => exact effect_enter imageId content kept
  | edit content => exact .of_stays rfl rfl rfl (.refl _)
  | streamed requestId progress =>
    refine .of_stays rfl rfl rfl ?_
    exact (panel.chat_streamed requestId progress).symm ▸ Stays.refl panel.chat
  | ended requestId ending =>
    refine .of_stays rfl rfl rfl ?_
    exact (panel.chat_ended requestId ending).symm ▸ Stays.refl panel.chat
  | dispatch outcome => exact effect_dispatch apart outcome kept

namespace Apart

theorem step (apart : Apart host panel) {event : Event κ ν} (kept : KeptApart host panel event) :
    Apart host (Chat.step host panel event) := by
  have wired := apart.toWired.step event
  have filed := apart.toFiled.step apart.toWired event
  cases effect_step apart event kept with
  | stays stays =>
    exact { wired, filed with
      faithful := stays.faithful apart.faithful
      limited := stays.limited apart.limited }
  | opens uncalled acts switched =>
    exact { wired, filed with
      faithful := switched.faithful
      limited := switched.limited }
  | reopens uncalled reopened =>
    exact { wired, filed with faithful := reopened.switched.faithful, limited := reopened.switched.limited }
  | files delivered filedAt thread here settings =>
    refine { wired, filed with faithful := filedAt.faithful (fun same session => ?_) apart.faithful, limited := ?_ }
    · rw [thread, here same]
      rfl
    · intro shown
      rw [filedAt.preferences]
      exact apart.limited (filedAt.shownIds ▸ shown)

end Apart

theorem isolated_step (apart : Apart host panel) {event : Event κ ν} (kept : KeptApart host panel event) :
    Isolated host panel event := by
  cases effect_step apart event kept with
  | stays stays called delivered switches =>
    constructor
    case others =>
      intro imageId other _ _ session stored
      rw [stays.others imageId other]
      exact stored
    case called =>
      intro submission isCalled elsewhere
      rw [(called submission isCalled).resolve_left elsewhere]
      exact ⟨rfl, rfl⟩
    case reopened =>
      intro isSwitch _ thread settings seen
      rw [switches isSwitch]
      exact seen
  | opens uncalled acts switched =>
    constructor
    case others =>
      intro imageId other elsewhere _ session stored
      rw [switched.currentImageId, acts] at elsewhere
      exact switched.mem other (elsewhere.resolve_right Bool.false_ne_true) stored
    case called =>
      rw [uncalled]
      exact fun _ called => nomatch called
    case reopened =>
      rw [acts]
      exact nofun
  | reopens uncalled reopened =>
    constructor
    case others => exact fun imageId other _ _ session stored => reopened.mem other stored
    case called =>
      rw [uncalled]
      exact fun _ called => nomatch called
    case reopened =>
      intro _ here thread settings seen
      rw [reopened.switched.currentImageId] at here
      exact reopened.shows_again apart.keyed apart.limited here seen
  | files delivered filed =>
    have isCalled := called_of_nextResult delivered
    constructor
    case others =>
      intro imageId _ _ uncalled session stored
      rw [filed.stored, if_neg (uncalled _ isCalled).symm]
      exact stored
    case called =>
      rw [isCalled]
      rintro _ ⟨⟩ elsewhere
      exact ⟨filed.shown, by rw [filed.stored, if_neg elsewhere.symm]⟩
    case reopened =>
      intro isSwitch
      cases event with
      | dispatch => cases isSwitch
      | _ => cases delivered

section Return

variable {imageId : Int} {ids : String × String} {transcript : String} {settings : Preferences} {event : Event κ ν}

theorem holds_leaving (apart : Apart host panel) (kept : KeptApart host panel event)
    {thread : (String × String) × String} (seen : Shows panel.chat thread settings)
    (gone : (step host panel event).chat.currentImageId ≠ panel.chat.currentImageId) :
    Holds (step host panel event).chat panel.chat.currentImageId thread settings := by
  cases effect_step apart event kept with
  | stays stays => exact absurd stays.currentImageId gone
  | opens uncalled acts switched =>
    exact switched.holds_left apart.keyed apart.limited seen (switched.currentImageId ▸ gone)
  | reopens uncalled reopened =>
    have switched := reopened.switched
    exact switched.holds_left apart.keyed apart.limited seen (switched.currentImageId ▸ gone)
  | files delivered filed => exact absurd filed.currentImageId gone

/-- While another session is shown, a session changes by its own results only. -/
theorem holds_away (apart : Apart host panel) (kept : KeptApart host panel event)
    (holds : Holds panel.chat imageId (ids, transcript) settings) (other : imageId ≠ panel.chat.currentImageId)
    (away : imageId ≠ (step host panel event).chat.currentImageId) :
    Holds (step host panel event).chat imageId (ids, transcriptSince transcript (panel.heard host imageId event))
      settings := by
  obtain ⟨session, stored, thread, rfl⟩ := holds
  have unheard : panel.called event = none → panel.heard host imageId event = [] := by
    intro uncalled
    refine heard_eq_nil fun delivery next => ?_
    have isCalled := called_of_nextResult next
    rw [uncalled] at isCalled
    cases isCalled
  cases effect_step apart event kept with
  | stays stays called delivered =>
    rw [heard_eq_nil fun delivery next => (delivered delivery next).trans_ne other.symm]
    exact ⟨session, by rw [stays.others imageId other]; exact stored, thread, rfl⟩
  | opens uncalled acts switched =>
    rw [switched.currentImageId] at away
    rw [unheard uncalled]
    exact ⟨session, switched.mem other away stored, thread, rfl⟩
  | reopens uncalled reopened =>
    rw [unheard uncalled]
    exact ⟨session, reopened.mem other stored, thread, rfl⟩
  | @files submission result change delivered filed changed here settings =>
    -- a result for a third image is heard by that image alone
    by_cases own : imageId = submission.imageId
    · subst own
      refine ⟨change session, ?_, ?_, settings other session stored⟩
      · rw [filed.stored, if_pos rfl, show panel.chat.imageSessions.get? submission.imageId = some session from stored]
        rfl
      · have said : session.transcript = transcript := congrArg (·.2) thread
        rw [changed, thread, said]
    · have elsewhere : ∀ delivery ∈ panel.nextResult event, delivery.1.imageId ≠ imageId := by
        rw [delivered]
        rintro _ ⟨⟩
        exact fun same => own same.symm
      rw [heard_eq_nil elsewhere]
      exact ⟨session, by rw [filed.stored, if_neg own]; exact stored, thread, rfl⟩

theorem shows_returning (apart : Apart host panel) (kept : KeptApart host panel event)
    {thread : (String × String) × String} (holds : Holds panel.chat imageId thread settings)
    (other : panel.chat.currentImageId ≠ imageId) (switches : event.switches)
    (back : (step host panel event).chat.currentImageId = imageId) :
    Shows (step host panel event).chat thread settings := by
  cases effect_step apart event kept with
  | stays stays => exact absurd (stays.currentImageId.symm.trans back) other
  | opens uncalled acts =>
    rw [acts] at switches
    cases switches
  | reopens uncalled reopened =>
    have target := reopened.switched.currentImageId.symm.trans back
    subst target
    exact reopened.shows_stored other.symm holds
  | files delivered filed => exact absurd (filed.currentImageId.symm.trans back) other

/-- From the moment it is left, a session is stored until it is shown again. -/
theorem shows_run {away : List (Event κ ν)} {returning : Event κ ν} (apart : Apart host panel)
    (kept : EveryStep (step host) (KeptApart host) panel (away ++ [returning]))
    (gone : EveryStep (step host) (fun panel _ => panel.chat.currentImageId ≠ imageId) panel (away ++ [returning]))
    (holds : Holds panel.chat imageId (ids, transcript) settings) (switches : returning.switches)
    (back : (run (step host) panel (away ++ [returning])).chat.currentImageId = imageId) :
    Shows (run (step host) panel (away ++ [returning])).chat
      (ids, transcriptSince transcript (heardSince host imageId panel away)) settings := by
  -- the transcript grows with each result that is filed meanwhile, so it is general in the induction
  induction away generalizing panel transcript with
  | nil => exact shows_returning apart kept.1 holds gone.1 switches back
  | cons event rest ih =>
    obtain ⟨here, later⟩ := kept
    obtain ⟨other, goneLater⟩ := gone
    have stillGone : (step host panel event).chat.currentImageId ≠ imageId := by
      cases rest <;> exact goneLater.1
    have holdsThen := holds_away apart here holds other.symm stillGone.symm
    have shown := ih (apart.step here) later goneLater holdsThen back
    rw [← transcriptSince_append] at shown
    exact shown

end Return

variable (host) in
/-- While the sessions are kept apart, a step works on its own session, and a session that was left is found again
as it was with what its own results said since, in every run. -/
theorem sessions_isolated (configured : Preferences) (content : κ) {events : List (Event κ ν)}
    (kept : EveryStep (step host) (KeptApart host) (initialPanel configured content) events) :
    (run (step host) (initialPanel configured content) events).chat.Faithful ∧
    EveryStep (step host) (Isolated host) (initialPanel configured content) events ∧
    ∀ before leaving away returning, events = before ++ leaving :: (away ++ [returning]) →
      Restored host (run (step host) (initialPanel configured content) before) leaving away returning := by
  have steps : ∀ panel event, Apart host panel → KeptApart host panel event → Apart host (step host panel event) :=
    fun _ _ apart here => apart.step here
  have initially : Apart host (initialPanel configured content : Panel κ ν) :=
    { Wired.initially configured content, Filed.initially configured content with
      faithful := fun thread shown => by cases shown
      limited := fun shown => by cases shown }
  refine ⟨(run_invariant steps initially kept).faithful, ?_, ?_⟩
  · exact everyStep_of_invariant steps (fun _ _ apart here => isolated_step apart here) initially kept
  · rintro before leaving away returning rfl ids settings transcript seen gone switches back
    obtain ⟨first, here, later⟩ := everyStep_append.mp kept
    have apart := run_invariant steps initially first
    have left : (step host (run (step host) (initialPanel configured content) before) leaving).chat.currentImageId ≠
        (run (step host) (initialPanel configured content) before).chat.currentImageId := by
      cases away <;> exact gone.1
    exact shows_run (apart.step here) later gone (holds_leaving apart here seen left) switches back

end Invariant

/-- A single turn is answered on the first image. -/
def singleTurnAnswered : List (Event SampleEdit ℚ) :=
  [.enter 1 ⟨0, 0⟩, .multiTurnToggled false, .submit "brighten" .queued,
    .ended (sampleUuid 2) (.completed { sampleResponse (sampleUuid 2) [] with
      messageText := "done"
      refinementMode := some .singleTurn
      refinementEnabled := false
      refinementMaxPasses := 1 })]

/-- The answer comes when another image is shown, and the turn limit of the first one is lost. -/
theorem singleTurnAnswered_not_restored : ¬ Restored sampleHost (run (step sampleHost) sampleStart singleTurnAnswered)
    (.imageChanged 2 ⟨0, 0⟩) [.dispatch .queued] (.imageChanged 1 ⟨0, 0⟩) := by
  intro restored
  have seen : Shows (run (step sampleHost) sampleStart singleTurnAnswered).chat ((sampleUuid 0, sampleUuid 1),
      (run (step sampleHost) sampleStart singleTurnAnswered).chat.transcript) ⟨false, 4, false⟩ :=
    ⟨by decide +kernel, by decide +kernel⟩
  have returned := restored _ _ _ seen (by decide +kernel) rfl (by decide +kernel)
  exact absurd returned.2 (by decide +kernel)

/-- A request fails while the darkroom is hidden and was last on another image. -/
def failedElsewhere : List (Event SampleEdit ℚ) :=
  [.enter 1 ⟨0, 0⟩, .submit "brighten" .queued, .ended (sampleUuid 2) (.failed "connection refused" none)]

theorem sessions_isolated_failed :
    Shows (run (step sampleHost) sampleStart (failedElsewhere ++ [.enter 2 ⟨0, 0⟩, .leave, .dispatch .queued,
      .enter 1 ⟨0, 0⟩])).chat ((sampleUuid 0, sampleUuid 1), transcriptSince
        (run (step sampleHost) sampleStart failedElsewhere).chat.transcript ["connection refused"]) samplePreferences := by
  have kept : EveryStep (step sampleHost) (KeptApart sampleHost) sampleStart
      (failedElsewhere ++ [.enter 2 ⟨0, 0⟩, .leave, .dispatch .queued, .enter 1 ⟨0, 0⟩]) := by decide +kernel
  obtain ⟨-, -, restored⟩ := sessions_isolated sampleHost samplePreferences ⟨0, 0⟩ kept
  have seen : Shows (run (step sampleHost) sampleStart failedElsewhere).chat ((sampleUuid 0, sampleUuid 1),
      (run (step sampleHost) sampleStart failedElsewhere).chat.transcript) samplePreferences :=
    ⟨by decide +kernel, by decide +kernel⟩
  have returned := restored failedElsewhere (.enter 2 ⟨0, 0⟩) [.leave, .dispatch .queued] (.enter 1 ⟨0, 0⟩) rfl
    _ _ _ seen (by decide +kernel) rfl (by decide +kernel)
  have heard : heardSince sampleHost 1 (step sampleHost (run (step sampleHost) sampleStart failedElsewhere)
      (.enter 2 ⟨0, 0⟩)) [.leave, .dispatch .queued] = ["connection refused"] := by decide +kernel
  rw [run_append, ← heard]
  exact returned

end DarktableAgent.Chat
