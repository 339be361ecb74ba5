import DarktableAgent.Chat.Cancellation

/-! Which results are turned down because the image or its history changed.

A request names the revision of its image: the image and the two history counters. The
response carries the name back, and it is compared with the revision the darkroom shows.
-/

set_option autoImplicit false

namespace DarktableAgent.Chat

open Foundation Protocol Client

/-- A revision is named in one way. -/
theorem formatImageRevisionId_injective {imageId other position otherPosition : Int} {count otherCount : Nat}
    {hasOther : Bool} (image : 0 < imageId)
    (same : formatImageRevisionId true imageId position count =
      formatImageRevisionId hasOther other otherPosition otherCount) :
    imageId = other ∧ position = otherPosition ∧ count = otherCount := by
  have known : formatImageRevisionId true imageId position count =
      "image-" ++ toString imageId ++ "-history-" ++ toString position ++ "-" ++ toString count :=
    if_pos ⟨rfl, image⟩
  rw [known] at same
  unfold formatImageRevisionId at same
  have numerals : ∀ id : Int, 0 < id → '-' ∉ (toString id).toList := by
    intro id positive
    cases id with
    | ofNat id =>
      rw [toList_toString_ofNat]
      exact minus_not_mem_toString id
    | negSucc id => exact absurd positive (by simp)
  have dash : "-history-".toList = '-' :: "history-".toList := by decide
  have last : "-".toList = ['-'] := by decide
  split_ifs at same with otherImage
  · have chars := congrArg String.toList same
    simp only [String.toList_append, List.append_assoc, dash, last, List.cons_append, List.nil_append] at chars
    -- the image ends at the first minus sign, the count starts after the last one
    obtain ⟨images, histories⟩ := cut_injective (numerals imageId image) (numerals other otherImage.2)
      (List.append_cancel_left chars)
    obtain ⟨positions, counts⟩ := cut_last_injective (minus_not_mem_toString count) (minus_not_mem_toString otherCount)
      (List.append_cancel_left histories)
    exact ⟨toString_int_injective (String.toList_inj.mp images), toString_int_injective (String.toList_inj.mp positions),
      toString_nat_injective (String.toList_inj.mp counts)⟩
  · have unknown : "image-unknown".toList = "image-".toList ++ "unknown".toList := by decide
    have chars := congrArg String.toList same
    simp only [String.toList_append, List.append_assoc, dash, unknown, List.cons_append] at chars
    have minus : '-' ∈ "unknown".toList := by
      rw [← List.append_cancel_left chars]
      exact List.mem_append_right _ List.mem_cons_self
    exact absurd minus (by decide)

section Staleness

variable {κ ν W : Type} (host : Host κ ν W)

/-- The darkroom shows another image than a request's snapshot, or its history stands elsewhere although no live
operation is counted for the request or it was a single turn. -/
def ChangedSince (panel : Panel κ ν) (transfer : Transfer) : Prop :=
  panel.develop.imageId ≠ transfer.submission.imageId ∨
    (host.historyEnd panel.develop.content ≠ transfer.historyPosition
        ∨ host.historyCount panel.develop.content ≠ transfer.historyCount) ∧
      (panel.chat.liveAppliedFor transfer.submission = 0 ∨ transfer.submission.refinementEnabled = false)

/-- The panel turns a result down: it is cancelled, stale, planned for another revision, or the darkroom is
hidden. -/
def TurnedDown (panel after : Panel κ ν) (submission : ChatSubmission) (result : ClientResult ν) : Prop :=
  ∃ settled, Panel.Calms (panel.settle submission result) settled ∧
    (after = settled.finishCancelled submission (panel.chat.matchesActiveRequest submission)
      ∨ after = settled.finishStale submission ∨ after = settled.finishMismatch submission
      ∨ after = settled.finishHidden submission result)

variable {host} {panel : Panel κ ν} {transfer : Transfer} {result : ClientResult ν} {response : ChatResponse ν}

/-- The darkroom names the revision of a snapshot only when image and counters are those of the snapshot. -/
theorem currentImageRevisionId_recorded (recorded : transfer.Recorded) (image : transfer.submission.hasImageId)
    (same : currentImageRevisionId host panel.develop = transfer.submission.baseImageRevisionId) :
    panel.develop.imageId = transfer.submission.imageId ∧
      host.historyEnd panel.develop.content = transfer.historyPosition ∧
      host.historyCount panel.develop.content = transfer.historyCount := by
  obtain ⟨named, positive⟩ := recorded
  rw [named, image] at same
  obtain ⟨sameImage, position, count⟩ := formatImageRevisionId_injective (positive image) same.symm
  refine ⟨?_, position.symm, count.symm⟩
  have shown := positive image
  rw [sameImage] at shown ⊢
  unfold Develop.currentImageId at shown ⊢
  split_ifs at shown ⊢ with known
  · rfl
  · exact absurd shown (by decide)

/-- The checks of the panel see every such change. -/
theorem changed_detected (recorded : transfer.Recorded) (image : transfer.submission.hasImageId)
    (answered : result.response = some response)
    (base : response.baseImageRevisionId = some transfer.submission.baseImageRevisionId) (ok : response.status = "ok")
    (changed : ChangedSince host panel transfer) :
    panel.develop.visible ∧ isStaleResponse (panel.settle transfer.submission result).chat panel.develop
        transfer.submission result ∨
      revisionMismatch host panel.develop transfer.submission result (panel.chat.liveAppliedFor transfer.submission) ∨
      ¬ panel.develop.visible := by
  rcases changed with otherImage | ⟨moved, notLive⟩
  · by_cases visible : panel.develop.visible
    · left
      refine ⟨visible, ?_⟩
      unfold isStaleResponse
      simp [image, otherImage]
    · exact .inr (.inr visible)
  · right
    left
    have otherRevision : response.baseImageRevisionId ≠ some (currentImageRevisionId host panel.develop) := by
      intro same
      rw [base] at same
      obtain ⟨-, position, count⟩ := currentImageRevisionId_recorded recorded image (Option.some.inj same).symm
      exact moved.elim (fun different => different position) (fun different => different count)
    have noExemption : allowLiveRevisionMismatch transfer.submission response
        (panel.chat.liveAppliedFor transfer.submission) = false := by
      unfold allowLiveRevisionMismatch
      rcases notLive with none | single
      · simp [none]
      · simp [single]
    unfold revisionMismatch
    rw [answered]
    simp [ok, otherRevision, noExemption]

variable [Numeric ν]

theorem turnedDown_of {submission : ChatSubmission} (outcome : SubmitOutcome)
    (detected : panel.develop.visible ∧ isStaleResponse (panel.settle submission result).chat panel.develop submission
        result ∨
      revisionMismatch host panel.develop submission result (panel.chat.liveAppliedFor submission) ∨
      ¬ panel.develop.visible) :
    TurnedDown panel (panel.requestFinished host submission result outcome) submission result := by
  unfold Panel.requestFinished
  dsimp only
  by_cases cancelled : result.cancelled
  · rw [if_pos cancelled]
    exact ⟨_, .refl _, .inl rfl⟩
  rw [if_neg cancelled]
  by_cases stale : panel.develop.visible ∧ isStaleResponse (panel.settle submission result).chat panel.develop
      submission result
  · have sameStale : (panel.settle submission result).develop.visible ∧ isStaleResponse
        (panel.settle submission result).chat (panel.settle submission result).develop submission result := stale
    rw [if_pos sameStale]
    exact ⟨_, .refl _, .inr (.inl rfl)⟩
  have notStale : ¬ ((panel.settle submission result).develop.visible ∧ isStaleResponse
      (panel.settle submission result).chat (panel.settle submission result).develop submission result) := stale
  rw [if_neg notStale]
  -- the settled panel only stops loading before the revision is looked at
  have calm := (panel.settle submission result).quiets_calms submission
  by_cases mismatch : revisionMismatch host panel.develop submission result (panel.chat.liveAppliedFor submission)
  · exact ⟨_, calm, .inr (.inr (.inl (if_pos mismatch)))⟩
  · have hidden : ¬ panel.develop.visible := by
      rcases detected with detected | detected | hidden
      · exact absurd detected stale
      · exact absurd detected mismatch
      · exact hidden
    exact ⟨_, calm, .inr (.inr (.inr ((if_neg mismatch).trans (if_pos hidden))))⟩

/-- A change of the image, or a change of its history while nothing is live, keeps every operation of the request's
response from being executed, after any run. -/
theorem changed_final_rejected (configured : Preferences) (content : κ) (events : List (Event κ ν))
    (outcome : SubmitOutcome) {rest : List (Delivery ν)}
    (reached : run (step host) (initialPanel configured content) events = panel)
    (queue : panel.queue = .result transfer.submission result :: rest) (sent : transfer ∈ panel.transfers)
    (image : transfer.submission.hasImageId) (answered : result.response = some response)
    (base : response.baseImageRevisionId = some transfer.submission.baseImageRevisionId)
    (status : response.status = "ok" ∨ response.status = "error") (changed : ChangedSince host panel transfer) :
    (step host panel (.dispatch outcome)).executed = panel.executed ∧
      (step host panel (.dispatch outcome)).develop = panel.develop ∧
      (response.status = "ok" → TurnedDown { panel with queue := rest } (step host panel (.dispatch outcome))
        transfer.submission result) := by
  have wired := wired_of_run host configured content events
  rw [reached] at wired
  have recorded := wired.recorded transfer sent
  have dispatched : step host panel (.dispatch outcome) =
      { panel with queue := rest }.requestFinished host transfer.submission result outcome := by
    simp only [step, Panel.dispatch, queue]
  have spent : ResultSpent host { panel with queue := rest } transfer.submission result := by
    unfold ResultSpent
    rcases status with ok | failed
    · rcases changed_detected recorded image answered base ok changed with ⟨-, stale⟩ | mismatch | hidden
      · exact .inr (.inr (.inl stale))
      · exact .inr (.inr (.inr (.inl mismatch)))
      · exact .inr (.inl hidden)
    · refine .inr (.inr (.inr (.inr (.inr fun answer same => .inl ?_))))
      rw [answered] at same
      rw [← Option.some.inj same]
      exact failed
  have nothing := (finalOperations_eq_none_iff host _ _ _).mpr spent
  rw [dispatched]
  refine ⟨?_, Panel.requestFinished_develop host nothing outcome, fun ok => turnedDown_of outcome ?_⟩
  · rw [Panel.requestFinished_executed, nothing]
    exact List.append_nil _
  · exact changed_detected recorded image answered base ok changed

variable (host) in
/-- An edit made after a request was sent, and still there when its result is dispatched, keeps the result from being
executed. -/
def EditRespected (start : Panel κ ν) (first : List (Event κ ν)) (content : κ) (later : List (Event κ ν)) : Prop :=
  ∀ transfer ∈ (run (step host) start first).transfers,
    (run (step host) start (first ++ .edit content :: later)).queue.head?.map Delivery.submission =
        some transfer.submission →
      (run (step host) start (first ++ .edit content :: later)).develop.content = content →
      content ≠ (run (step host) start first).develop.content →
      (run (step host) start (first ++ .edit content :: (later ++ [.dispatch .queued]))).executed =
        (run (step host) start (first ++ .edit content :: later)).executed

end Staleness

/-- The first operation of a response is applied live, and then the user moves the slider. -/
theorem editAfterLive_executed :
    ¬ EditRespected sampleHost sampleStart
      [.enter 1 ⟨0, 0⟩, .submit "brighten" .queued, .streamed (sampleUuid 2) (sampleSnapshot (sampleUuid 2) [1]),
        .dispatch .queued]
      ⟨3, 2⟩ [.ended (sampleUuid 2) (.completed (sampleResponse (sampleUuid 2) [1, 2]))] := by
  unfold EditRespected
  decide +kernel

def sampleTransfer : Transfer where
  submission := {
    requestId := sampleUuid 2
    promptText := "brighten"
    goalText := "brighten"
    conversationId := sampleUuid 1
    imageSessionId := sampleUuid 0
    baseImageRevisionId := "image-1-history-0-0"
    hasImageId := true
    imageId := 1
    refinementEnabled := true
    fastModeEnabled := false
    refinementPassIndex := 1
    refinementMaxPasses := 4 }
  refinementMode := .multiTurn
  historyPosition := 0
  historyCount := 0
  finished := true

/-- The user moves the slider before anything is applied. -/
def editedBeforeAnswer : List (Event SampleEdit ℚ) :=
  [.enter 1 ⟨0, 0⟩, .submit "brighten" .queued, .edit ⟨3, 1⟩,
    .ended (sampleUuid 2) (.completed (sampleResponse (sampleUuid 2) [1]))]

theorem editedBeforeAnswer_rejected :
    (run (step sampleHost) sampleStart (editedBeforeAnswer ++ [.dispatch .queued])).executed = [] ∧
      (run (step sampleHost) sampleStart (editedBeforeAnswer ++ [.dispatch .queued])).develop.content = ⟨3, 1⟩ := by
  have queue : (run (step sampleHost) sampleStart editedBeforeAnswer).queue =
      [.result sampleTransfer.submission { response := some (sampleResponse (sampleUuid 2) [1]) }] := by decide +kernel
  have changed : ChangedSince sampleHost (run (step sampleHost) sampleStart editedBeforeAnswer) sampleTransfer := by
    unfold ChangedSince
    decide +kernel
  have sent : sampleTransfer ∈ (run (step sampleHost) sampleStart editedBeforeAnswer).transfers := by decide +kernel
  have rejected := changed_final_rejected samplePreferences ⟨0, 0⟩ editedBeforeAnswer .queued rfl queue sent rfl rfl rfl
    (.inl rfl) changed
  rw [run_append]
  exact ⟨rejected.1.trans (by decide +kernel), (congrArg Develop.content rejected.2.1).trans (by decide +kernel)⟩

end DarktableAgent.Chat
