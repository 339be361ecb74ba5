import DarktableAgent.Client.RequestMemory

/-! Copies of the chat request are deep, and written as the original is.

A structure is read by reading all its strings. The document is written from what has been read, and
is the one of the request that was built.
-/

set_option autoImplicit false

namespace DarktableAgent.Client.InMemory

open Foundation Foundation.Heap Protocol

theorem choiceOption_deepCopy : DeepCopy ChoiceOption.load choiceOptionCopy := by
  intro heap original contents loads
  apply strdup_deepCopy.field loads
  intro choiceId newChoiceId loads
  apply strdup_deepCopy.field loads
  intro label newLabel loads
  obtain rfl := Option.some.inj loads
  apply copies_pure
  intro later readsLabel readsChoiceId
  simp [ChoiceOption.load, readsLabel, readsChoiceId]

theorem choices_deepCopy : DeepCopy loadChoices choicesCopy :=
  DeepCopy.option (DeepCopy.list choiceOption_deepCopy)

theorem historyItem_deepCopy : DeepCopy HistoryItem.load historyItemCopy := by
  intro heap original contents loads
  apply strdup_deepCopy.field loads
  intro module newModule loads
  apply strdup_deepCopy.field loads
  intro instanceName newInstanceName loads
  obtain rfl := Option.some.inj loads
  apply copies_pure
  intro later readsInstanceName readsModule
  simp [HistoryItem.load, readsInstanceName, readsModule]

theorem preview_deepCopy : DeepCopy Preview.load previewCopy := by
  intro heap original contents loads
  apply strdup_deepCopy.field loads
  intro previewId newPreviewId loads
  apply strdup_deepCopy.field loads
  intro mimeType newMimeType loads
  apply strdup_deepCopy.field loads
  intro base64Data newBase64Data loads
  obtain rfl := Option.some.inj loads
  apply copies_pure
  intro later readsBase64Data readsMimeType readsPreviewId
  simp [Preview.load, readsBase64Data, readsMimeType, readsPreviewId]

theorem uiContext_deepCopy : DeepCopy UiContext.load uiContextCopy := by
  intro heap original contents loads
  apply strdup_deepCopy.field loads
  intro view newView loads
  apply strdup_deepCopy.field loads
  intro imageName newImageName loads
  obtain rfl := Option.some.inj loads
  apply copies_pure
  intro later readsImageName readsView
  simp [UiContext.load, readsImageName, readsView]

section DeepCopies

variable {ν : Type} [Zero ν]

theorem metadata_deepCopy : DeepCopy (@ImageMetadata.load ν) metadataCopy := by
  intro heap original contents loads
  apply strdup_deepCopy.field loads
  intro imageName newImageName loads
  apply strdup_deepCopy.field loads
  intro cameraMaker newCameraMaker loads
  apply strdup_deepCopy.field loads
  intro cameraModel newCameraModel loads
  obtain rfl := Option.some.inj loads
  apply copies_pure
  intro later readsCameraModel readsCameraMaker readsImageName
  simp [ImageMetadata.load, readsCameraModel, readsCameraMaker, readsImageName]

theorem capability_deepCopy : DeepCopy (@Capability.load ν) capabilityCopy := by
  intro heap original contents loads
  apply strdup_deepCopy.field loads
  intro moduleId newModuleId loads
  apply strdup_deepCopy.field loads
  intro moduleLabel newModuleLabel loads
  apply strdup_deepCopy.field loads
  intro capabilityId newCapabilityId loads
  apply strdup_deepCopy.field loads
  intro label newLabel loads
  apply strdup_deepCopy.field loads
  intro kind newKind loads
  apply strdup_deepCopy.field loads
  intro targetType newTargetType loads
  apply strdup_deepCopy.field loads
  intro actionPath newActionPath loads
  apply choices_deepCopy.field loads
  intro choices newChoices loads
  obtain rfl := Option.some.inj loads
  apply copies_pure
  intro later readsChoices readsActionPath readsTargetType readsKind readsLabel readsCapabilityId readsModuleLabel
    readsModuleId
  simp [Capability.load, readsChoices, readsActionPath, readsTargetType, readsKind, readsLabel, readsCapabilityId,
    readsModuleLabel, readsModuleId]

theorem imageControl_deepCopy : DeepCopy (@ImageControl.load ν) imageControlCopy := by
  intro heap original contents loads
  apply strdup_deepCopy.field loads
  intro moduleId newModuleId loads
  apply strdup_deepCopy.field loads
  intro moduleLabel newModuleLabel loads
  apply strdup_deepCopy.field loads
  intro settingId newSettingId loads
  apply strdup_deepCopy.field loads
  intro capabilityId newCapabilityId loads
  apply strdup_deepCopy.field loads
  intro label newLabel loads
  apply strdup_deepCopy.field loads
  intro kind newKind loads
  apply strdup_deepCopy.field loads
  intro actionPath newActionPath loads
  apply choices_deepCopy.field loads
  intro choices newChoices loads
  apply strdup_deepCopy.field loads
  intro choiceId newChoiceId loads
  obtain rfl := Option.some.inj loads
  apply copies_pure
  intro later readsChoiceId readsChoices readsActionPath readsKind readsLabel readsCapabilityId readsSettingId
    readsModuleLabel readsModuleId
  simp [ImageControl.load, readsChoiceId, readsChoices, readsActionPath, readsKind, readsLabel, readsCapabilityId,
    readsSettingId, readsModuleLabel, readsModuleId]

theorem histogramCopy_eq (src : Histogram) : histogramCopy src = src := rfl

theorem imageState_deepCopy : DeepCopy (@ImageState.load ν) imageStateCopy := by
  intro heap original contents loads
  apply metadata_deepCopy.field loads
  intro metadata newMetadata loads
  apply DeepCopy.field (DeepCopy.present (DeepCopy.list imageControl_deepCopy)) loads
  intro controls newControls loads
  apply DeepCopy.field (DeepCopy.present (DeepCopy.list historyItem_deepCopy)) loads
  intro history newHistory loads
  apply preview_deepCopy.field loads
  intro preview newPreview loads
  obtain rfl := Option.some.inj loads
  apply copies_pure
  intro later readsPreview readsHistory readsControls readsMetadata
  simp [ImageState.load, readsPreview, readsHistory, readsControls, readsMetadata, histogramCopy_eq]

/-- An array that is missing has nothing to copy. -/
theorem loadList_getD {α γ : Type} {load : Heap → α → Option γ} {heap : Heap} {items : Option (List α)}
    {contents : Option (List γ)} (loads : loadOption (loadList load) heap items = some contents) :
    loadList load heap (items.getD []) = some (contents.getD []) := by
  cases items with
  | none =>
    cases loads
    rfl
  | some items =>
    obtain ⟨loaded, isLoaded, rfl⟩ := Option.map_eq_some_iff.mp loads
    exact isLoaded

/-- What a copy stands for: a missing array of capabilities has become an empty one. -/
def ChatRequest.copied (contents : ChatRequest Text ν) : ChatRequest Text ν :=
  { contents with capabilities := some (contents.capabilities.getD []) }

theorem chatRequest_copies {heap : Heap} {original : ChatRequest Pointer ν} {contents : ChatRequest Text ν}
    (loads : original.load heap = some contents) :
    Copies heap (chatRequestCopy original) fun later dest => dest.load later = some contents.copied := by
  apply strdup_deepCopy.field loads
  intro schemaVersion newSchemaVersion loads
  apply strdup_deepCopy.field loads
  intro requestId newRequestId loads
  apply strdup_deepCopy.field loads
  intro appSessionId newAppSessionId loads
  apply strdup_deepCopy.field loads
  intro imageSessionId newImageSessionId loads
  apply strdup_deepCopy.field loads
  intro conversationId newConversationId loads
  apply strdup_deepCopy.field loads
  intro turnId newTurnId loads
  apply strdup_deepCopy.field loads
  intro imageRevisionId newImageRevisionId loads
  apply strdup_deepCopy.field loads
  intro messageText newMessageText loads
  apply strdup_deepCopy.field loads
  intro goalText newGoalText loads
  apply uiContext_deepCopy.field loads
  intro uiContext newUiContext loads
  obtain ⟨capabilities, areCapabilities, loads⟩ := Option.bind_eq_some_iff.mp loads
  apply copies_bind (DeepCopy.list capability_deepCopy (loadList_getD areCapabilities))
  intro newCapabilities
  apply imageState_deepCopy.field loads
  intro imageState newImageState loads
  obtain rfl := Option.some.inj loads
  apply copies_pure
  intro later readsImageState readsCapabilities readsUiContext readsGoalText readsMessageText readsImageRevisionId
    readsTurnId readsConversationId readsImageSessionId readsAppSessionId readsRequestId readsSchemaVersion
  simp [ChatRequest.load, ChatRequest.copied, loadOption, readsImageState, readsCapabilities, readsUiContext,
    readsGoalText, readsMessageText, readsImageRevisionId, readsTurnId, readsConversationId, readsImageSessionId,
    readsAppSessionId, readsRequestId, readsSchemaVersion]

end DeepCopies

/-! ## Written alike -/

section Written

variable {ν : Type} (real : ν → Json)

/-- An empty array of capabilities is refused as a missing one is. -/
theorem chatRequestSerialize_copied (contents : ChatRequest Text ν) :
    chatRequestSerialize real contents.copied = chatRequestSerialize real contents := rfl

variable [Zero ν]

/-- As long as the strings of the copy last, it is written as what was read of the request. -/
theorem chatRequestCopy_writes {heap : Heap} {request : ChatRequest Pointer ν} {contents : ChatRequest Text ν}
    (loads : request.load heap = some contents) :
    ∃ copy after, chatRequestCopy request heap = some (copy, after) ∧
      ∀ later, Keeps heap.size after later →
        serializeIn real later copy = some (chatRequestSerialize real contents) := by
  obtain ⟨copy, after, copies, _, reads⟩ := chatRequest_copies loads heap (Grows.refl heap)
  refine ⟨copy, after, copies, ?_⟩
  intro later kept
  rw [serializeIn, reads later kept]
  exact congrArg some (chatRequestSerialize_copied real contents)

/-- The copy of a request that can be read is written as the request is, or refused as it is. That lasts as
long as the strings of the copy do: those of the request may be freed. -/
theorem chatRequestCopy_serializes {heap : Heap} {request : ChatRequest Pointer ν}
    (readable : (request.load heap).isSome) :
    ∃ copy after, chatRequestCopy request heap = some (copy, after) ∧
      (serializeIn real heap request).isSome ∧ serializeIn real after copy = serializeIn real heap request ∧
      ∀ later, Keeps heap.size after later → serializeIn real later copy = serializeIn real heap request := by
  obtain ⟨contents, loads⟩ := Option.isSome_iff_exists.mp readable
  obtain ⟨copy, after, copies, writes⟩ := chatRequestCopy_writes real loads
  have written : serializeIn real heap request = some (chatRequestSerialize real contents) := by
    rw [serializeIn, loads]
    rfl
  rw [written]
  exact ⟨copy, after, copies, rfl, writes after (Keeps.refl heap.size after), writes⟩

end Written

/-- All strings are one and the same, shared among all pointers. -/
def sharedHeap : Heap := ⟨[some "darkroom"]⟩

def sharedCapability : Capability Pointer ℚ :=
  { (Capability.zeroed : Capability Pointer ℚ) with moduleId := some 0, choices := some [⟨7, some 0, none⟩] }

def sharedRequest : ChatRequest Pointer ℚ :=
  { (chatRequestInit : ChatRequest Pointer ℚ) with
    requestId := some 0
    appSessionId := some 0
    imageSessionId := some 0
    conversationId := some 0
    turnId := some 0
    messageText := some 0
    refinementGoalText := some 0
    uiContext := { UiContext.zeroed with view := some 0 }
    capabilities := some [sharedCapability]
    imageState := imageStateInit }

theorem chatRequestCopy_serializes_shared :
    ∃ copy after document, chatRequestCopy sharedRequest sharedHeap = some (copy, after) ∧
      serializeIn .real after copy = some (.ok document) ∧
      serializeIn .real (after.freeAll [0]) copy = some (.ok document) := by
  obtain ⟨document, written⟩ : ∃ document, serializeIn .real sharedHeap sharedRequest = some (.ok document) := ⟨_, rfl⟩
  obtain ⟨copy, after, copies, _, alike, lasts⟩ := @chatRequestCopy_serializes _ .real _ sharedHeap sharedRequest rfl
  refine ⟨copy, after, document, copies, alike.trans written, (lasts _ ?_).trans written⟩
  exact Keeps.freeAll (by decide)

end DarktableAgent.Client.InMemory
