import DarktableAgent.Client.RequestCopy

/-! The request that was built, as it is laid out in memory, and what the job sends of it.

The document of the layout is the document of the request. The job writes it from its copy, when the
request itself has been cleared.
-/

set_option autoImplicit false

namespace DarktableAgent.Client.InMemory

open Foundation Foundation.Heap Protocol

/-! ## The layout of a request -/

def ofChoice (option : DescriptorChoice) : ChoiceOption Text where
  choiceValue := option.choiceValue
  choiceId := some option.choiceId
  label := some option.label

def ofModes (supportsSet supportsDelta : Bool) : Nat := (if supportsSet then 1 else 0) + if supportsDelta then 2 else 0

def ofCapability (capability : AgentCapability) : Capability Text ℚ where
  moduleId := some capability.moduleId
  moduleLabel := some capability.moduleLabel
  capabilityId := some capability.capabilityId
  label := some capability.label
  kind := some capability.kind.name
  targetType := some "darktable-action"
  actionPath := some capability.actionPath
  supportedModes := ofModes capability.supportsSet capability.supportsDelta
  minNumber := capability.minNumber
  maxNumber := capability.maxNumber
  defaultNumber := capability.defaultNumber
  stepNumber := capability.stepNumber
  choices := capability.choices.map (List.map ofChoice)
  hasDefaultChoiceValue := capability.defaultChoiceValue.isSome
  defaultChoiceValue := capability.defaultChoiceValue.getD 0
  hasDefaultBool := capability.defaultBool.isSome
  defaultBool := capability.defaultBool.getD false

def ofControl (control : AgentImageControl ℚ) : ImageControl Text ℚ where
  moduleId := some control.moduleId
  moduleLabel := some control.moduleLabel
  settingId := some control.settingId
  capabilityId := some control.capabilityId
  label := some control.label
  kind := some control.kind.name
  actionPath := some control.actionPath
  supportedModes := ofModes control.supportsSet control.supportsDelta
  hasCurrentNumber := control.currentNumber.isSome
  currentNumber := control.currentNumber.getD 0
  choices := (choiceArray control.kind control.choices).map (List.map ofChoice)
  hasDefaultChoiceValue := control.defaultChoiceValue.isSome
  defaultChoiceValue := control.defaultChoiceValue.getD 0
  hasCurrentChoiceValue := control.currentChoiceValue.isSome
  currentChoiceValue := control.currentChoiceValue.getD 0
  currentChoiceId := control.currentChoiceId
  hasDefaultBool := control.defaultBool.isSome
  defaultBool := control.defaultBool.getD false
  hasCurrentBool := control.currentBool.isSome
  currentBool := control.currentBool.getD false
  minNumber := control.minNumber
  maxNumber := control.maxNumber
  defaultNumber := control.defaultNumber
  stepNumber := control.stepNumber

def ofMetadata (metadata : Client.ImageMetadata) : ImageMetadata Text ℚ where
  hasImageId := metadata.imageId.isSome
  imageId := metadata.imageId.getD 0
  imageName := metadata.imageName
  cameraMaker := metadata.cameraMaker
  cameraModel := metadata.cameraModel
  width := metadata.width
  height := metadata.height
  exifExposureSeconds := metadata.exifExposureSeconds
  exifAperture := metadata.exifAperture
  exifIso := metadata.exifIso
  exifFocalLength := metadata.exifFocalLength

def ofHistoryItem (item : Client.HistoryItem) : HistoryItem Text where
  num := item.num
  module := item.module
  enabled := item.enabled
  multiPriority := item.multiPriority
  instanceName := item.instanceName
  iopOrder := item.iopOrder

def ofPreview : Option Client.Preview → Preview Text
  | none => ⟨false, none, none, 0, 0, none⟩
  | some preview =>
    ⟨true, some preview.previewId, some preview.mimeType, preview.width, preview.height, some preview.base64Data⟩

def ofBins (bins : List Nat) (sized : bins.length = 256) : Vector Nat 256 := ⟨bins.toArray, by simpa using sized⟩

def ofHistogram : Option HistogramBins → Histogram
  | none => .zeroed
  | some histogram => {
      available := true
      binCount := ⟨256, by decide⟩
      red := ofBins histogram.red (histogram.sized _ (by simp))
      green := ofBins histogram.green (histogram.sized _ (by simp))
      blue := ofBins histogram.blue (histogram.sized _ (by simp))
      luma := ofBins histogram.luma (histogram.sized _ (by simp)) }

def ofImageState (state : Client.ImageState) : ImageState Text ℚ where
  historyPosition := state.historyPosition
  historyCount := state.historyCount
  metadata := ofMetadata state.metadata
  controls := some (state.controls.map ofControl)
  history := some (state.history.map ofHistoryItem)
  preview := ofPreview state.preview
  histogram := ofHistogram state.histogram

def ofUiContext (context : Client.UiContext) : UiContext Text where
  view := context.view
  hasImageId := context.imageId.isSome
  imageId := context.imageId.getD 0
  imageName := context.imageName

def ofRequest (request : Client.ChatRequest) : ChatRequest Text ℚ where
  schemaVersion := request.schemaVersion
  requestId := request.requestId
  appSessionId := request.appSessionId
  imageSessionId := request.imageSessionId
  conversationId := request.conversationId
  turnId := request.turnId
  imageRevisionId := request.imageRevisionId
  messageText := request.messageText
  refinementMode := request.refinementMode
  refinementEnabled := request.refinementEnabled
  refinementPassIndex := request.refinementPassIndex
  refinementMaxPasses := request.refinementMaxPasses
  fastMode := request.fastMode
  refinementGoalText := request.refinementGoalText
  uiContext := ofUiContext request.uiContext
  capabilities := some (request.capabilities.map ofCapability)
  imageState := ofImageState request.imageState

/-! ## The document of the layout -/

theorem whenSet_isSome {α : Type} (write : α → Json) (value : Option α) (otherwise : α) :
    whenSet value.isSome (write (value.getD otherwise)) = orNull write value := by
  cases value <;> rfl

theorem serializeNumber_name (kind : OperationKind) (number : ℚ) :
    serializeNumber .real (some kind.name) number = serializeBound kind number := by
  cases kind <;> simp [serializeNumber, serializeBound, OperationKind.name]

theorem serializeSupportedModes_ofModes (supportsSet supportsDelta : Bool) :
    serializeSupportedModes (ofModes supportsSet supportsDelta) = serializeModes supportsSet supportsDelta := by
  cases supportsSet <;> cases supportsDelta <;> rfl

theorem serializeChoiceOptions_ofChoice (choices : Option (List DescriptorChoice)) :
    serializeChoiceOptions (choices.map (List.map ofChoice)) = Client.serializeChoiceOptions choices := by
  cases choices with
  | none => rfl
  | some choices =>
    have each : serializeChoiceOption ∘ ofChoice = Client.serializeChoiceOption := rfl
    simp [serializeChoiceOptions, Client.serializeChoiceOptions, orNull, each]

theorem ofCapability_json (capability : AgentCapability) : (ofCapability capability).json .real = capability.json := by
  simp [Capability.json, AgentCapability.json, ofCapability, serializeNumber_name, serializeSupportedModes_ofModes,
    serializeChoiceOptions_ofChoice, whenSet_isSome, writeString, orNull]

theorem ofControl_json (control : AgentImageControl ℚ) : (ofControl control).json .real = control.json := by
  simp [ImageControl.json, AgentImageControl.json, ofControl, serializeNumber_name, serializeSupportedModes_ofModes,
    serializeChoiceOptions_ofChoice, whenSet_isSome, writeString, orNull]

theorem ofMetadata_json (metadata : Client.ImageMetadata) : (ofMetadata metadata).json .real = metadata.json := by
  simp [ImageMetadata.json, Client.ImageMetadata.json, ofMetadata, whenSet_isSome, writeString]

theorem ofHistoryItem_json (item : Client.HistoryItem) : (ofHistoryItem item).json = item.json := rfl

theorem ofPreview_json (preview : Option Client.Preview) :
    whenSet (ofPreview preview).available (ofPreview preview).json = orNull Client.Preview.json preview := by
  cases preview <;> rfl

theorem serializeChannel_ofBins (bins : List Nat) (sized : bins.length = 256) :
    serializeChannel ⟨256, by decide⟩ (ofBins bins sized) = serializeBins bins := by
  have whole : bins.take 256 = bins := List.take_of_length_le (by omega)
  simp [serializeChannel, ofBins, whole]

theorem ofHistogram_json (histogram : Option HistogramBins) :
    whenSet (ofHistogram histogram).available (ofHistogram histogram).json = orNull HistogramBins.json histogram := by
  cases histogram with
  | none => rfl
  | some histogram => simp [whenSet, orNull, ofHistogram, Histogram.json, HistogramBins.json, serializeChannel_ofBins]

theorem buildImageRevisionId_ofRequest (request : Client.ChatRequest) :
    buildImageRevisionId (ofRequest request) = Client.buildImageRevisionId request := by
  unfold buildImageRevisionId Client.buildImageRevisionId
  cases isImage : request.uiContext.imageId <;> simp [ofRequest, ofUiContext, ofImageState, isImage]

theorem serializeImageSnapshot_ofRequest (request : Client.ChatRequest) :
    serializeImageSnapshot .real (ofRequest request) = Client.serializeImageSnapshot request := by
  have controls : (fun control => Json.obj (ImageControl.json .real control)) ∘ ofControl =
      fun control => Json.obj (AgentImageControl.json control) := by
    funext control
    exact congrArg Json.obj (ofControl_json control)
  have history : (fun item => Json.obj (HistoryItem.json item)) ∘ ofHistoryItem =
      fun item => Json.obj (Client.HistoryItem.json item) := rfl
  unfold serializeImageSnapshot Client.serializeImageSnapshot
  rw [buildImageRevisionId_ofRequest]
  simp [ofRequest, ofImageState, ofMetadata_json, ofPreview_json, ofHistogram_json, controls, history]

theorem requestDocument_ofRequest {request : Client.ChatRequest} {texts : RequestTexts}
    (present : requestTexts request = some texts) :
    requestDocument .real (ofRequest request) = Client.requestDocument request texts := by
  have capabilities : (fun capability => Json.obj (Capability.json .real capability)) ∘ ofCapability =
      fun capability => Json.obj (AgentCapability.json capability) := by
    funext capability
    exact congrArg Json.obj (ofCapability_json capability)
  obtain ⟨requestId, appSessionId, imageSessionId, conversationId, turnId, message, view, mode, goalText⟩ :=
    requestTexts_of present
  unfold requestDocument Client.requestDocument
  rw [serializeImageSnapshot_ofRequest]
  simp [ofRequest, ofUiContext, whenSet_isSome, writeString, orNull, refinementModeToString, capabilities, requestId,
    appSessionId, imageSessionId, conversationId, turnId, message, view, mode, goalText]

/-- What a request must bring is missing when one part of it is. -/
theorem isNone_of_requestTexts {request : Client.ChatRequest} (missing : requestTexts request = none) :
    request.requestId.isNone ∨ request.appSessionId.isNone ∨ request.imageSessionId.isNone
      ∨ request.conversationId.isNone ∨ request.turnId.isNone ∨ request.messageText.isNone
      ∨ request.uiContext.view.isNone ∨ request.refinementMode.isNone ∨ request.refinementGoalText.isNone := by
  by_contra allThere
  simp only [Option.isNone_iff_eq_none, not_or, Option.ne_none_iff_exists'] at allThere
  obtain ⟨⟨_, requestId⟩, ⟨_, appSessionId⟩, ⟨_, imageSessionId⟩, ⟨_, conversationId⟩, ⟨_, turnId⟩, ⟨_, message⟩,
    ⟨_, view⟩, ⟨_, mode⟩, _, goalText⟩ := allThere
  simp [requestTexts, requestId, appSessionId, imageSessionId, conversationId, turnId, message, view, mode, goalText]
    at missing

/-- The layout is written as the request is, and refused as it is. -/
theorem chatRequestSerialize_ofRequest (request : Client.ChatRequest) :
    chatRequestSerialize .real (ofRequest request) = Client.chatRequestSerialize request := by
  unfold chatRequestSerialize Client.chatRequestSerialize
  cases present : requestTexts request with
  | none =>
    apply if_pos
    rcases isNone_of_requestTexts present with missing | missing | missing | missing | missing | missing | missing |
      missing | missing <;> simp [ofRequest, ofUiContext, missing]
  | some texts =>
    rw [requestDocument_ofRequest present]
    obtain ⟨requestId, appSessionId, imageSessionId, conversationId, turnId, message, view, mode, goalText⟩ :=
      requestTexts_of present
    simp [ofRequest, ofUiContext, requestId, appSessionId, imageSessionId, conversationId, turnId, message, view, mode,
      goalText]

/-- The job sends the document of the request that was built, although the strings of the request have been
freed by then: it was cleared as soon as the job had its copy. -/
theorem job_sends_built {heap : Heap} {request : ChatRequest Pointer ℚ} {built : Client.ChatRequest}
    (laidOut : request.load heap = some (ofRequest built)) :
    ∃ copy after, chatRequestCopy request heap = some (copy, after) ∧
      ∀ freed : List Nat, (∀ address ∈ freed, address < heap.size) →
        serializeIn .real (after.freeAll freed) copy = some (Client.chatRequestSerialize built) := by
  obtain ⟨copy, after, copies, writes⟩ := chatRequestCopy_writes .real laidOut
  refine ⟨copy, after, copies, ?_⟩
  intro freed older
  rw [writes _ (Keeps.freeAll older), chatRequestSerialize_ofRequest]

end DarktableAgent.Client.InMemory
