import DarktableAgent.Client.Collect

/-! The chat request: how the client collects it and the document it writes.

Capabilities and controls are collected one after the other from the same catalog.
The document is a JSON value; how its text is generated and read back is left to
the JSON libraries.
-/

set_option autoImplicit false

namespace DarktableAgent.Client

open Foundation Protocol

/-- A text that is left out when it is empty. -/
def unlessEmpty (text : String) : Option String := if text = "" then none else some text

section Capabilities

variable {σ W : Type}

/-- Only the descriptor of a choice has an array of options, if only an empty one. -/
def choiceArray (kind : OperationKind) (choices : List DescriptorChoice) : Option (List DescriptorChoice) :=
  if kind = .setChoice then some choices else none

structure AgentCapability where
  moduleId : String
  moduleLabel : String
  capabilityId : String
  label : String
  kind : OperationKind
  actionPath : String
  supportsSet : Bool
  supportsDelta : Bool
  minNumber : ℚ
  maxNumber : ℚ
  defaultNumber : ℚ
  stepNumber : ℚ
  choices : Option (List DescriptorChoice)
  defaultChoiceValue : Option Int
  defaultBool : Option Bool
  deriving DecidableEq, Repr

def capabilityOfDescriptor (descriptor : ActionDescriptor ℚ W) : AgentCapability where
  moduleId := descriptor.moduleId
  moduleLabel := descriptor.moduleLabel
  capabilityId := descriptor.capabilityId
  label := descriptor.label
  kind := descriptor.operationKind
  actionPath := descriptor.actionPath
  supportsSet := descriptor.supportsSet
  supportsDelta := descriptor.supportsDelta
  minNumber := descriptor.minNumber
  maxNumber := descriptor.maxNumber
  defaultNumber := descriptor.defaultNumber
  stepNumber := descriptor.stepNumber
  choices := choiceArray descriptor.operationKind descriptor.choices
  defaultChoiceValue := descriptor.defaultChoiceValue
  defaultBool := descriptor.defaultBool

/-- `dt_agent_capabilities_collect`. Without a develop state the catalog is not asked. -/
def capabilitiesCollect (darkroom : Darkroom σ ℚ W) (state : σ) : Except String (List AgentCapability) :=
  match catalogCollectDescriptors darkroom state with
  | .error _ => .error "missing agent capability manifest"
  | .ok descriptors => .ok (descriptors.map capabilityOfDescriptor)

end Capabilities

structure ImageStorage where
  id : Int
  filename : String
  cameraMaker : String
  cameraModel : String
  width : Int
  height : Int
  exifExposure : ℚ
  exifAperture : ℚ
  exifIso : ℚ
  exifFocalLength : ℚ

structure ImageMetadata where
  imageId : Option Int
  imageName : Option String
  cameraMaker : Option String
  cameraModel : Option String
  width : Int
  height : Int
  exifExposureSeconds : ℚ
  exifAperture : ℚ
  exifIso : ℚ
  exifFocalLength : ℚ

def collectMetadata (image : ImageStorage) : ImageMetadata where
  imageId := if 0 < image.id then some image.id else none
  imageName := unlessEmpty image.filename
  cameraMaker := unlessEmpty image.cameraMaker
  cameraModel := unlessEmpty image.cameraModel
  width := image.width
  height := image.height
  exifExposureSeconds := image.exifExposure
  exifAperture := image.exifAperture
  exifIso := image.exifIso
  exifFocalLength := image.exifFocalLength

structure DevHistoryItem where
  num : Int
  opName : String
  enabled : Bool
  multiPriority : Int
  multiName : String
  iopOrder : Int

structure HistoryItem where
  num : Int
  module : Option String
  enabled : Bool
  multiPriority : Int
  instanceName : Option String
  iopOrder : Int

def collectHistory (historyEnd : Int) (history : List DevHistoryItem) : List HistoryItem :=
  (history.take historyEnd.toNat).map fun item =>
    ⟨item.num, unlessEmpty item.opName, item.enabled, item.multiPriority, unlessEmpty item.multiName, item.iopOrder⟩

/-- A pixel buffer saved as JPEG. Buffers have an extent and their files have bytes. -/
structure EncodedPixbuf where
  width : Int
  height : Int
  base64Data : String
  widthPositive : 0 < width
  heightPositive : 0 < height
  base64DataPresent : base64Data ≠ ""

/-- The histogram arrays, which have a fixed size. -/
structure HistogramBins where
  red : List Nat
  green : List Nat
  blue : List Nat
  luma : List Nat
  sized : ∀ bins ∈ [red, green, blue, luma], bins.length = 256

/-- What rendering the image gives: saving may fail after the histogram has been counted. -/
structure Rendering where
  jpeg : Option EncodedPixbuf
  histogram : Option HistogramBins

structure Preview where
  previewId : String
  mimeType : String
  width : Int
  height : Int
  base64Data : String

def collectPreviewFromPixbuf (imageId historyEnd : Int) (pixbuf : EncodedPixbuf) : Preview where
  previewId := "preview-" ++ toString imageId ++ "-history-" ++ toString historyEnd
  mimeType := "image/jpeg"
  width := pixbuf.width
  height := pixbuf.height
  base64Data := pixbuf.base64Data

/-- The develop state, as far as a request reports it. -/
structure Develop where
  image : ImageStorage
  historyEnd : Int
  history : List DevHistoryItem
  rendering : Rendering

structure ImageState where
  historyPosition : Int
  historyCount : Int
  metadata : ImageMetadata
  controls : List (AgentImageControl ℚ)
  history : List HistoryItem
  preview : Option Preview
  histogram : Option HistogramBins

/-- `dt_agent_image_state_collect_from_dev`. Nothing is rendered for an image without an id. -/
def imageStateCollectFromDev {σ W : Type} (darkroom : Darkroom σ ℚ W) (state : σ) (dev : Develop) : ImageState :=
  let metadata := collectMetadata dev.image
  { historyPosition := dev.historyEnd
    historyCount := dev.history.length
    metadata := metadata
    controls := collectControls darkroom state
    history := collectHistory dev.historyEnd dev.history
    preview := do
      let imageId ← metadata.imageId
      return collectPreviewFromPixbuf imageId dev.historyEnd (← dev.rendering.jpeg)
    histogram := do
      let _ ← metadata.imageId
      dev.rendering.histogram }

structure UiContext where
  view : Option String
  imageId : Option Int
  imageName : Option String

def fillUiContext (image : ImageStorage) : UiContext where
  view := some "darkroom"
  imageId := if 0 < image.id then some image.id else none
  imageName := unlessEmpty image.filename

structure ChatRequest where
  schemaVersion : Option String
  requestId : Option String
  appSessionId : Option String
  imageSessionId : Option String
  conversationId : Option String
  turnId : Option String
  imageRevisionId : Option String
  messageText : Option String
  refinementMode : Option RefinementMode
  refinementEnabled : Bool
  refinementPassIndex : Nat
  refinementMaxPasses : Nat
  fastMode : Bool
  refinementGoalText : Option String
  uiContext : UiContext
  capabilities : List AgentCapability
  imageState : ImageState

/-- `_agent_chat_format_image_revision_id` -/
def formatImageRevisionId (imageId : Option Int) (historyPosition historyCount : Int) : String :=
  match imageId with
  | some imageId =>
    if 0 < imageId then
      "image-" ++ toString imageId ++ "-history-" ++ toString historyPosition ++ "-" ++ toString historyCount
    else "image-unknown"
  | none => "image-unknown"

/-- The ids of the chat that a request is built for. -/
structure ChatIds where
  appSessionId : String
  requestId : String
  imageSessionId : Option String
  conversationId : Option String

/-- `_agent_chat_build_request` -/
def buildRequest {σ W : Type} (darkroom : Darkroom σ ℚ W) (state : σ) (dev : Develop) (ids : ChatIds)
    (messageText : String) (goalText : Option String) (fastMode : Bool) (refinementMode : Option RefinementMode)
    (passIndex maxPasses : Nat) : Except String ChatRequest := do
  let capabilities ← capabilitiesCollect darkroom state
  let imageState := imageStateCollectFromDev darkroom state dev
  let uiContext := fillUiContext dev.image
  let goal := goalText.getD ""
  let request : ChatRequest := {
    schemaVersion := some "3.0"
    requestId := some ids.requestId
    appSessionId := some ids.appSessionId
    imageSessionId := ids.imageSessionId
    conversationId := ids.conversationId
    turnId := some ids.requestId
    imageRevisionId :=
      some (formatImageRevisionId uiContext.imageId imageState.historyPosition imageState.historyCount)
    messageText := some messageText
    refinementMode := refinementMode
    refinementEnabled := refinementMode = some .multiTurn
    refinementPassIndex := passIndex
    refinementMaxPasses := maxPasses
    fastMode := fastMode
    refinementGoalText := some (if goal ≠ "" then goal else messageText)
    uiContext := uiContext
    capabilities := capabilities
    imageState := imageState }
  if request.imageSessionId.isNone ∨ request.conversationId.isNone ∨ request.refinementMode.isNone
      ∨ request.refinementGoalText = some "" ∨ passIndex = 0 ∨ maxPasses = 0 ∨ maxPasses < passIndex then
    .error "failed to build an agent request"
  else .ok request

section Serialize

def orNull {α : Type} (write : α → Json) : Option α → Json
  | none => .null
  | some value => write value

def serializeChoiceOption (option : DescriptorChoice) : Json :=
  .obj [("choiceValue", .int option.choiceValue), ("choiceId", .str option.choiceId), ("label", .str option.label)]

def serializeChoiceOptions : Option (List DescriptorChoice) → Json :=
  orNull fun choices => .arr (choices.map serializeChoiceOption)

/-- The bounds of a control are written for numbers only. -/
def serializeBound (kind : OperationKind) (number : ℚ) : Json :=
  if kind = .setFloat then .real number else .null

def serializeModes (supportsSet supportsDelta : Bool) : Json :=
  .arr ((if supportsSet then [.str "set"] else []) ++ if supportsDelta then [.str "delta"] else [])

/-- One entry of `_serialize_capabilities`. -/
def AgentCapability.json (capability : AgentCapability) : JsonObject :=
  [("moduleId", .str capability.moduleId),
    ("moduleLabel", .str capability.moduleLabel),
    ("capabilityId", .str capability.capabilityId),
    ("label", .str capability.label),
    ("kind", .str capability.kind.name),
    ("targetType", .str "darktable-action"),
    ("actionPath", .str capability.actionPath),
    ("supportedModes", serializeModes capability.supportsSet capability.supportsDelta),
    ("minNumber", serializeBound capability.kind capability.minNumber),
    ("maxNumber", serializeBound capability.kind capability.maxNumber),
    ("defaultNumber", serializeBound capability.kind capability.defaultNumber),
    ("stepNumber", serializeBound capability.kind capability.stepNumber),
    ("choices", serializeChoiceOptions capability.choices),
    ("defaultChoiceValue", orNull .int capability.defaultChoiceValue),
    ("defaultBool", orNull .bool capability.defaultBool)]

/-- One entry of the editable settings. -/
def AgentImageControl.json (control : AgentImageControl ℚ) : JsonObject :=
  [("moduleId", .str control.moduleId),
    ("moduleLabel", .str control.moduleLabel),
    ("settingId", .str control.settingId),
    ("capabilityId", .str control.capabilityId),
    ("label", .str control.label),
    ("kind", .str control.kind.name),
    ("actionPath", .str control.actionPath),
    ("supportedModes", serializeModes control.supportsSet control.supportsDelta),
    ("minNumber", serializeBound control.kind control.minNumber),
    ("maxNumber", serializeBound control.kind control.maxNumber),
    ("defaultNumber", serializeBound control.kind control.defaultNumber),
    ("stepNumber", serializeBound control.kind control.stepNumber),
    ("currentNumber", orNull .real control.currentNumber),
    ("choices", serializeChoiceOptions (choiceArray control.kind control.choices)),
    ("defaultChoiceValue", orNull .int control.defaultChoiceValue),
    ("currentChoiceValue", orNull .int control.currentChoiceValue),
    ("currentChoiceId", orNull .str control.currentChoiceId),
    ("defaultBool", orNull .bool control.defaultBool),
    ("currentBool", orNull .bool control.currentBool)]

def ImageMetadata.json (metadata : ImageMetadata) : JsonObject :=
  [("imageId", orNull .int metadata.imageId),
    ("imageName", orNull .str metadata.imageName),
    ("cameraMaker", orNull .str metadata.cameraMaker),
    ("cameraModel", orNull .str metadata.cameraModel),
    ("width", .int metadata.width),
    ("height", .int metadata.height),
    ("exifExposureSeconds", .real metadata.exifExposureSeconds),
    ("exifAperture", .real metadata.exifAperture),
    ("exifIso", .real metadata.exifIso),
    ("exifFocalLength", .real metadata.exifFocalLength)]

def HistoryItem.json (item : HistoryItem) : JsonObject :=
  [("num", .int item.num),
    ("module", orNull .str item.module),
    ("enabled", .bool item.enabled),
    ("multiPriority", .int item.multiPriority),
    ("instanceName", orNull .str item.instanceName),
    ("iopOrder", .int item.iopOrder)]

def Preview.json (preview : Preview) : Json :=
  .obj [("previewId", .str preview.previewId),
    ("mimeType", .str preview.mimeType),
    ("width", .int preview.width),
    ("height", .int preview.height),
    ("base64Data", .str preview.base64Data)]

def serializeBins (bins : List Nat) : Json := .obj [("bins", .arr (bins.map fun count : Nat => .int count))]

def HistogramBins.json (histogram : HistogramBins) : Json :=
  .obj [("binCount", .int 256),
    ("channels", .obj [("red", serializeBins histogram.red), ("green", serializeBins histogram.green),
      ("blue", serializeBins histogram.blue), ("luma", serializeBins histogram.luma)])]

/-- `_build_image_revision_id` -/
def buildImageRevisionId (request : ChatRequest) : String :=
  let given := request.imageRevisionId.getD ""
  if given ≠ "" then given
  else
    match request.uiContext.imageId with
    | some imageId =>
      "image-" ++ toString imageId ++ "-history-" ++ toString request.imageState.historyPosition ++ "-"
        ++ toString request.imageState.historyCount
    | none => "image-unknown"

def serializeImageSnapshot (request : ChatRequest) : JsonObject :=
  let state := request.imageState
  [("imageRevisionId", .str (buildImageRevisionId request)),
    ("historyPosition", .int state.historyPosition),
    ("historyCount", .int state.historyCount),
    ("metadata", .obj state.metadata.json),
    ("editableSettings", .arr (state.controls.map fun control => .obj control.json)),
    ("history", .arr (state.history.map fun item => .obj item.json)),
    ("preview", orNull Preview.json state.preview),
    ("histogram", orNull HistogramBins.json state.histogram)]

/-- `MAX(1, (gint)passes)` -/
def serializePasses (passes : Nat) : Json := .int (max 1 (toGint passes))

/-- What a request must bring to be written at all. -/
structure RequestTexts where
  requestId : String
  appSessionId : String
  imageSessionId : String
  conversationId : String
  turnId : String
  messageText : String
  view : String
  mode : RefinementMode
  goalText : String
  deriving DecidableEq, Repr

def requestTexts (request : ChatRequest) : Option RequestTexts := do
  return {
    requestId := ← request.requestId
    appSessionId := ← request.appSessionId
    imageSessionId := ← request.imageSessionId
    conversationId := ← request.conversationId
    turnId := ← request.turnId
    messageText := ← request.messageText
    view := ← request.uiContext.view
    mode := ← request.refinementMode
    goalText := ← request.refinementGoalText }

/-- What the texts are of. -/
structure RequestTexts.Of (texts : RequestTexts) (request : ChatRequest) : Prop where
  requestId : request.requestId = some texts.requestId
  appSessionId : request.appSessionId = some texts.appSessionId
  imageSessionId : request.imageSessionId = some texts.imageSessionId
  conversationId : request.conversationId = some texts.conversationId
  turnId : request.turnId = some texts.turnId
  messageText : request.messageText = some texts.messageText
  view : request.uiContext.view = some texts.view
  mode : request.refinementMode = some texts.mode
  goalText : request.refinementGoalText = some texts.goalText

theorem requestTexts_of {request : ChatRequest} {texts : RequestTexts} (present : requestTexts request = some texts) :
    texts.Of request := by
  simp only [requestTexts, Option.bind_eq_bind, Option.bind_eq_some_iff, Option.pure_def, Option.some.injEq] at present
  obtain ⟨_, requestId, _, appSessionId, _, imageSessionId, _, conversationId, _, turnId, _, messageText, _, view,
    _, mode, _, goalText, rfl⟩ := present
  exact ⟨requestId, appSessionId, imageSessionId, conversationId, turnId, messageText, view, mode, goalText⟩

def requestDocument (request : ChatRequest) (texts : RequestTexts) : JsonObject :=
  [("schemaVersion", .str (request.schemaVersion.getD "3.0")),
    ("requestId", .str texts.requestId),
    ("session", .obj [("appSessionId", .str texts.appSessionId), ("imageSessionId", .str texts.imageSessionId),
      ("conversationId", .str texts.conversationId), ("turnId", .str texts.turnId)]),
    ("message", .obj [("role", .str "user"), ("text", .str texts.messageText)]),
    ("fast", .bool request.fastMode),
    ("uiContext", .obj [("view", .str texts.view), ("imageId", orNull .int request.uiContext.imageId),
      ("imageName", orNull .str request.uiContext.imageName)]),
    ("refinement", .obj [("mode", .str texts.mode.name), ("enabled", .bool request.refinementEnabled),
      ("passIndex", serializePasses request.refinementPassIndex),
      ("maxPasses", serializePasses request.refinementMaxPasses), ("goalText", .str texts.goalText)]),
    ("capabilityManifest", .obj [("manifestVersion", .str "darktable-agent-live"),
      ("targets", .arr (request.capabilities.map fun capability => .obj capability.json))]),
    ("imageSnapshot", .obj (serializeImageSnapshot request))]

/-- `dt_agent_chat_request_serialize` -/
def chatRequestSerialize (request : ChatRequest) : Except String Json :=
  match requestTexts request with
  | none => .error "request is incomplete"
  | some texts =>
    if request.capabilities = [] ∨ texts.goalText = ""
        ∨ request.refinementEnabled ≠ decide (texts.mode = .multiTurn)
        ∨ request.refinementPassIndex = 0 ∨ request.refinementMaxPasses = 0
        ∨ request.refinementMaxPasses < request.refinementPassIndex
        ∨ (¬ request.refinementEnabled ∧ (request.refinementPassIndex ≠ 1 ∨ request.refinementMaxPasses ≠ 1)) then
      .error "request is incomplete"
    else .ok (.obj (requestDocument request texts))

end Serialize

end DarktableAgent.Client
