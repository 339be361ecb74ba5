import DarktableAgent.Client.ChatRequest
import DarktableAgent.Foundation.StringHeap

/-! The chat request in memory, and its deep copy.

Each structure is over what its strings are: pointers while it is in memory, texts once it has been
read. Arrays and their items belong to the structure that has them; a copy makes its own, so that
only strings could be shared. Doubles are of any type.
-/

set_option autoImplicit false

namespace DarktableAgent.Client.InMemory

open Foundation Foundation.Heap Protocol

structure ChoiceOption (P : Type) where
  choiceValue : Int
  choiceId : P
  label : P

structure Capability (P ν : Type) where
  moduleId : P
  moduleLabel : P
  capabilityId : P
  label : P
  kind : P
  targetType : P
  actionPath : P
  supportedModes : Nat
  minNumber : ν
  maxNumber : ν
  defaultNumber : ν
  stepNumber : ν
  choices : Option (List (ChoiceOption P))
  hasDefaultChoiceValue : Bool
  defaultChoiceValue : Int
  hasDefaultBool : Bool
  defaultBool : Bool

structure ImageMetadata (P ν : Type) where
  hasImageId : Bool
  imageId : Int
  imageName : P
  cameraMaker : P
  cameraModel : P
  width : Int
  height : Int
  exifExposureSeconds : ν
  exifAperture : ν
  exifIso : ν
  exifFocalLength : ν

structure ImageControl (P ν : Type) where
  moduleId : P
  moduleLabel : P
  settingId : P
  capabilityId : P
  label : P
  kind : P
  actionPath : P
  supportedModes : Nat
  hasCurrentNumber : Bool
  currentNumber : ν
  choices : Option (List (ChoiceOption P))
  hasDefaultChoiceValue : Bool
  defaultChoiceValue : Int
  hasCurrentChoiceValue : Bool
  currentChoiceValue : Int
  currentChoiceId : P
  hasDefaultBool : Bool
  defaultBool : Bool
  hasCurrentBool : Bool
  currentBool : Bool
  minNumber : ν
  maxNumber : ν
  defaultNumber : ν
  stepNumber : ν

structure HistoryItem (P : Type) where
  num : Int
  module : P
  enabled : Bool
  multiPriority : Int
  instanceName : P
  iopOrder : Int

structure Preview (P : Type) where
  available : Bool
  previewId : P
  mimeType : P
  width : Int
  height : Int
  base64Data : P

/-- Not more bins than the arrays have places. -/
abbrev BinCount := { count : Int // count ≤ 256 }

structure Histogram where
  available : Bool
  binCount : BinCount
  red : Vector Nat 256
  green : Vector Nat 256
  blue : Vector Nat 256
  luma : Vector Nat 256

/-- `controls` and `history` are missing until `dt_agent_image_state_init` makes them. -/
structure ImageState (P ν : Type) where
  historyPosition : Int
  historyCount : Int
  metadata : ImageMetadata P ν
  controls : Option (List (ImageControl P ν))
  history : Option (List (HistoryItem P))
  preview : Preview P
  histogram : Histogram

structure UiContext (P : Type) where
  view : P
  hasImageId : Bool
  imageId : Int
  imageName : P

/-- The mode is missing when it is not known. -/
structure ChatRequest (P ν : Type) where
  schemaVersion : P
  requestId : P
  appSessionId : P
  imageSessionId : P
  conversationId : P
  turnId : P
  imageRevisionId : P
  messageText : P
  refinementMode : Option RefinementMode
  refinementEnabled : Bool
  refinementPassIndex : Nat
  refinementMaxPasses : Nat
  fastMode : Bool
  refinementGoalText : P
  uiContext : UiContext P
  capabilities : Option (List (Capability P ν))
  imageState : ImageState P ν

/-! ## Zeroed memory -/

section Zeroed

variable {ν : Type} [Zero ν]

def ChoiceOption.zeroed : ChoiceOption Pointer := ⟨0, none, none⟩

def Capability.zeroed : Capability Pointer ν :=
  ⟨none, none, none, none, none, none, none, 0, 0, 0, 0, 0, none, false, 0, false, false⟩

def ImageMetadata.zeroed : ImageMetadata Pointer ν := ⟨false, 0, none, none, none, 0, 0, 0, 0, 0, 0⟩

def ImageControl.zeroed : ImageControl Pointer ν :=
  ⟨none, none, none, none, none, none, none, 0, false, 0, none, false, 0, false, 0, none, false, false, false, false,
    0, 0, 0, 0⟩

def HistoryItem.zeroed : HistoryItem Pointer := ⟨0, none, false, 0, none, 0⟩

def Preview.zeroed : Preview Pointer := ⟨false, none, none, 0, 0, none⟩

def Histogram.zeroed : Histogram :=
  ⟨false, ⟨0, by decide⟩, .replicate 256 0, .replicate 256 0, .replicate 256 0, .replicate 256 0⟩

def ImageState.zeroed : ImageState Pointer ν := ⟨0, 0, .zeroed, none, none, .zeroed, .zeroed⟩

def UiContext.zeroed : UiContext Pointer := ⟨none, false, 0, none⟩

def ChatRequest.zeroed : ChatRequest Pointer ν :=
  ⟨none, none, none, none, none, none, none, none, none, false, 0, 0, false, none, .zeroed, none, .zeroed⟩

end Zeroed

/-! ## Copies -/

/-- `dt_agent_choice_option_copy` -/
def choiceOptionCopy (src : ChoiceOption Pointer) : StateT Heap Option (ChoiceOption Pointer) := do
  let dest : ChoiceOption Pointer := .zeroed
  return { dest with
    choiceValue := src.choiceValue
    choiceId := ← strdup src.choiceId
    label := ← strdup src.label }

/-- The array is made when the original has one. -/
def choicesCopy : Option (List (ChoiceOption Pointer)) → StateT Heap Option (Option (List (ChoiceOption Pointer))) :=
  copyOption (List.mapM choiceOptionCopy)

section Copies

variable {ν : Type} [Zero ν]

/-- `dt_agent_capability_copy` -/
def capabilityCopy (src : Capability Pointer ν) : StateT Heap Option (Capability Pointer ν) := do
  let dest : Capability Pointer ν := .zeroed
  return { dest with
    moduleId := ← strdup src.moduleId
    moduleLabel := ← strdup src.moduleLabel
    capabilityId := ← strdup src.capabilityId
    label := ← strdup src.label
    kind := ← strdup src.kind
    targetType := ← strdup src.targetType
    actionPath := ← strdup src.actionPath
    supportedModes := src.supportedModes
    minNumber := src.minNumber
    maxNumber := src.maxNumber
    defaultNumber := src.defaultNumber
    stepNumber := src.stepNumber
    choices := ← choicesCopy src.choices
    hasDefaultChoiceValue := src.hasDefaultChoiceValue
    defaultChoiceValue := src.defaultChoiceValue
    hasDefaultBool := src.hasDefaultBool
    defaultBool := src.defaultBool }

/-- `_agent_image_control_copy` -/
def imageControlCopy (src : ImageControl Pointer ν) : StateT Heap Option (ImageControl Pointer ν) := do
  let dest : ImageControl Pointer ν := .zeroed
  return { dest with
    moduleId := ← strdup src.moduleId
    moduleLabel := ← strdup src.moduleLabel
    settingId := ← strdup src.settingId
    capabilityId := ← strdup src.capabilityId
    label := ← strdup src.label
    kind := ← strdup src.kind
    actionPath := ← strdup src.actionPath
    supportedModes := src.supportedModes
    hasCurrentNumber := src.hasCurrentNumber
    currentNumber := src.currentNumber
    choices := ← choicesCopy src.choices
    hasDefaultChoiceValue := src.hasDefaultChoiceValue
    defaultChoiceValue := src.defaultChoiceValue
    hasCurrentChoiceValue := src.hasCurrentChoiceValue
    currentChoiceValue := src.currentChoiceValue
    currentChoiceId := ← strdup src.currentChoiceId
    hasDefaultBool := src.hasDefaultBool
    defaultBool := src.defaultBool
    hasCurrentBool := src.hasCurrentBool
    currentBool := src.currentBool
    minNumber := src.minNumber
    maxNumber := src.maxNumber
    defaultNumber := src.defaultNumber
    stepNumber := src.stepNumber }

/-- `_agent_history_item_copy` -/
def historyItemCopy (src : HistoryItem Pointer) : StateT Heap Option (HistoryItem Pointer) := do
  let dest : HistoryItem Pointer := .zeroed
  return { dest with
    num := src.num
    module := ← strdup src.module
    enabled := src.enabled
    multiPriority := src.multiPriority
    instanceName := ← strdup src.instanceName
    iopOrder := src.iopOrder }

/-- What `dt_agent_image_state_copy` does with the metadata. -/
def metadataCopy (src : ImageMetadata Pointer ν) : StateT Heap Option (ImageMetadata Pointer ν) := do
  let dest : ImageMetadata Pointer ν := .zeroed
  return { dest with
    hasImageId := src.hasImageId
    imageId := src.imageId
    imageName := ← strdup src.imageName
    cameraMaker := ← strdup src.cameraMaker
    cameraModel := ← strdup src.cameraModel
    width := src.width
    height := src.height
    exifExposureSeconds := src.exifExposureSeconds
    exifAperture := src.exifAperture
    exifIso := src.exifIso
    exifFocalLength := src.exifFocalLength }

/-- What `dt_agent_image_state_copy` does with the preview. -/
def previewCopy (src : Preview Pointer) : StateT Heap Option (Preview Pointer) := do
  let dest : Preview Pointer := .zeroed
  return { dest with
    available := src.available
    previewId := ← strdup src.previewId
    mimeType := ← strdup src.mimeType
    width := src.width
    height := src.height
    base64Data := ← strdup src.base64Data }

def histogramCopy (src : Histogram) : Histogram :=
  { Histogram.zeroed with
    available := src.available
    binCount := src.binCount
    red := src.red
    green := src.green
    blue := src.blue
    luma := src.luma }

/-- `dt_agent_image_state_init` -/
def imageStateInit : ImageState Pointer ν := { ImageState.zeroed with controls := some [], history := some [] }

/-- `dt_agent_image_state_copy`. It asks for the arrays of the original without looking whether they are there. -/
def imageStateCopy (src : ImageState Pointer ν) : StateT Heap Option (ImageState Pointer ν) := do
  let dest : ImageState Pointer ν := imageStateInit
  return { dest with
    historyPosition := src.historyPosition
    historyCount := src.historyCount
    metadata := ← metadataCopy src.metadata
    controls := ← copyPresent (List.mapM imageControlCopy) src.controls
    history := ← copyPresent (List.mapM historyItemCopy) src.history
    preview := ← previewCopy src.preview
    histogram := histogramCopy src.histogram }

/-- What `dt_agent_chat_request_copy` does with the context. -/
def uiContextCopy (src : UiContext Pointer) : StateT Heap Option (UiContext Pointer) := do
  let dest : UiContext Pointer := .zeroed
  return { dest with
    view := ← strdup src.view
    hasImageId := src.hasImageId
    imageId := src.imageId
    imageName := ← strdup src.imageName }

/-- `dt_agent_chat_request_init`, but for the schema version: a copy frees it again at once. -/
def chatRequestInit : ChatRequest Pointer ν :=
  { ChatRequest.zeroed with
    refinementMode := some .singleTurn
    refinementEnabled := false
    refinementPassIndex := 1
    refinementMaxPasses := 1
    fastMode := false
    capabilities := some [] }

/-- `dt_agent_chat_request_copy`. The copy has an array of capabilities even when the original has none. -/
def chatRequestCopy (src : ChatRequest Pointer ν) : StateT Heap Option (ChatRequest Pointer ν) := do
  let dest : ChatRequest Pointer ν := chatRequestInit
  return { dest with
    schemaVersion := ← strdup src.schemaVersion
    requestId := ← strdup src.requestId
    appSessionId := ← strdup src.appSessionId
    imageSessionId := ← strdup src.imageSessionId
    conversationId := ← strdup src.conversationId
    turnId := ← strdup src.turnId
    imageRevisionId := ← strdup src.imageRevisionId
    messageText := ← strdup src.messageText
    refinementMode := src.refinementMode
    refinementEnabled := src.refinementEnabled
    refinementPassIndex := src.refinementPassIndex
    refinementMaxPasses := src.refinementMaxPasses
    fastMode := src.fastMode
    refinementGoalText := ← strdup src.refinementGoalText
    uiContext := ← uiContextCopy src.uiContext
    capabilities := some (← (src.capabilities.getD []).mapM capabilityCopy)
    imageState := ← imageStateCopy src.imageState }

end Copies

/-! ## Reading -/

def ChoiceOption.load (heap : Heap) (src : ChoiceOption Pointer) : Option (ChoiceOption Text) := do
  return {
    choiceValue := src.choiceValue
    choiceId := ← heap.read src.choiceId
    label := ← heap.read src.label }

def loadChoices : Heap → Option (List (ChoiceOption Pointer)) → Option (Option (List (ChoiceOption Text))) :=
  loadOption (loadList ChoiceOption.load)

section Load

variable {ν : Type}

def Capability.load (heap : Heap) (src : Capability Pointer ν) : Option (Capability Text ν) := do
  return { src with
    moduleId := ← heap.read src.moduleId
    moduleLabel := ← heap.read src.moduleLabel
    capabilityId := ← heap.read src.capabilityId
    label := ← heap.read src.label
    kind := ← heap.read src.kind
    targetType := ← heap.read src.targetType
    actionPath := ← heap.read src.actionPath
    choices := ← loadChoices heap src.choices }

def ImageMetadata.load (heap : Heap) (src : ImageMetadata Pointer ν) : Option (ImageMetadata Text ν) := do
  return { src with
    imageName := ← heap.read src.imageName
    cameraMaker := ← heap.read src.cameraMaker
    cameraModel := ← heap.read src.cameraModel }

def ImageControl.load (heap : Heap) (src : ImageControl Pointer ν) : Option (ImageControl Text ν) := do
  return { src with
    moduleId := ← heap.read src.moduleId
    moduleLabel := ← heap.read src.moduleLabel
    settingId := ← heap.read src.settingId
    capabilityId := ← heap.read src.capabilityId
    label := ← heap.read src.label
    kind := ← heap.read src.kind
    actionPath := ← heap.read src.actionPath
    choices := ← loadChoices heap src.choices
    currentChoiceId := ← heap.read src.currentChoiceId }

def HistoryItem.load (heap : Heap) (src : HistoryItem Pointer) : Option (HistoryItem Text) := do
  return { src with
    module := ← heap.read src.module
    instanceName := ← heap.read src.instanceName }

def Preview.load (heap : Heap) (src : Preview Pointer) : Option (Preview Text) := do
  return { src with
    previewId := ← heap.read src.previewId
    mimeType := ← heap.read src.mimeType
    base64Data := ← heap.read src.base64Data }

/-- The arrays of controls and of history have to be there. -/
def ImageState.load (heap : Heap) (src : ImageState Pointer ν) : Option (ImageState Text ν) := do
  return { src with
    metadata := ← src.metadata.load heap
    controls := ← loadPresent (loadList ImageControl.load) heap src.controls
    history := ← loadPresent (loadList HistoryItem.load) heap src.history
    preview := ← src.preview.load heap }

def UiContext.load (heap : Heap) (src : UiContext Pointer) : Option (UiContext Text) := do
  return { src with
    view := ← heap.read src.view
    imageName := ← heap.read src.imageName }

def ChatRequest.load (heap : Heap) (src : ChatRequest Pointer ν) : Option (ChatRequest Text ν) := do
  return { src with
    schemaVersion := ← heap.read src.schemaVersion
    requestId := ← heap.read src.requestId
    appSessionId := ← heap.read src.appSessionId
    imageSessionId := ← heap.read src.imageSessionId
    conversationId := ← heap.read src.conversationId
    turnId := ← heap.read src.turnId
    imageRevisionId := ← heap.read src.imageRevisionId
    messageText := ← heap.read src.messageText
    refinementGoalText := ← heap.read src.refinementGoalText
    uiContext := ← src.uiContext.load heap
    capabilities := ← loadOption (loadList Capability.load) heap src.capabilities
    imageState := ← src.imageState.load heap }

end Load

/-! ## Writing -/

/-- `json_builder_add_string_value` -/
def writeString : Text → Json := orNull .str

/-- A value that a flag guards. -/
def whenSet (flag : Bool) (value : Json) : Json := if flag then value else .null

def serializeChoiceOption (option : ChoiceOption Text) : Json :=
  .obj [("choiceValue", .int option.choiceValue), ("choiceId", writeString option.choiceId),
    ("label", writeString option.label)]

/-- `_serialize_choice_options` -/
def serializeChoiceOptions : Option (List (ChoiceOption Text)) → Json :=
  orNull fun choices => .arr (choices.map serializeChoiceOption)

/-- `DT_AGENT_VALUE_MODE_FLAG_SET` and `DT_AGENT_VALUE_MODE_FLAG_DELTA` are the two lowest bits. -/
def serializeSupportedModes (supportedModes : Nat) : Json :=
  .arr ((if supportedModes &&& 1 ≠ 0 then [.str "set"] else []) ++
    if supportedModes &&& 2 ≠ 0 then [.str "delta"] else [])

section Write

variable {ν : Type} (real : ν → Json)

def serializeNumber (kind : Text) (number : ν) : Json := if kind = some "set-float" then real number else .null

/-- One entry of `_serialize_capabilities`. -/
def Capability.json (capability : Capability Text ν) : JsonObject :=
  [("moduleId", writeString capability.moduleId),
    ("moduleLabel", writeString capability.moduleLabel),
    ("capabilityId", writeString capability.capabilityId),
    ("label", writeString capability.label),
    ("kind", writeString capability.kind),
    ("targetType", writeString capability.targetType),
    ("actionPath", writeString capability.actionPath),
    ("supportedModes", serializeSupportedModes capability.supportedModes),
    ("minNumber", serializeNumber real capability.kind capability.minNumber),
    ("maxNumber", serializeNumber real capability.kind capability.maxNumber),
    ("defaultNumber", serializeNumber real capability.kind capability.defaultNumber),
    ("stepNumber", serializeNumber real capability.kind capability.stepNumber),
    ("choices", serializeChoiceOptions capability.choices),
    ("defaultChoiceValue", whenSet capability.hasDefaultChoiceValue (.int capability.defaultChoiceValue)),
    ("defaultBool", whenSet capability.hasDefaultBool (.bool capability.defaultBool))]

def ImageMetadata.json (metadata : ImageMetadata Text ν) : JsonObject :=
  [("imageId", whenSet metadata.hasImageId (.int metadata.imageId)),
    ("imageName", writeString metadata.imageName),
    ("cameraMaker", writeString metadata.cameraMaker),
    ("cameraModel", writeString metadata.cameraModel),
    ("width", .int metadata.width),
    ("height", .int metadata.height),
    ("exifExposureSeconds", real metadata.exifExposureSeconds),
    ("exifAperture", real metadata.exifAperture),
    ("exifIso", real metadata.exifIso),
    ("exifFocalLength", real metadata.exifFocalLength)]

/-- One entry of the editable settings. -/
def ImageControl.json (control : ImageControl Text ν) : JsonObject :=
  [("moduleId", writeString control.moduleId),
    ("moduleLabel", writeString control.moduleLabel),
    ("settingId", writeString control.settingId),
    ("capabilityId", writeString control.capabilityId),
    ("label", writeString control.label),
    ("kind", writeString control.kind),
    ("actionPath", writeString control.actionPath),
    ("supportedModes", serializeSupportedModes control.supportedModes),
    ("minNumber", serializeNumber real control.kind control.minNumber),
    ("maxNumber", serializeNumber real control.kind control.maxNumber),
    ("defaultNumber", serializeNumber real control.kind control.defaultNumber),
    ("stepNumber", serializeNumber real control.kind control.stepNumber),
    ("currentNumber", whenSet control.hasCurrentNumber (real control.currentNumber)),
    ("choices", serializeChoiceOptions control.choices),
    ("defaultChoiceValue", whenSet control.hasDefaultChoiceValue (.int control.defaultChoiceValue)),
    ("currentChoiceValue", whenSet control.hasCurrentChoiceValue (.int control.currentChoiceValue)),
    ("currentChoiceId", writeString control.currentChoiceId),
    ("defaultBool", whenSet control.hasDefaultBool (.bool control.defaultBool)),
    ("currentBool", whenSet control.hasCurrentBool (.bool control.currentBool))]

def HistoryItem.json (item : HistoryItem Text) : JsonObject :=
  [("num", .int item.num),
    ("module", writeString item.module),
    ("enabled", .bool item.enabled),
    ("multiPriority", .int item.multiPriority),
    ("instanceName", writeString item.instanceName),
    ("iopOrder", .int item.iopOrder)]

def Preview.json (preview : Preview Text) : Json :=
  .obj [("previewId", writeString preview.previewId),
    ("mimeType", writeString preview.mimeType),
    ("width", .int preview.width),
    ("height", .int preview.height),
    ("base64Data", writeString preview.base64Data)]

def serializeChannel (binCount : BinCount) (bins : Vector Nat 256) : Json :=
  serializeBins (bins.toList.take binCount.val.toNat)

def Histogram.json (histogram : Histogram) : Json :=
  .obj [("binCount", .int histogram.binCount.val),
    ("channels", .obj [("red", serializeChannel histogram.binCount histogram.red),
      ("green", serializeChannel histogram.binCount histogram.green),
      ("blue", serializeChannel histogram.binCount histogram.blue),
      ("luma", serializeChannel histogram.binCount histogram.luma)])]

/-- `_build_image_revision_id` -/
def buildImageRevisionId (request : ChatRequest Text ν) : String :=
  let given := request.imageRevisionId.getD ""
  if given ≠ "" then given
  else if request.uiContext.hasImageId then
    "image-" ++ toString request.uiContext.imageId ++ "-history-" ++ toString request.imageState.historyPosition ++ "-"
      ++ toString request.imageState.historyCount
  else "image-unknown"

/-- `_serialize_image_snapshot`. A request that could be read has its arrays of controls and of history. -/
def serializeImageSnapshot (request : ChatRequest Text ν) : JsonObject :=
  let state := request.imageState
  [("imageRevisionId", .str (buildImageRevisionId request)),
    ("historyPosition", .int state.historyPosition),
    ("historyCount", .int state.historyCount),
    ("metadata", .obj (state.metadata.json real)),
    ("editableSettings", .arr ((state.controls.getD []).map fun control => .obj (control.json real))),
    ("history", .arr ((state.history.getD []).map fun item => .obj item.json)),
    ("preview", whenSet state.preview.available state.preview.json),
    ("histogram", whenSet state.histogram.available state.histogram.json)]

/-- `dt_agent_refinement_mode_to_string` -/
def refinementModeToString : Option RefinementMode → String
  | none => "unknown"
  | some mode => mode.name

def requestDocument (request : ChatRequest Text ν) : JsonObject :=
  [("schemaVersion", .str (request.schemaVersion.getD "3.0")),
    ("requestId", writeString request.requestId),
    ("session", .obj [("appSessionId", writeString request.appSessionId),
      ("imageSessionId", writeString request.imageSessionId), ("conversationId", writeString request.conversationId),
      ("turnId", writeString request.turnId)]),
    ("message", .obj [("role", .str "user"), ("text", writeString request.messageText)]),
    ("fast", .bool request.fastMode),
    ("uiContext", .obj [("view", writeString request.uiContext.view),
      ("imageId", whenSet request.uiContext.hasImageId (.int request.uiContext.imageId)),
      ("imageName", writeString request.uiContext.imageName)]),
    ("refinement", .obj [("mode", .str (refinementModeToString request.refinementMode)),
      ("enabled", .bool request.refinementEnabled), ("passIndex", serializePasses request.refinementPassIndex),
      ("maxPasses", serializePasses request.refinementMaxPasses),
      ("goalText", writeString request.refinementGoalText)]),
    ("capabilityManifest", .obj [("manifestVersion", .str "darktable-agent-live"),
      ("targets", .arr ((request.capabilities.getD []).map fun capability => .obj (capability.json real)))]),
    ("imageSnapshot", .obj (serializeImageSnapshot real request))]

/-- `dt_agent_chat_request_serialize`, once the request has been read. -/
def chatRequestSerialize (request : ChatRequest Text ν) : Except String Json :=
  if request.requestId.isNone ∨ request.appSessionId.isNone ∨ request.imageSessionId.isNone
      ∨ request.conversationId.isNone ∨ request.turnId.isNone ∨ request.messageText.isNone
      ∨ request.uiContext.view.isNone ∨ (request.capabilities.getD []).isEmpty ∨ request.refinementMode.isNone
      ∨ request.refinementGoalText.isNone ∨ request.refinementGoalText = some ""
      ∨ request.refinementEnabled ≠ decide (request.refinementMode = some .multiTurn)
      ∨ request.refinementPassIndex = 0 ∨ request.refinementMaxPasses = 0
      ∨ request.refinementMaxPasses < request.refinementPassIndex
      ∨ (¬ request.refinementEnabled ∧ (request.refinementPassIndex ≠ 1 ∨ request.refinementMaxPasses ≠ 1)) then
    .error "request is incomplete"
  else .ok (.obj (requestDocument real request))

/-- `dt_agent_chat_request_serialize` on a request in memory. Without what it reads there is no result. -/
def serializeIn (heap : Heap) (request : ChatRequest Pointer ν) : Option (Except String Json) :=
  (request.load heap).map (chatRequestSerialize real)

end Write

end DarktableAgent.Client.InMemory
