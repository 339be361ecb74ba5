import DarktableAgent.Protocol.Request
import DarktableAgent.Server.Schema

/-! Schema validation of the chat request.

Every member of the document is checked; what the planner bridge never reads is
dropped from the result. Analysis signals are added by the server alone, a request
that brings some of its own is not modelled.
-/

set_option autoImplicit false

namespace DarktableAgent.Server

open Foundation Protocol

/-- A required member, which null is no value of. -/
def requiredMember {α : Type} (read : Json → Option α) (object : JsonObject) (member : String) : Option α :=
  (object.lookup member).bind read

/-- A required member that may be null. -/
def nullableMember {α : Type} (read : Json → Option α) (object : JsonObject) (member : String) : Option (Option α) :=
  requiredMember (fun
    | .null => some none
    | value => (read value).map some) object member

def listOf {α : Type} (read : Json → Option α) : Json → Option (List α)
  | .arr items => items.mapM read
  | _ => none

def objectOf {α : Type} (members : List String) (read : JsonObject → Option α) : Json → Option α
  | .obj object => do
    guard (onlyMembers members object)
    read object
  | _ => none

/-- A text out of a table of literals. -/
def literalOf {α : Type} (table : List (String × α)) : Json → Option α
  | .str text => table.lookup text
  | _ => none

def refinementModes : List (String × RefinementMode) := [("single-turn", .singleTurn), ("multi-turn", .multiTurn)]

def validateSession : Json → Option RequestSession :=
  objectOf ["appSessionId", "imageSessionId", "conversationId", "turnId"] fun object => do
    let appSessionId ← requiredMember Json.str? object "appSessionId"
    let imageSessionId ← requiredMember Json.str? object "imageSessionId"
    let conversationId ← requiredMember Json.str? object "conversationId"
    let turnId ← requiredMember Json.str? object "turnId"
    if present : ∀ text ∈ [appSessionId, imageSessionId, conversationId, turnId], text ≠ "" then
      return ⟨appSessionId, imageSessionId, conversationId, turnId, present⟩
    else none

def validateMessage : Json → Option Unit :=
  objectOf ["role", "text"] fun object => do
    let _ ← requiredMember (literalOf [("user", ())]) object "role"
    let _ ← textMember object "text"

section Validate

variable (library : SchemaLibrary)

def validateUiContext : Json → Option Unit :=
  objectOf ["view", "imageId", "imageName"] fun object => do
    let _ ← textMember object "view"
    let _ ← nullableMember library.integer object "imageId"
    let _ ← nullableMember Json.str? object "imageName"

/-- `RefinementRequest` -/
def validateRefinement : Json → Option RefinementRequest :=
  objectOf ["mode", "enabled", "maxPasses", "passIndex", "goalText"] fun object => do
    let mode ← requiredMember (literalOf refinementModes) object "mode"
    let enabled ← requiredMember library.boolean object "enabled"
    let maxPasses ← requiredMember library.integer object "maxPasses"
    let passIndex ← requiredMember library.integer object "passIndex"
    let _ ← textMember object "goalText"
    -- field bounds first, then the checks of the validator in their order
    if accepted : 1 ≤ maxPasses ∧ 1 ≤ passIndex ∧ rejectIf [
        (mode != (if enabled then .multiTurn else .singleTurn), "refinement mode does not match enabled flag"),
        (decide (maxPasses < passIndex), "refinement passIndex must be <= maxPasses"),
        (!enabled && maxPasses != 1, "single-turn refinement must use maxPasses=1"),
        (!enabled && passIndex != 1, "single-turn refinement must use passIndex=1")] = .ok () then
      return ⟨mode, enabled, maxPasses, passIndex, accepted.1, accepted.2.1, accepted.2.2⟩
    else none

def validateChoiceOption : Json → Option ChoiceOption :=
  objectOf ["choiceValue", "choiceId", "label"] fun object => do
    let choiceValue ← requiredMember library.integer object "choiceValue"
    let choiceId ← textMember object "choiceId"
    let label ← textMember object "label"
    return ⟨choiceValue, choiceId, label, text_present choiceId, text_present label⟩

def capabilityMembers : List String :=
  ["moduleId", "moduleLabel", "capabilityId", "label", "kind", "targetType", "actionPath", "supportedModes", "minNumber",
    "maxNumber", "defaultNumber", "stepNumber", "choices", "defaultChoiceValue", "defaultBool"]

def readCapability (object : JsonObject) : Option CapabilityMembers := do
  let _ ← requiredMember (literalOf [("darktable-action", ())]) object "targetType"
  return {
    moduleId := ← requiredMember Json.str? object "moduleId"
    moduleLabel := ← requiredMember Json.str? object "moduleLabel"
    capabilityId := ← requiredMember Json.str? object "capabilityId"
    label := ← requiredMember Json.str? object "label"
    kind := ← requiredMember (literalOf operationKinds) object "kind"
    actionPath := ← requiredMember Json.str? object "actionPath"
    supportedModes := ← requiredMember (listOf (literalOf operationModes)) object "supportedModes"
    minNumber := ← optionalMember library.number object "minNumber"
    maxNumber := ← optionalMember library.number object "maxNumber"
    defaultNumber := ← optionalMember library.number object "defaultNumber"
    stepNumber := ← optionalMember library.number object "stepNumber"
    choices := ← optionalMember (listOf (validateChoiceOption library)) object "choices"
    defaultChoiceValue := ← optionalMember library.integer object "defaultChoiceValue"
    defaultBool := ← optionalMember library.boolean object "defaultBool" }

def validateCapability : Json → Option Capability :=
  objectOf capabilityMembers fun object => do
    let capability ← readCapability library object
    if accepted : (∀ text ∈ [capability.moduleId, capability.moduleLabel, capability.capabilityId, capability.label,
        capability.actionPath], text ≠ "") ∧ capability.supportedModes ≠ [] ∧
        capability.validateValueShape = .ok () then
      return ⟨capability, accepted.1, accepted.2.1, accepted.2.2⟩
    else none

/-- `CapabilityManifest` -/
def validateManifest : Json → Option { targets : List Capability //
    targets ≠ [] ∧ (targets.map (·.capabilityId)).Nodup } :=
  objectOf ["manifestVersion", "targets"] fun object => do
    let _ ← textMember object "manifestVersion"
    let targets ← requiredMember (listOf (validateCapability library)) object "targets"
    if accepted : targets ≠ [] ∧ (targets.map (·.capabilityId)).Nodup then return ⟨targets, accepted⟩ else none

def settingMembers : List String :=
  ["moduleId", "moduleLabel", "settingId", "capabilityId", "label", "actionPath", "kind", "supportedModes",
    "currentNumber", "minNumber", "maxNumber", "defaultNumber", "stepNumber", "currentChoiceValue", "currentChoiceId",
    "choices", "defaultChoiceValue", "currentBool", "defaultBool"]

def validateEditableSetting : Json → Option EditableSetting :=
  objectOf settingMembers fun object => do
    let moduleId ← requiredMember Json.str? object "moduleId"
    let moduleLabel ← requiredMember Json.str? object "moduleLabel"
    let settingId ← requiredMember Json.str? object "settingId"
    let capabilityId ← requiredMember Json.str? object "capabilityId"
    let label ← requiredMember Json.str? object "label"
    let actionPath ← requiredMember Json.str? object "actionPath"
    let kind ← requiredMember (literalOf operationKinds) object "kind"
    let supportedModes ← requiredMember (listOf (literalOf operationModes)) object "supportedModes"
    let currentNumber ← optionalMember library.number object "currentNumber"
    let minNumber ← optionalMember library.number object "minNumber"
    let maxNumber ← optionalMember library.number object "maxNumber"
    let defaultNumber ← optionalMember library.number object "defaultNumber"
    let stepNumber ← optionalMember library.number object "stepNumber"
    let currentChoiceValue ← optionalMember library.integer object "currentChoiceValue"
    let currentChoiceId ← optionalMember Json.str? object "currentChoiceId"
    let choices ← optionalMember (listOf (validateChoiceOption library)) object "choices"
    let defaultChoiceValue ← optionalMember library.integer object "defaultChoiceValue"
    let currentBool ← optionalMember library.boolean object "currentBool"
    let defaultBool ← optionalMember library.boolean object "defaultBool"
    if accepted : (∀ text ∈ [moduleId, moduleLabel, settingId, capabilityId, label, actionPath], text ≠ "") ∧
        supportedModes ≠ [] then
      return {
        moduleId := moduleId
        moduleLabel := moduleLabel
        settingId := settingId
        capabilityId := capabilityId
        label := label
        actionPath := actionPath
        kind := kind
        supportedModes := supportedModes
        currentNumber := currentNumber
        minNumber := minNumber
        maxNumber := maxNumber
        defaultNumber := defaultNumber
        stepNumber := stepNumber
        currentChoiceValue := currentChoiceValue
        currentChoiceId := currentChoiceId
        choices := choices
        defaultChoiceValue := defaultChoiceValue
        currentBool := currentBool
        defaultBool := defaultBool
        present := accepted.1
        supportedModesPresent := accepted.2 }
    else none

def validateMetadata : Json → Option Unit :=
  objectOf ["imageId", "imageName", "cameraMaker", "cameraModel", "width", "height", "exifExposureSeconds",
      "exifAperture", "exifIso", "exifFocalLength"] fun object => do
    let _ ← nullableMember library.integer object "imageId"
    let _ ← nullableMember Json.str? object "imageName"
    let _ ← nullableMember Json.str? object "cameraMaker"
    let _ ← nullableMember Json.str? object "cameraModel"
    let _ ← requiredMember library.integer object "width"
    let _ ← requiredMember library.integer object "height"
    let _ ← requiredMember library.number object "exifExposureSeconds"
    let _ ← requiredMember library.number object "exifAperture"
    let _ ← requiredMember library.number object "exifIso"
    let _ ← requiredMember library.number object "exifFocalLength"

def validateHistoryItem : Json → Option Unit :=
  objectOf ["num", "module", "enabled", "multiPriority", "instanceName", "iopOrder"] fun object => do
    let _ ← requiredMember library.integer object "num"
    let _ ← nullableMember Json.str? object "module"
    let _ ← requiredMember library.boolean object "enabled"
    let _ ← requiredMember library.integer object "multiPriority"
    let _ ← nullableMember Json.str? object "instanceName"
    let _ ← requiredMember library.integer object "iopOrder"

def validatePreview : Json → Option Unit :=
  objectOf ["previewId", "mimeType", "width", "height", "base64Data"] fun object => do
    let _ ← textMember object "previewId"
    let _ ← textMember object "mimeType"
    let width ← requiredMember library.integer object "width"
    let height ← requiredMember library.integer object "height"
    guard (0 < width ∧ 0 < height)
    let _ ← textMember object "base64Data"

/-- The number of bins of a channel. -/
def validateHistogramChannel : Json → Option Nat :=
  objectOf ["bins"] fun object => do
    let bins ← requiredMember (listOf library.integer) object "bins"
    guard (bins ≠ [])
    return bins.length

/-- `Histogram` with its `validate_bin_counts`; channels may have any name. -/
def validateHistogram : Json → Option Unit :=
  objectOf ["binCount", "channels"] fun object => do
    let binCount ← requiredMember library.integer object "binCount"
    guard (0 < binCount)
    let channels ← requiredMember (fun
      | .obj channels => some channels
      | _ => none) object "channels"
    guard (channels ≠ [])
    let lengths ← channels.mapM fun channel => validateHistogramChannel library channel.2
    guard (∀ length ∈ lengths, (length : Int) = binCount)

def validateImageSnapshot : Json → Option ImageSnapshot :=
  objectOf ["imageRevisionId", "metadata", "historyPosition", "historyCount", "editableSettings", "history", "preview",
      "histogram"] fun object => do
    let imageRevisionId ← textMember object "imageRevisionId"
    let _ ← requiredMember (validateMetadata library) object "metadata"
    let _ ← requiredMember library.integer object "historyPosition"
    let _ ← requiredMember library.integer object "historyCount"
    let editableSettings ← requiredMember (listOf (validateEditableSetting library)) object "editableSettings"
    let _ ← requiredMember (listOf (validateHistoryItem library)) object "history"
    let _ ← nullableMember (validatePreview library) object "preview"
    let _ ← nullableMember (validateHistogram library) object "histogram"
    return ⟨imageRevisionId, editableSettings, text_present imageRevisionId⟩

/-- `RequestEnvelope` -/
def validateRequest : Json → Option RequestEnvelope :=
  objectOf ["schemaVersion", "requestId", "session", "message", "fast", "refinement", "uiContext", "capabilityManifest",
      "imageSnapshot"] fun object => do
    let _ ← requiredMember (literalOf [("3.0", ())]) object "schemaVersion"
    let requestId ← textMember object "requestId"
    let session ← requiredMember validateSession object "session"
    let _ ← requiredMember validateMessage object "message"
    let _ ← requiredMember library.boolean object "fast"
    let refinement ← requiredMember (validateRefinement library) object "refinement"
    let _ ← requiredMember (validateUiContext library) object "uiContext"
    let capabilities ← requiredMember (validateManifest library) object "capabilityManifest"
    let imageSnapshot ← requiredMember (validateImageSnapshot library) object "imageSnapshot"
    if consistent : ∀ setting ∈ imageSnapshot.editableSettings,
        settingConsistency capabilities.1 setting = .ok () then
      return ⟨requestId, session, refinement, capabilities, imageSnapshot, text_present requestId,
        capabilities.2.1, capabilities.2.2, consistent⟩
    else none

end Validate

end DarktableAgent.Server
