import DarktableAgent.Protocol.Plan

/-! Schema validation of tool arguments.

The object structure of the models is fixed here: required and optional members,
literals, and no unknown members. How a scalar of another JSON type is coerced,
and how a refusal is worded, belongs to the validation library.
-/

set_option autoImplicit false

namespace DarktableAgent.Server

open Foundation Protocol

structure SchemaLibrary where
  number : Json → Option ℚ
  integer : Json → Option Int
  boolean : Json → Option Bool
  explain : Json → String

def onlyMembers (allowed : List String) (object : JsonObject) : Bool :=
  object.all fun member => member.1 ∈ allowed

/-- A required text of at least one character. -/
def textMember (object : JsonObject) (member : String) : Option { text : String // text ≠ "" } :=
  match object.lookup member with
  | some (.str text) => if present : text ≠ "" then some ⟨text, present⟩ else none
  | _ => none

/-- An optional member: absent and null are the same. -/
def optionalMember {α : Type} (read : Json → Option α) (object : JsonObject) (member : String) :
    Option (Option α) :=
  match object.lookup member with
  | none | some .null => some none
  | some value => (read value).map some

def literalMember {α : Type} (table : List (String × α)) (object : JsonObject) (member : String) : Option α :=
  match object.lookup member with
  | some (.str text) => table.lookup text
  | _ => none

def operationKinds : List (String × OperationKind) :=
  [("set-float", .setFloat), ("set-choice", .setChoice), ("set-bool", .setBool)]

def operationModes : List (String × OperationMode) := [("delta", .delta), ("set", .set)]

def validateTarget : Json → Option OperationTarget
  | .obj object => do
    guard (onlyMembers ["type", "actionPath", "settingId"] object)
    guard (object.lookup "type" matches some (.str "darktable-action"))
    let actionPath ← textMember object "actionPath"
    let settingId ← textMember object "settingId"
    return ⟨actionPath, settingId, text_present actionPath, text_present settingId⟩
  | _ => none

def validateConstraints : Json → Option Unit
  | .obj object => do
    guard (onlyMembers ["onOutOfRange", "onRevisionMismatch"] object)
    guard (object.lookup "onOutOfRange" matches some (.str "clamp"))
    guard (object.lookup "onRevisionMismatch" matches some (.str "fail"))
  | _ => none

section Validate

variable (library : SchemaLibrary)

def validateValue : Json → Option OperationValue
  | .obj object => do
    guard (onlyMembers ["mode", "number", "choiceValue", "choiceId", "boolValue"] object)
    return {
      mode := ← literalMember operationModes object "mode"
      number := ← optionalMember library.number object "number"
      choiceValue := ← optionalMember library.integer object "choiceValue"
      choiceId := ← optionalMember Json.str? object "choiceId"
      boolValue := ← optionalMember library.boolean object "boolValue" }
  | _ => none

/-- `PlannedOperationDraft.model_validate` -/
def validateOperationDraft : Json → Option PlannedOperationDraft
  | .obj object => do
    guard (onlyMembers ["operationId", "sequence", "kind", "target", "value", "reason", "constraints"] object)
    let operationId ← textMember object "operationId"
    let sequence ← library.integer (← object.lookup "sequence")
    let kind ← literalMember operationKinds object "kind"
    let target ← validateTarget (← object.lookup "target")
    let value ← validateValue library (← object.lookup "value")
    -- the reason has no default: it must be written, if only as null
    let _ ← object.lookup "reason"
    let reason ← optionalMember Json.str? object "reason"
    validateConstraints (← object.lookup "constraints")
    if accepted : 1 ≤ sequence ∧ validateKindAndValue kind value = .ok () then
      return ⟨operationId, sequence, kind, target, value, reason, text_present operationId, accepted.1, accepted.2⟩
    else none
  | _ => none

def canonicalActionNames : List (String × CanonicalActionName) :=
  [("adjust-exposure", .adjustExposure), ("adjust-white-balance", .adjustWhiteBalance),
    ("recover-highlights", .recoverHighlights), ("reduce-noise", .reduceNoise), ("grade-color", .gradeColor),
    ("rotate", .rotate), ("crop-normalized", .cropNormalized), ("crop-to-bounding-box", .cropToBoundingBox)]

def canonicalStrengths : List (String × CanonicalStrength) :=
  [("low", .low), ("medium", .medium), ("high", .high)]

def canonicalNoiseTypes : List (String × CanonicalNoiseType) :=
  [("chroma", .chroma), ("luma", .luma), ("both", .both)]

def canonicalGradeTargets : List (String × CanonicalGradeTarget) :=
  [("global-saturation", .globalSaturation), ("blue-saturation", .blueSaturation), ("red-hue", .redHue),
    ("global-contrast", .globalContrast)]

def canonicalMembers : List String :=
  ["action", "exposureEv", "temperatureDelta", "tintDelta", "presetChoiceId", "strength", "noiseType", "target",
    "amount", "angleDegrees", "left", "top", "right", "bottom", "boxLeft", "boxTop", "boxWidth", "boxHeight",
    "paddingRatio", "rationale"]

def optionalLiteral {α : Type} (table : List (String × α)) : JsonObject → String → Option (Option α) :=
  optionalMember fun
    | .str text => table.lookup text
    | _ => none

def readCanonicalMembers (object : JsonObject) : Option CanonicalActionMembers := do
  guard (onlyMembers canonicalMembers object)
  let number := optionalMember library.number object
  return {
    action := ← literalMember canonicalActionNames object "action"
    exposureEv := ← number "exposureEv"
    temperatureDelta := ← number "temperatureDelta"
    tintDelta := ← number "tintDelta"
    presetChoiceId := ← optionalMember Json.str? object "presetChoiceId"
    strength := ← optionalLiteral canonicalStrengths object "strength"
    noiseType := ← optionalLiteral canonicalNoiseTypes object "noiseType"
    target := ← optionalLiteral canonicalGradeTargets object "target"
    amount := ← number "amount"
    angleDegrees := ← number "angleDegrees"
    left := ← number "left"
    top := ← number "top"
    right := ← number "right"
    bottom := ← number "bottom"
    boxLeft := ← number "boxLeft"
    boxTop := ← number "boxTop"
    boxWidth := ← number "boxWidth"
    boxHeight := ← number "boxHeight"
    paddingRatio := ← number "paddingRatio"
    rationale := ← optionalMember Json.str? object "rationale" }

/-- `CanonicalEditAction.model_validate` -/
def validateCanonicalAction : Json → Option CanonicalEditAction
  | .obj object => do
    let members ← readCanonicalMembers library object
    if valid : validateActionShape members = .ok () then return ⟨members, valid⟩ else none
  | _ => none

end Validate

end DarktableAgent.Server
