import Mathlib.Data.List.DropRight
import Mathlib.Data.List.Infix
import DarktableAgent.Foundation.FreshName
import DarktableAgent.Server.Settings

/-! Canonical actions are bound to the controls the client reported.

A control is found by its path, its module and keywords in its path and label.
Whatever is bound is an operation the schema accepts.
-/

set_option autoImplicit false

namespace DarktableAgent.Server

open Foundation Protocol

/-- What an operation does, apart from its id and its place in a list. -/
structure Edit where
  kind : OperationKind
  target : OperationTarget
  value : OperationValue
  reason : Option String
  bound : Bool
  deriving DecidableEq

def editOf (dict : OperationDict) : Edit :=
  ⟨dict.kind, dict.operation.target, dict.value, dict.operation.reason, dict.bound⟩

def withIdentity (dict : OperationDict) (operationId : String) (present : operationId ≠ "") (index : Nat) :
    OperationDict :=
  { dict with operation := { dict.operation with
      operationId := operationId
      sequence := (index : Int) + 1
      operationIdPresent := present
      sequencePositive := by omega } }

/-- Number the operations from `index` on, and suffix every id that was seen before. An operation
always has an id, so the numbered default of the source is never taken. -/
def renumberFrom (index : Nat) (seen : List String) : List OperationDict → List OperationDict
  | [] => []
  | dict :: rest =>
    let operationId := freshName seen dict.operation.operationId
    withIdentity dict operationId (freshName_ne_empty dict.operation.operationIdPresent seen) index ::
      renumberFrom (index + 1) (operationId :: seen) rest

/-- `_normalize_operations_with_unique_ids` -/
def normalizeOperationsWithUniqueIds (operations : List OperationDict) : List OperationDict :=
  renumberFrom 0 [] operations

theorem renumberFrom_edits (index : Nat) (seen : List String) (operations : List OperationDict) :
    (renumberFrom index seen operations).map editOf = operations.map editOf := by
  induction operations generalizing index seen with
  | nil => rfl
  | cons dict rest ih =>
    rw [renumberFrom, List.map_cons, List.map_cons, ih]
    rfl

theorem renumberFrom_ids (index : Nat) (seen : List String) (operations : List OperationDict) :
    (renumberFrom index seen operations).map (·.operation.operationId) =
      freshNames seen (operations.map (·.operation.operationId)) := by
  induction operations generalizing index seen with
  | nil => rfl
  | cons dict rest ih =>
    rw [renumberFrom, List.map_cons, List.map_cons, freshNames, ih]
    rfl

theorem renumberFrom_sequences (index : Nat) (seen : List String) (operations : List OperationDict) :
    (renumberFrom index seen operations).map (·.operation.sequence) =
      (List.range' index operations.length).map fun place : Nat => (place : Int) + 1 := by
  induction operations generalizing index seen with
  | nil => rfl
  | cons dict rest ih =>
    rw [renumberFrom, List.map_cons, ih, List.length_cons, List.range'_succ, List.map_cons]
    rfl

theorem normalizeOperationsWithUniqueIds_edits (operations : List OperationDict) :
    (normalizeOperationsWithUniqueIds operations).map editOf = operations.map editOf :=
  renumberFrom_edits 0 [] operations

theorem normalizeOperationsWithUniqueIds_length (operations : List OperationDict) :
    (normalizeOperationsWithUniqueIds operations).length = operations.length := by
  rw [← List.length_map editOf, normalizeOperationsWithUniqueIds_edits, List.length_map]

theorem normalizeOperationsWithUniqueIds_ids (operations : List OperationDict) :
    ((normalizeOperationsWithUniqueIds operations).map (·.operation.operationId)).Nodup := by
  rw [normalizeOperationsWithUniqueIds, renumberFrom_ids]
  exact freshNames_nodup _ _

theorem normalizeOperationsWithUniqueIds_sequences (operations : List OperationDict) :
    ((normalizeOperationsWithUniqueIds operations).map (·.operation.sequence)).Nodup := by
  rw [normalizeOperationsWithUniqueIds, renumberFrom_sequences]
  have places : (List.range' 0 operations.length).Nodup := List.nodup_range'
  refine places.map fun left right same => ?_
  have sum : (left : Int) + 1 = right + 1 := same
  omega

structure BindingResult where
  operations : List OperationDict
  failures : List String

instance : Append BindingResult :=
  ⟨fun first second => ⟨first.operations ++ second.operations, first.failures ++ second.failures⟩⟩

namespace BindingResult

def nothing : BindingResult := ⟨[], []⟩

def failed (text : String) : BindingResult := ⟨[], [text]⟩

def concat (results : List BindingResult) : BindingResult := results.foldl (· ++ ·) nothing

/-- Bind the operation, or report why there is none. -/
def ofOption (operation : Option OperationDict) (failure : String) : BindingResult :=
  operation.elim (failed failure) fun operation => ⟨[operation], []⟩

end BindingResult

theorem bindId_ne_empty (settingId : String) : "bind-" ++ settingId ≠ "" := by
  intro empty
  exact absurd (String.append_eq_empty_iff.mp empty).1 (by decide)

def settingTarget (setting : EditableSetting) : OperationTarget :=
  ⟨setting.actionPath, setting.settingId, setting.present _ (by simp), setting.present _ (by simp)⟩

def boundOperation (setting : EditableSetting) (kind : OperationKind) (value : OperationValue)
    (shape : ValueShape kind value) (rationale : Option String) : OperationDict where
  operation := {
    operationId := "bind-" ++ setting.settingId
    sequence := 1
    kind := kind
    target := settingTarget setting
    value := value
    reason := rationale
    operationIdPresent := bindId_ne_empty setting.settingId
    sequencePositive := one_positive
    valid := validateKindAndValue_ok.mpr shape }
  bound := true

/-- `_float_operation` -/
def floatOperation (setting : EditableSetting) (amount : ℚ) (preferSet : Bool)
    (rationale : Option String) : OperationDict :=
  let current := (setting.currentNumber.or setting.defaultNumber).getD 0
  let (mode, number) :=
    if !preferSet && decide (OperationMode.delta ∈ setting.supportedModes) then (OperationMode.delta, amount)
    else (OperationMode.set, if preferSet then amount else current + amount)
  boundOperation setting .setFloat { mode, number := some number } (.float mode number none) rationale

/-- `_choice_operation` -/
def choiceOperation (setting : EditableSetting) (choiceId : String) (rationale : Option String) :
    Option OperationDict :=
  ((setting.choices.getD []).find? (·.choiceId = choiceId)).map fun choice =>
    boundOperation setting .setChoice
      { mode := .set, choiceValue := some choice.choiceValue, choiceId := some choice.choiceId }
      (.choice choice.choiceValue (some choice.choiceId)) rationale

structure SettingQuery where
  kind : OperationKind
  exactActionPaths : List String := []
  moduleIds : List String := []
  actionKeywords : List String := []
  labelKeywords : List String := []

def containsKeyword (text keyword : String) : Bool := decide (keyword.toList <:+: text.toList)

section Binder

variable (lower : String → String) (settings : List EditableSetting)

def settingScore (query : SettingQuery) (setting : EditableSetting) : Nat :=
  (if setting.actionPath ∈ query.exactActionPaths then 100 else 0)
    + (if lower setting.moduleId ∈ query.moduleIds then 20 else 0)
    + 8 * query.actionKeywords.countP (containsKeyword (lower setting.actionPath))
    + 6 * query.labelKeywords.countP (containsKeyword (lower setting.label))

/-- The order of the sort keys: a higher score first, then by module, path and id. -/
def candidateLe (left right : Nat × EditableSetting) : Bool :=
  let key (setting : EditableSetting) := [setting.moduleId, setting.actionPath, setting.settingId]
  decide (right.1 < left.1) || (left.1 == right.1 && decide (key left.2 ≤ key right.2))

/-- `_find_setting` -/
def findSetting (query : SettingQuery) : Option EditableSetting :=
  let scored := (settings.filter (·.kind = query.kind)).map fun setting => (settingScore lower query setting, setting)
  (((scored.filter (0 < ·.1)).mergeSort candidateLe).head?).map (·.2)

def findFloat (exactActionPaths moduleIds actionKeywords labelKeywords : List String) : Option EditableSetting :=
  findSetting lower settings { kind := .setFloat, exactActionPaths, moduleIds, actionKeywords, labelKeywords }

def bindExposure (action : CanonicalActionMembers) : BindingResult :=
  let setting := findFloat lower settings ["iop/exposure/exposure"] [] [] ["exposure"]
  .ofOption (do return floatOperation (← setting) (← action.exposureEv) false action.rationale)
    "adjust-exposure could not find an exposure control"

def bindPreset (choiceId : String) (rationale : Option String) : BindingResult :=
  match findSetting lower settings
    { kind := .setChoice, exactActionPaths := ["iop/temperature/preset"], labelKeywords := ["preset"] } with
  | none => .failed "adjust-white-balance could not find a preset control"
  | some setting => .ofOption (choiceOperation setting choiceId rationale)
    ("adjust-white-balance could not bind preset " ++ choiceId)

/-- The temperature and the tint are bound alike. -/
def bindWhiteBalanceDelta (control : String) (amount : ℚ) (rationale : Option String) : BindingResult :=
  let setting := findFloat lower settings ["iop/temperature/" ++ control] [] [] [control]
  .ofOption (setting.map fun setting => floatOperation setting amount false rationale)
    ("adjust-white-balance could not find a " ++ control ++ " control")

def bindWhiteBalance (action : CanonicalActionMembers) : BindingResult :=
  let ifGiven {α : Type} (member : Option α) (bind : α → BindingResult) := member.elim .nothing bind
  ifGiven action.presetChoiceId (bindPreset lower settings · action.rationale)
    ++ ifGiven action.temperatureDelta (bindWhiteBalanceDelta lower settings "temperature" · action.rationale)
    ++ ifGiven action.tintDelta (bindWhiteBalanceDelta lower settings "tint" · action.rationale)

def highlightDelta : CanonicalStrength → ℚ
  | .low => -1 / 4
  | .medium => -1 / 2
  | .high => -3 / 4

def bindHighlights (action : CanonicalActionMembers) : BindingResult :=
  let setting := findFloat lower settings
    ["iop/filmicrgb/white_relative_exposure", "iop/toneequalizer/highlights"] ["filmicrgb", "toneequalizer"]
    ["highlight", "white_relative_exposure"] ["highlight", "white relative exposure"]
  .ofOption (do return floatOperation (← setting) (highlightDelta (← action.strength)) false action.rationale)
    "recover-highlights could not find a highlight control"

def noiseDelta : CanonicalStrength → ℚ
  | .low => 1 / 10
  | .medium => 1 / 5
  | .high => 7 / 20

def noiseChannels : CanonicalNoiseType → List String
  | .chroma => ["chroma"]
  | .luma => ["luma"]
  | .both => ["chroma", "luma"]

def bindNoise (action : CanonicalActionMembers) : BindingResult :=
  match action.strength with
  -- excluded by the validator
  | none => .nothing
  | some strength => .concat <| (noiseChannels (action.noiseType.getD .both)).map fun channel =>
    let setting := findFloat lower settings ["iop/denoiseprofile/" ++ channel] ["denoiseprofile"]
      [channel, "denoise"] [channel, "noise"]
    .ofOption (setting.map fun setting => floatOperation setting (noiseDelta strength) false action.rationale)
      ("reduce-noise could not find a " ++ channel ++ " noise control")

def findGradeSetting : CanonicalGradeTarget → Option EditableSetting
  | .globalSaturation => findFloat lower settings
    ["iop/colorbalancergb/global_saturation", "iop/colorequal/sat_global"] [] ["saturation"] ["saturation"]
  | .blueSaturation => findFloat lower settings
    ["iop/colorequal/sat_blue"] ["colorequal"] ["blue", "saturation"] ["blue", "saturation"]
  | .redHue => findFloat lower settings ["iop/primaries/red_hue"] ["primaries"] ["red", "hue"] ["red", "hue"]
  | .globalContrast => findFloat lower settings
    ["iop/colorbalancergb/global_contrast"] [] ["contrast"] ["contrast"]

def bindGrade (action : CanonicalActionMembers) : BindingResult :=
  match action.target, action.amount with
  | some target, some amount =>
    .ofOption ((findGradeSetting lower settings target).map fun setting =>
        floatOperation setting amount false action.rationale)
      ("grade-color could not find a control for " ++ target.name)
  | _, _ => .failed "grade-color is missing target or amount"

def bindRotate (action : CanonicalActionMembers) : BindingResult :=
  let setting := findFloat lower settings ["iop/clipping/angle", "iop/crop/angle"] ["clipping", "crop"]
    ["angle", "rotate"] ["angle", "rotation"]
  .ofOption (do return floatOperation (← setting) (← action.angleDegrees) false action.rationale)
    "rotate could not find a rotation control"

def bindCropAxisValues (axisValues : List (String × ℚ)) (rationale : Option String) (failurePrefix : String) :
    BindingResult :=
  .concat <| axisValues.map fun (axis, value) =>
    let setting := findFloat lower settings ["iop/clipping/" ++ axis, "iop/crop/" ++ axis] ["clipping", "crop"]
      [axis] [axis]
    .ofOption (setting.map fun setting => floatOperation setting value true rationale)
      (failurePrefix ++ " could not find a " ++ axis ++ " control")

def bindCrop (action : CanonicalActionMembers) : BindingResult :=
  match action.left, action.top, action.right, action.bottom with
  | some left, some top, some right, some bottom =>
    bindCropAxisValues lower settings [("cx", left), ("cy", top), ("cw", right), ("ch", bottom)]
      action.rationale "crop-normalized"
  | _, _, _, _ => .nothing

def clampUnit (value : ℚ) : ℚ := max 0 (min 1 value)

def bindCropBox (action : CanonicalActionMembers) : BindingResult :=
  match action.boxLeft, action.boxTop, action.boxWidth, action.boxHeight with
  | some boxLeft, some boxTop, some boxWidth, some boxHeight =>
    let paddingRatio := action.paddingRatio.getD 0
    let padX := boxWidth * paddingRatio
    let padY := boxHeight * paddingRatio
    bindCropAxisValues lower settings
      [("cx", clampUnit (clampUnit boxLeft - padX)), ("cy", clampUnit (clampUnit boxTop - padY)),
        ("cw", clampUnit (clampUnit (boxLeft + boxWidth) + padX)),
        ("ch", clampUnit (clampUnit (boxTop + boxHeight) + padY))]
      action.rationale "crop-to-bounding-box"
  | _, _, _, _ => .nothing

/-- `_bind_action` -/
def bindAction (action : CanonicalEditAction) : BindingResult :=
  let members := action.toCanonicalActionMembers
  match members.action with
  | .adjustExposure => bindExposure lower settings members
  | .adjustWhiteBalance => bindWhiteBalance lower settings members
  | .recoverHighlights => bindHighlights lower settings members
  | .reduceNoise => bindNoise lower settings members
  | .gradeColor => bindGrade lower settings members
  | .rotate => bindRotate lower settings members
  | .cropNormalized => bindCrop lower settings members
  | .cropToBoundingBox => bindCropBox lower settings members

/-- `bind_canonical_actions` -/
def bindCanonicalActions (actions : List CanonicalEditAction) : BindingResult :=
  let result := BindingResult.concat (actions.map (bindAction lower settings))
  ⟨normalizeOperationsWithUniqueIds result.operations, result.failures⟩

/-- `str.isspace` for one character. -/
def isPythonSpace (char : Char) : Bool :=
  let code := char.toNat
  decide (9 ≤ code ∧ code ≤ 13) || decide (28 ≤ code ∧ code ≤ 32) || decide (8192 ≤ code ∧ code ≤ 8202)
    || decide (code ∈ [133, 160, 5760, 8232, 8233, 8239, 8287, 12288])

def rstrip (text : String) : String := String.ofList (text.toList.rdropWhile isPythonSpace)

theorem bindingNotes_ne_empty (text notes : String) : text ++ "\n\nBinding notes: " ++ notes ≠ "" := by
  intro empty
  exact absurd (String.append_eq_empty_iff.mp (String.append_eq_empty_iff.mp empty).1).2 (by decide)

/-- The operations of a validated plan that was put together from numbered operations. -/
def withOperations (plan : AgentPlan) (operations : List OperationDict) (continueRefining : Bool)
    (canonicalActions : Option (List CanonicalEditAction)) : AgentPlan where
  assistantText := plan.assistantText
  continueRefining := continueRefining
  operations := (normalizeOperationsWithUniqueIds operations).map (·.operation)
  canonicalActions := canonicalActions
  assistantTextPresent := plan.assistantTextPresent
  operationIdsUnique := by
    rw [List.map_map]
    exact normalizeOperationsWithUniqueIds_ids operations
  sequencesUnique := by
    rw [List.map_map]
    exact normalizeOperationsWithUniqueIds_sequences operations

/-- `bind_canonical_plan` -/
def bindCanonicalPlan (plan : AgentPlan) : AgentPlan :=
  match plan.canonicalActions.getD [] with
  | [] => plan
  | actions =>
    let result := bindCanonicalActions lower settings actions
    let bound := withOperations plan (plan.operations.map (⟨·, false⟩) ++ result.operations)
      plan.continueRefining (some actions)
    if result.failures = [] then bound
    else { bound with
      assistantText := rstrip plan.assistantText ++ "\n\nBinding notes: "
        ++ String.intercalate "; " result.failures
      assistantTextPresent := bindingNotes_ne_empty _ _ }

end Binder

end DarktableAgent.Server
