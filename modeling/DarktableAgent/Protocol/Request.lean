import DarktableAgent.Protocol.Plan

/-! The chat request as the server accepts it.

Only the members that the planner bridge and the response builder read are kept.
A validator is the ordered list of its checks; the first check that fires names
the error.
-/

set_option autoImplicit false

namespace DarktableAgent.Protocol

/-- Raise the text of the first check that fires. -/
def rejectIf (checks : List (Bool × String)) : Except String Unit :=
  match checks.find? (·.1) with
  | some (_, text) => .error text
  | none => .ok ()

theorem rejectIf_ok {checks : List (Bool × String)} :
    rejectIf checks = .ok () ↔ ∀ check ∈ checks, check.1 = false := by
  unfold rejectIf
  cases found : checks.find? (·.1) with
  | none => simpa using List.find?_eq_none.mp found
  | some check =>
    constructor
    · intro impossible
      cases impossible
    · intro quiet
      have fires := List.find?_some found
      rw [quiet check (List.mem_of_find?_eq_some found)] at fires
      cases fires

inductive RefinementMode where
  | singleTurn
  | multiTurn
  deriving DecidableEq, Repr

def RefinementMode.name : RefinementMode → String
  | .singleTurn => "single-turn"
  | .multiTurn => "multi-turn"

@[ext] structure RefinementRequest where
  mode : RefinementMode
  enabled : Bool
  maxPasses : Int
  passIndex : Int
  maxPassesPositive : 1 ≤ maxPasses
  passIndexPositive : 1 ≤ passIndex
  valid : rejectIf [
    (mode != (if enabled then .multiTurn else .singleTurn), "refinement mode does not match enabled flag"),
    (decide (maxPasses < passIndex), "refinement passIndex must be <= maxPasses"),
    (!enabled && maxPasses != 1, "single-turn refinement must use maxPasses=1"),
    (!enabled && passIndex != 1, "single-turn refinement must use passIndex=1")] = .ok ()

instance : DecidableEq RefinementRequest := fun _ _ => decidable_of_iff _ RefinementRequest.ext_iff.symm

theorem RefinementRequest.passIndex_le (refinement : RefinementRequest) :
    refinement.passIndex ≤ refinement.maxPasses := by
  have quiet := rejectIf_ok.mp refinement.valid
  simp only [List.forall_mem_cons, decide_eq_false_iff_not, Int.not_lt] at quiet
  exact quiet.2.1

structure RequestSession where
  appSessionId : String
  imageSessionId : String
  conversationId : String
  turnId : String
  present : ∀ text ∈ [appSessionId, imageSessionId, conversationId, turnId], text ≠ ""
  deriving DecidableEq

@[ext] structure ChoiceOption where
  choiceValue : Int
  choiceId : String
  label : String
  choiceIdPresent : choiceId ≠ ""
  labelPresent : label ≠ ""

instance : DecidableEq ChoiceOption := fun _ _ => decidable_of_iff _ ChoiceOption.ext_iff.symm

/-- Python's comparison of two numbers that an earlier check found present. -/
def exceeds : Option ℚ → Option ℚ → Bool
  | some left, some right => decide (right < left)
  | _, _ => false

structure CapabilityMembers where
  moduleId : String
  moduleLabel : String
  capabilityId : String
  label : String
  kind : OperationKind
  actionPath : String
  supportedModes : List OperationMode
  minNumber : Option ℚ := none
  maxNumber : Option ℚ := none
  defaultNumber : Option ℚ := none
  stepNumber : Option ℚ := none
  choices : Option (List ChoiceOption) := none
  defaultChoiceValue : Option Int := none
  defaultBool : Option Bool := none
  deriving DecidableEq

/-- `validate_value_shape` -/
def CapabilityMembers.validateValueShape (capability : CapabilityMembers) : Except String Unit :=
  let choices := capability.choices.getD []
  rejectIf <|
    [(!decide capability.supportedModes.Nodup, "capability supportedModes must not contain duplicates")] ++
    match capability.kind with
    | .setFloat => [
      (capability.minNumber.isNone || capability.maxNumber.isNone,
        "float capability requires minNumber/maxNumber"),
      (capability.defaultNumber.isNone || capability.stepNumber.isNone,
        "float capability requires defaultNumber/stepNumber"),
      (exceeds capability.minNumber capability.maxNumber, "capability minNumber must be <= maxNumber"),
      (exceeds capability.minNumber capability.defaultNumber
        || exceeds capability.defaultNumber capability.maxNumber,
        "capability defaultNumber must be within min/max range"),
      (capability.stepNumber.any fun step => decide (step ≤ 0), "capability stepNumber must be positive"),
      (capability.choices.isSome || capability.defaultChoiceValue.isSome,
        "float capability must not define choices"),
      (capability.defaultBool.isSome, "float capability must not define defaultBool")]
    | .setChoice => [
      (capability.supportedModes != [.set], "choice capability supportedModes must be exactly [\"set\"]"),
      (choices.isEmpty, "choice capability must define choices"),
      (!decide (choices.map (·.choiceValue)).Nodup, "choice capability values must be unique"),
      (!decide (choices.map (·.choiceId)).Nodup, "choice capability ids must be unique"),
      (!capability.defaultChoiceValue.any fun value => decide (value ∈ choices.map (·.choiceValue)),
        "choice capability defaultChoiceValue must reference a choice"),
      (capability.minNumber.isSome || capability.maxNumber.isSome || capability.defaultNumber.isSome
        || capability.stepNumber.isSome || capability.defaultBool.isSome,
        "choice capability must not define float/bool defaults")]
    | .setBool => [
      (capability.supportedModes != [.set], "bool capability supportedModes must be exactly [\"set\"]"),
      (capability.defaultBool.isNone, "bool capability requires defaultBool"),
      (capability.minNumber.isSome || capability.maxNumber.isSome || capability.defaultNumber.isSome
        || capability.stepNumber.isSome || capability.defaultChoiceValue.isSome || capability.choices.isSome,
        "bool capability must not define float/choice defaults")]

structure Capability extends CapabilityMembers where
  present : ∀ text ∈ [moduleId, moduleLabel, capabilityId, label, actionPath], text ≠ ""
  supportedModesPresent : supportedModes ≠ []
  valid : toCapabilityMembers.validateValueShape = .ok ()
  deriving DecidableEq

structure EditableSetting where
  moduleId : String
  moduleLabel : String
  settingId : String
  capabilityId : String
  label : String
  actionPath : String
  kind : OperationKind
  supportedModes : List OperationMode
  currentNumber : Option ℚ := none
  minNumber : Option ℚ := none
  maxNumber : Option ℚ := none
  defaultNumber : Option ℚ := none
  stepNumber : Option ℚ := none
  currentChoiceValue : Option Int := none
  currentChoiceId : Option String := none
  choices : Option (List ChoiceOption) := none
  defaultChoiceValue : Option Int := none
  currentBool : Option Bool := none
  defaultBool : Option Bool := none
  present : ∀ text ∈ [moduleId, moduleLabel, settingId, capabilityId, label, actionPath], text ≠ ""
  supportedModesPresent : supportedModes ≠ []
  deriving DecidableEq

/-- The checks `validate_capability_consistency` makes of one setting. -/
def settingConsistency (capabilities : List Capability) (setting : EditableSetting) : Except String Unit :=
  match capabilities.find? (·.capabilityId = setting.capabilityId) with
  | none => .error ("editableSetting references unknown capabilityId: " ++ setting.capabilityId)
  | some capability =>
    rejectIf <| [
      (capability.actionPath != setting.actionPath,
        "editableSetting actionPath does not match capability manifest"),
      (capability.moduleId != setting.moduleId, "editableSetting moduleId does not match capability manifest"),
      (capability.moduleLabel != setting.moduleLabel,
        "editableSetting moduleLabel does not match capability manifest"),
      (capability.label != setting.label, "editableSetting label does not match capability manifest"),
      (capability.kind != setting.kind, "editableSetting kind does not match capability manifest"),
      (capability.supportedModes != setting.supportedModes,
        "editableSetting supportedModes do not match capability manifest")] ++
      match setting.kind with
      | .setFloat => [
        (setting.currentNumber.isNone, "float editableSetting requires currentNumber"),
        (setting.minNumber != capability.minNumber || setting.maxNumber != capability.maxNumber
          || setting.defaultNumber != capability.defaultNumber || setting.stepNumber != capability.stepNumber,
          "float editableSetting bounds do not match capability")]
      | .setChoice => [
        (setting.choices != some (capability.choices.getD []),
          "choice editableSetting choices do not match capability"),
        (setting.defaultChoiceValue != capability.defaultChoiceValue,
          "choice editableSetting defaultChoiceValue does not match capability")]
      | .setBool => [
        (setting.currentBool.isNone, "bool editableSetting requires currentBool"),
        (setting.defaultBool != capability.defaultBool,
          "bool editableSetting defaultBool does not match capability")]

@[ext] structure ImageSnapshot where
  imageRevisionId : String
  editableSettings : List EditableSetting
  imageRevisionIdPresent : imageRevisionId ≠ ""

instance : DecidableEq ImageSnapshot := fun _ _ => decidable_of_iff _ ImageSnapshot.ext_iff.symm

@[ext] structure RequestEnvelope where
  requestId : String
  session : RequestSession
  refinement : RefinementRequest
  capabilities : List Capability
  imageSnapshot : ImageSnapshot
  requestIdPresent : requestId ≠ ""
  capabilitiesPresent : capabilities ≠ []
  capabilityIdsUnique : (capabilities.map (·.capabilityId)).Nodup
  consistent : ∀ setting ∈ imageSnapshot.editableSettings, settingConsistency capabilities setting = .ok ()

instance : DecidableEq RequestEnvelope := fun _ _ => decidable_of_iff _ RequestEnvelope.ext_iff.symm

/-- What an accepted request says about a setting, by kind. -/
structure SettingShape (setting : EditableSetting) : Prop where
  float : setting.kind = .setFloat → ∃ current lower upper, setting.currentNumber = some current ∧
    setting.minNumber = some lower ∧ setting.maxNumber = some upper ∧ lower ≤ upper
  choice : setting.kind = .setChoice → ∃ choices, setting.choices = some choices ∧ choices ≠ [] ∧
    (choices.map (·.choiceValue)).Nodup ∧ (choices.map (·.choiceId)).Nodup
  bool : setting.kind = .setBool → ∃ current, setting.currentBool = some current
  absolute : setting.kind ≠ .setFloat → setting.supportedModes = [.set]

namespace Capability

variable (capability : Capability)

theorem float_bounds (float : capability.kind = .setFloat) :
    ∃ lower upper, capability.minNumber = some lower ∧ capability.maxNumber = some upper ∧ lower ≤ upper := by
  have quiet := rejectIf_ok.mp capability.valid
  simp only [float, List.forall_mem_append, List.forall_mem_cons, Bool.or_eq_false_iff,
    Option.isNone_eq_false_iff, Option.isSome_iff_exists] at quiet
  obtain ⟨-, ⟨⟨lower, atLeast⟩, upper, atMost⟩, -, ordered, -⟩ := quiet
  simp only [atLeast, atMost, exceeds, decide_eq_false_iff_not, not_lt] at ordered
  exact ⟨lower, upper, atLeast, atMost, ordered⟩

theorem choices_distinct (choice : capability.kind = .setChoice) :
    capability.choices.getD [] ≠ [] ∧ ((capability.choices.getD []).map (·.choiceValue)).Nodup ∧
      ((capability.choices.getD []).map (·.choiceId)).Nodup := by
  have quiet := rejectIf_ok.mp capability.valid
  simp only [choice, List.forall_mem_append, List.forall_mem_cons, Bool.not_eq_false',
    List.isEmpty_eq_false_iff, decide_eq_true_eq] at quiet
  obtain ⟨-, -, present, values, ids, -⟩ := quiet
  exact ⟨present, values, ids⟩

theorem absolute (discrete : capability.kind ≠ .setFloat) : capability.supportedModes = [.set] := by
  have quiet := rejectIf_ok.mp capability.valid
  cases kind : capability.kind with
  | setFloat => exact absurd kind discrete
  | setChoice | setBool =>
    simp only [kind, List.forall_mem_append, List.forall_mem_cons, bne_eq_false_iff_eq] at quiet
    exact quiet.2.1

end Capability

theorem settingConsistency_shape {capabilities : List Capability} {setting : EditableSetting}
    (consistent : settingConsistency capabilities setting = .ok ()) : SettingShape setting := by
  unfold settingConsistency at consistent
  cases found : capabilities.find? (·.capabilityId = setting.capabilityId) with
  | none => simp [found] at consistent
  | some capability =>
    simp only [found] at consistent
    have quiet := rejectIf_ok.mp consistent
    simp only [List.forall_mem_append, List.forall_mem_cons, bne_eq_false_iff_eq] at quiet
    obtain ⟨⟨-, -, -, -, sameKind, sameModes, -⟩, byKind⟩ := quiet
    refine ⟨fun float => ?_, fun choice => ?_, fun bool => ?_, fun discrete => ?_⟩
    · obtain ⟨lower, upper, atLeast, atMost, ordered⟩ := capability.float_bounds (sameKind.trans float)
      simp only [float, List.forall_mem_cons, Option.isNone_eq_false_iff, Option.isSome_iff_exists,
        Bool.or_eq_false_iff, bne_eq_false_iff_eq] at byKind
      obtain ⟨⟨current, reported⟩, ⟨⟨⟨sameMin, sameMax⟩, -⟩, -⟩, -⟩ := byKind
      exact ⟨current, lower, upper, reported, sameMin.trans atLeast, sameMax.trans atMost, ordered⟩
    · obtain ⟨present, values, ids⟩ := capability.choices_distinct (sameKind.trans choice)
      simp only [choice, List.forall_mem_cons, bne_eq_false_iff_eq] at byKind
      exact ⟨_, byKind.1, present, values, ids⟩
    · simp only [bool, List.forall_mem_cons, Option.isNone_eq_false_iff, Option.isSome_iff_exists] at byKind
      exact byKind.1
    · rw [← sameModes]
      exact capability.absolute (sameKind ▸ discrete)

theorem RequestEnvelope.setting_shape (request : RequestEnvelope) {setting : EditableSetting}
    (member : setting ∈ request.imageSnapshot.editableSettings) : SettingShape setting :=
  settingConsistency_shape (request.consistent setting member)

/-! The smallest editable request: one exposure slider, live refinement over two passes. -/

def exposureCapability : Capability where
  moduleId := "exposure"
  moduleLabel := "exposure"
  capabilityId := "exposure.exposure"
  label := "exposure"
  kind := .setFloat
  actionPath := "iop/exposure/exposure"
  supportedModes := [.set, .delta]
  minNumber := some (-3)
  maxNumber := some 4
  defaultNumber := some 0
  stepNumber := some (1 / 50)
  present := by decide
  supportedModesPresent := by decide
  valid := by decide +kernel

def exposureSetting : EditableSetting where
  moduleId := "exposure"
  moduleLabel := "exposure"
  settingId := "setting.exposure"
  capabilityId := "exposure.exposure"
  label := "exposure"
  actionPath := "iop/exposure/exposure"
  kind := .setFloat
  supportedModes := [.set, .delta]
  currentNumber := some 0
  minNumber := some (-3)
  maxNumber := some 4
  defaultNumber := some 0
  stepNumber := some (1 / 50)
  present := by decide
  supportedModesPresent := by decide

def exposureTarget : OperationTarget := ⟨"iop/exposure/exposure", "setting.exposure", by decide, by decide⟩

theorem firstOperation_present : "op-1" ≠ "" := by decide

theorem secondOperation_present : "op-2" ≠ "" := by decide

def exposureRequest : RequestEnvelope where
  requestId := "req-1"
  session := ⟨"app-1", "image-1", "conversation-1", "turn-1", by decide⟩
  refinement := ⟨.multiTurn, true, 2, 1, two_positive, one_positive, by decide⟩
  capabilities := [exposureCapability]
  imageSnapshot := ⟨"image-1-history-3-3", [exposureSetting], by decide⟩
  requestIdPresent := by decide
  capabilitiesPresent := by simp
  capabilityIdsUnique := by decide
  consistent := by decide +kernel

end DarktableAgent.Protocol
