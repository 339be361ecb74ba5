import DarktableAgent.Client.Execute

/-! The controls of the image snapshot, as the client collects and reports them. -/

set_option autoImplicit false

namespace DarktableAgent.Client

open Protocol

/-- One control of the snapshot: a descriptor and what its control holds. -/
structure AgentImageControl (ν : Type) where
  moduleId : String
  moduleLabel : String
  settingId : String
  capabilityId : String
  label : String
  kind : OperationKind
  actionPath : String
  supportsSet : Bool
  supportsDelta : Bool
  minNumber : ν
  maxNumber : ν
  defaultNumber : ν
  stepNumber : ν
  defaultChoiceValue : Option Int
  defaultBool : Option Bool
  choices : List DescriptorChoice
  currentNumber : Option ν
  currentChoiceValue : Option Int
  currentChoiceId : Option String
  currentBool : Option Bool
  deriving DecidableEq, Repr

def Reading.toOption {ν : Type} : Reading ν → Option ν
  | .value number => some number
  | .failed _ => none

section Collect

variable {σ ν W : Type} (darkroom : Darkroom σ ν W) (state : σ)

/-- A control of one descriptor; only the read of its kind is made. -/
def controlOfDescriptor (descriptor : ActionDescriptor ν W) : AgentImageControl ν :=
  let choice := (catalogReadCurrentChoice darkroom state descriptor).toOption
  { moduleId := descriptor.moduleId
    moduleLabel := descriptor.moduleLabel
    settingId := descriptor.settingId
    capabilityId := descriptor.capabilityId
    label := descriptor.label
    kind := descriptor.operationKind
    actionPath := descriptor.actionPath
    supportsSet := descriptor.supportsSet
    supportsDelta := descriptor.supportsDelta
    minNumber := descriptor.minNumber
    maxNumber := descriptor.maxNumber
    defaultNumber := descriptor.defaultNumber
    stepNumber := descriptor.stepNumber
    defaultChoiceValue := descriptor.defaultChoiceValue
    defaultBool := descriptor.defaultBool
    choices := descriptor.choices
    currentNumber := match descriptor.operationKind with
      | .setFloat => (catalogReadCurrentNumber darkroom state descriptor).toOption
      | .setChoice | .setBool => none
    currentChoiceValue := match descriptor.operationKind with
      | .setChoice => choice.map (·.1)
      | .setFloat | .setBool => none
    currentChoiceId := match descriptor.operationKind with
      | .setChoice => choice.bind (·.2)
      | .setFloat | .setBool => none
    currentBool := match descriptor.operationKind with
      | .setBool => (catalogReadCurrentBool darkroom state descriptor).toOption
      | .setFloat | .setChoice => none }

/-- `_collect_controls`. There are no controls when the catalog cannot be collected. -/
def collectControls : List (AgentImageControl ν) :=
  ((catalogCollectDescriptors darkroom state).toOption.getD []).map (controlOfDescriptor darkroom state)

end Collect

/-- `supportedModes` as `_serialize_image_snapshot` writes it. -/
def AgentImageControl.supportedModes {ν : Type} (control : AgentImageControl ν) : List OperationMode :=
  (if control.supportsSet then [.set] else []) ++ if control.supportsDelta then [.delta] else []

/-- A number that is reported for float controls only. -/
def AgentImageControl.floatMember {ν : Type} (control : AgentImageControl ν) (number : ν) : Option ν :=
  if control.kind = .setFloat then some number else none

/-- The setting that the server reads from what `_serialize_image_snapshot` writes about a control. -/
structure SerializedAs (control : AgentImageControl ℚ) (setting : EditableSetting) : Prop where
  moduleId : setting.moduleId = control.moduleId
  moduleLabel : setting.moduleLabel = control.moduleLabel
  settingId : setting.settingId = control.settingId
  capabilityId : setting.capabilityId = control.capabilityId
  label : setting.label = control.label
  kind : setting.kind = control.kind
  actionPath : setting.actionPath = control.actionPath
  supportedModes : setting.supportedModes = control.supportedModes
  minNumber : setting.minNumber = control.floatMember control.minNumber
  maxNumber : setting.maxNumber = control.floatMember control.maxNumber
  defaultNumber : setting.defaultNumber = control.floatMember control.defaultNumber
  stepNumber : setting.stepNumber = control.floatMember control.stepNumber
  currentNumber : setting.currentNumber = control.currentNumber
  -- a control without options reports null or an empty array
  choices : (setting.choices.getD []).map (fun choice => (choice.choiceValue, choice.choiceId, choice.label)) =
    control.choices.map fun choice => (choice.choiceValue, choice.choiceId, choice.label)
  defaultChoiceValue : setting.defaultChoiceValue = control.defaultChoiceValue
  currentChoiceValue : setting.currentChoiceValue = control.currentChoiceValue
  currentChoiceId : setting.currentChoiceId = control.currentChoiceId
  defaultBool : setting.defaultBool = control.defaultBool
  currentBool : setting.currentBool = control.currentBool

end DarktableAgent.Client
