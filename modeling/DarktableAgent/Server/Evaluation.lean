import Mathlib.Tactic.NormNum
import DarktableAgent.Server.Settings

/-! The evaluation harness beside the runtime: who reports an operation, and who refuses it.

The harness checks a plan against the editable settings as they were sent; the runtime
applies it to its copy of them. Both look a setting up by its id.
-/

set_option autoImplicit false

namespace DarktableAgent.Server

open Foundation Protocol

/-- The counts of `_validate_operations`. -/
structure Validation where
  unknownTargets : Nat
  validationFailures : Nat
  deriving DecidableEq, Repr

/-- `or` on numbers: None and zero give way. -/
def numberOr (number other : Option ℚ) : Option ℚ :=
  match number with
  | some value => if value = 0 then other else some value
  | none => other

/-- The number that the harness takes a delta to start from. -/
def deltaBase (setting : EditableSetting) : ℚ :=
  (numberOr (numberOr setting.currentNumber setting.defaultNumber) (some 0)).getD 0

def InControlRange (setting : EditableSetting) (candidate : ℚ) : Prop :=
  ∀ minimum ∈ setting.minNumber, ∀ maximum ∈ setting.maxNumber, minimum ≤ candidate ∧ candidate ≤ maximum

/-- `_float_validation_failures`; a mode is one of the two it looks for. -/
def floatValidationFailures (setting : EditableSetting) (value : OperationValue) : Nat :=
  match value.number with
  | none => 1
  | some number =>
    let candidate := match value.mode with
      | .delta => number + deltaBase setting
      | .set => number
    match setting.minNumber, setting.maxNumber with
    | some minimum, some maximum => if minimum ≤ candidate ∧ candidate ≤ maximum then 0 else 1
    | _, _ => 0

/-- `_choice_validation_failures` -/
def choiceValidationFailures (setting : EditableSetting) (value : OperationValue) : Nat :=
  if value.mode ≠ .set then 1
  else if (setting.choices.getD []).any (fun choice =>
    value.choiceId == some choice.choiceId || value.choiceValue == some choice.choiceValue) then 0
  else 1

/-- `_operation_validation_failures` -/
def operationValidationFailures (setting : EditableSetting) (value : OperationValue) : Nat :=
  match setting.kind with
  | .setFloat => floatValidationFailures setting value
  | .setChoice => choiceValidationFailures setting value
  | .setBool => 0

def editableById (settings : List EditableSetting) : Dict String EditableSetting :=
  Dict.ofPairs (settings.map fun setting => (setting.settingId, setting))

def countOperation (settings : List EditableSetting) (counts : Validation) (operation : OperationDict) : Validation :=
  match (editableById settings).get? operation.settingId with
  | none => { counts with unknownTargets := counts.unknownTargets + 1 }
  | some setting =>
    if setting.actionPath ≠ operation.actionPath then { counts with unknownTargets := counts.unknownTargets + 1 }
    else { counts with
      validationFailures := counts.validationFailures + operationValidationFailures setting operation.value }

/-- `_validate_operations`: target and value of an operation are always objects, its ids texts. -/
def validateOperations (settings : List EditableSetting) (operations : List OperationDict) : Validation :=
  operations.foldl (countOperation settings) ⟨0, 0⟩

def AppliedOperation.wasClamped : AppliedOperation → Bool
  | .float _ _ _ _ wasClamped => wasClamped
  | .choice _ _ => false
  | .bool _ => false

/-- The runtime accepts the operation on these settings, and changes no number of it. -/
def AcceptedUnclamped (settings : SettingMap) (operation : OperationDict) : Prop :=
  ∃ after applied, applyOperationToSettings settings operation = .ok (after, applied) ∧ applied.wasClamped = false

/-- The value is one that the harness has nothing against. -/
def Unobjectionable (setting : EditableSetting) (value : OperationValue) : Prop :=
  match setting.kind with
  | .setFloat => ∃ number, value.number = some number ∧ InControlRange setting
      (match value.mode with | .delta => number + deltaBase setting | .set => number)
  | .setChoice => value.mode = .set ∧ ∃ choice ∈ setting.choices.getD [],
      value.choiceId = some choice.choiceId ∨ value.choiceValue = some choice.choiceValue
  | .setBool => True

/-- The operation addresses one of the settings, with a value that the harness has nothing against. -/
def Passes (settings : List EditableSetting) (operation : OperationDict) : Prop :=
  ∃ setting, (editableById settings).get? operation.settingId = some setting ∧
    setting.actionPath = operation.actionPath ∧ Unobjectionable setting operation.value

/-- What the harness does not look at: the kind of the operation, the modes of the setting, and
whether a choice id goes with the choice value. -/
structure Faithful (setting : EditableSetting) (operation : OperationDict) : Prop where
  kind : operation.kind = setting.kind
  mode : operation.value.mode ∈ setting.supportedModes
  choice : setting.kind = .setChoice → ∀ choiceId ∈ operation.value.choiceId,
    ∃ choice ∈ setting.choices.getD [],
      choice.choiceId = choiceId ∧ operation.value.choiceValue = some choice.choiceValue

section Harness

variable {settings : List EditableSetting} {setting : EditableSetting} {value : OperationValue}

theorem floatValidationFailures_eq_zero {minimum maximum : ℚ} (atLeast : setting.minNumber = some minimum)
    (atMost : setting.maxNumber = some maximum) : floatValidationFailures setting value = 0 ↔
      ∃ number, value.number = some number ∧ InControlRange setting
        (match value.mode with | .delta => number + deltaBase setting | .set => number) := by
  unfold floatValidationFailures
  cases value.number with
  | none => simp
  | some number => simp [atLeast, atMost, InControlRange]

theorem operationValidationFailures_eq_zero (shape : SettingShape setting) :
    operationValidationFailures setting value = 0 ↔ Unobjectionable setting value := by
  unfold operationValidationFailures Unobjectionable
  cases kind : setting.kind with
  | setFloat =>
    obtain ⟨current, lower, upper, -, atLeast, atMost, -⟩ := shape.float kind
    exact floatValidationFailures_eq_zero atLeast atMost
  | setChoice =>
    simp only [choiceValidationFailures]
    split_ifs with mode known
    · simp [mode]
    · simpa [not_not.mp mode] using known
    · simpa [not_not.mp mode] using known
  | setBool => simp

theorem editableById_shape (shapes : ∀ setting ∈ settings, SettingShape setting) {settingId : String}
    (found : (editableById settings).get? settingId = some setting) : SettingShape setting := by
  refine Dict.ofPairs_forall (fun _ setting => SettingShape setting) ?_ found
  intro pair member
  obtain ⟨listed, inSettings, rfl⟩ := List.mem_map.mp member
  exact shapes listed inSettings

theorem countOperation_clean (shapes : ∀ setting ∈ settings, SettingShape setting) (counts : Validation)
    (operation : OperationDict) :
    countOperation settings counts operation = ⟨0, 0⟩ ↔ counts = ⟨0, 0⟩ ∧ Passes settings operation := by
  obtain ⟨unknownTargets, validationFailures⟩ := counts
  unfold countOperation Passes
  cases found : (editableById settings).get? operation.settingId with
  | none => simp
  | some setting =>
    dsimp only
    have noFailure := @operationValidationFailures_eq_zero setting operation.value (editableById_shape shapes found)
    split_ifs with path
    · simp [path]
    · simp [not_not.mp path, Nat.add_eq_zero_iff, noFailure, and_assoc]

/-- The counts only grow, so they stay at zero exactly when no operation adds to them. -/
theorem validateOperations_clean (shapes : ∀ setting ∈ settings, SettingShape setting)
    (operations : List OperationDict) :
    validateOperations settings operations = ⟨0, 0⟩ ↔ ∀ operation ∈ operations, Passes settings operation := by
  suffices clean : ∀ counts, operations.foldl (countOperation settings) counts = ⟨0, 0⟩ ↔
      counts = ⟨0, 0⟩ ∧ ∀ operation ∈ operations, Passes settings operation from
    (clean ⟨0, 0⟩).trans (and_iff_right rfl)
  induction operations with
  | nil => simp
  | cons operation rest ih =>
    intro counts
    rw [List.foldl_cons, ih, countOperation_clean shapes, List.forall_mem_cons, and_assoc]

end Harness

/-- The harness reports a float delta exactly when the number it leads to is out of range. -/
def DeltaExact (setting : EditableSetting) (value : OperationValue) : Prop :=
  setting.kind = .setFloat → value.mode = .delta → ∀ delta ∈ value.number, ∀ current ∈ setting.currentNumber,
    (operationValidationFailures setting value ≠ 0 ↔ ¬ InControlRange setting (current + delta))

/-- For a control at zero it makes no difference whether a delta starts there or at the default. -/
def ZeroAgrees (setting : EditableSetting) (value : OperationValue) : Prop :=
  setting.kind = .setFloat → value.mode = .delta → setting.currentNumber = some 0 →
    ∀ delta ∈ value.number, ∀ default ∈ setting.defaultNumber,
      (InControlRange setting (default + delta) ↔ InControlRange setting delta)

section Agreement

variable {setting : EditableSetting} {value : OperationValue} {operation : OperationDict}

theorem deltaBase_of_ne_zero {current : ℚ} (isCurrent : setting.currentNumber = some current) (nonzero : current ≠ 0) :
    deltaBase setting = current := by
  simp [deltaBase, numberOr, isCurrent, nonzero]

theorem deltaBase_of_zero (isZero : setting.currentNumber = some 0) :
    deltaBase setting = setting.defaultNumber.getD 0 := by
  unfold deltaBase
  cases isDefault : setting.defaultNumber with
  | none => simp [numberOr, isZero]
  | some default =>
    by_cases zero : default = 0
    · simp [numberOr, isZero, zero]
    · simp [numberOr, isZero, zero]

theorem deltaExact_iff_zeroAgrees (shape : SettingShape setting) :
    DeltaExact setting value ↔ ZeroAgrees setting value := by
  unfold DeltaExact ZeroAgrees
  refine forall₂_congr fun isFloat isDelta => ?_
  obtain ⟨current, lower, upper, isCurrent, atLeast, atMost, -⟩ := shape.float isFloat
  have reports : ∀ delta, value.number = some delta →
      (operationValidationFailures setting value ≠ 0 ↔ ¬ InControlRange setting (delta + deltaBase setting)) := by
    intro delta isNumber
    rw [ne_eq, operationValidationFailures_eq_zero shape]
    simp [Unobjectionable, isFloat, isDelta, isNumber]
  constructor
  · intro exact isZero delta isNumber default isDefault
    have here := exact delta isNumber 0 isZero
    rw [reports delta isNumber, deltaBase_of_zero isZero, isDefault, Option.getD_some, zero_add, not_iff_not,
      add_comm] at here
    exact here
  · intro agrees delta isNumber other isOther
    rw [isCurrent, Option.mem_some_iff] at isOther
    subst isOther
    rw [reports delta isNumber, not_iff_not, add_comm]
    by_cases zero : current = 0
    · subst zero
      rw [deltaBase_of_zero isCurrent, zero_add]
      cases isDefault : setting.defaultNumber with
      | none => rw [Option.getD_none, zero_add]
      | some default => exact agrees isCurrent delta isNumber default isDefault
    · rw [deltaBase_of_ne_zero isCurrent zero]

theorem clampNumber_of_inRange {number : ℚ} {bounded : Setting} (sameMin : bounded.minNumber = setting.minNumber)
    (sameMax : bounded.maxNumber = setting.maxNumber) {lower upper : ℚ} (atLeast : setting.minNumber = some lower)
    (atMost : setting.maxNumber = some upper) (inRange : InControlRange setting number) :
    clampNumber bounded number = number := by
  obtain ⟨above, below⟩ := inRange lower atLeast upper atMost
  simp [clampNumber, sameMin, sameMax, atLeast, atMost, above, below]

/-- Where the values of the choices are distinct the mapping has each of them. -/
theorem choiceMapping_get?_iff {choices : Setting} (distinct : (choices.choices.map (·.choiceValue)).Nodup)
    {choiceValue : Int} {choiceId : String} : (choiceMapping choices).get? choiceValue = some choiceId ↔
      ∃ choice ∈ choices.choices, choice.choiceValue = choiceValue ∧ choice.choiceId = choiceId := by
  constructor
  · exact choiceMapping_get?
  · rintro ⟨choice, member, rfl, rfl⟩
    refine Dict.get?_ofPairs_of_mem ?_ (List.mem_map_of_mem member)
    rw [List.map_map]
    exact distinct

theorem applyFloat_unclamped (shape : SettingShape setting) (isFloat : setting.kind = .setFloat)
    (passes : Unobjectionable setting value) (agrees : ZeroAgrees setting value) (settingId : String) :
    ∃ after applied, applyFloat settingId (compactSetting setting) value = .ok (after, applied) ∧
      applied.wasClamped = false := by
  obtain ⟨current, lower, upper, isCurrent, atLeast, atMost, -⟩ := shape.float isFloat
  have exact := (deltaExact_iff_zeroAgrees shape).mpr agrees isFloat
  have noFailure := (operationValidationFailures_eq_zero shape).mpr passes
  simp only [Unobjectionable, isFloat] at passes
  obtain ⟨number, isNumber, inRange⟩ := passes
  have resolved : InControlRange setting (resolvedNumber (compactSetting setting) value.mode number) := by
    cases mode : value.mode with
    | set => simpa [mode, resolvedNumber] using inRange
    | delta =>
      have start : resolvedNumber (compactSetting setting) .delta number = current + number := by
        simp [resolvedNumber, compactSetting, isFloat, isCurrent]
      rw [start]
      by_contra outside
      exact (exact mode number isNumber current isCurrent).mpr outside noFailure
  have unchanged := @clampNumber_of_inRange setting _ (compactSetting setting) (by simp [compactSetting, isFloat])
    (by simp [compactSetting, isFloat]) lower upper atLeast atMost resolved
  refine ⟨_, _, by simp only [applyFloat, isNumber]; rfl, ?_⟩
  rw [unchanged, sub_self, abs_zero]
  exact decide_eq_false (by norm_num)

/-- A choice is accepted when its value is one of the setting's and the id, if there is one, goes with it. -/
theorem applyChoice_accepted_iff (shape : SettingShape setting) (isChoice : setting.kind = .setChoice)
    {choiceValue : Int} (isValue : value.choiceValue = some choiceValue)
    (passes : Unobjectionable setting value) (settingId : String) :
    (∃ after applied, applyChoice settingId (compactSetting setting) value = .ok (after, applied) ∧
        applied.wasClamped = false) ↔
      ∀ choiceId ∈ value.choiceId, ∃ choice ∈ setting.choices.getD [],
        choice.choiceId = choiceId ∧ value.choiceValue = some choice.choiceValue := by
  obtain ⟨choices, areChoices, present, distinct, -⟩ := shape.choice isChoice
  simp only [Unobjectionable, isChoice, areChoices, Option.getD_some] at passes ⊢
  have listed : (compactSetting setting).choices = choices := by simp [compactSetting, isChoice, areChoices]
  have mapped : ∀ choiceId, (choiceMapping (compactSetting setting)).get? choiceValue = some choiceId ↔
      ∃ choice ∈ choices, choice.choiceValue = choiceValue ∧ choice.choiceId = choiceId := by
    intro choiceId
    rw [choiceMapping_get?_iff (listed ▸ distinct), listed]
  have keys : (choiceMapping (compactSetting setting)).keys ≠ [] := choiceMapping_keys_ne_nil (listed ▸ present)
  constructor
  · rintro ⟨after, applied, accepted, -⟩ choiceId isId
    obtain ⟨written, isWritten, known, goesWith, -⟩ := applyChoice_cases accepted
    rw [isValue, Option.some.injEq] at isWritten
    subst isWritten
    obtain ⟨expected, isExpected⟩ := Option.isSome_iff_exists.mp (known.resolve_left keys)
    obtain ⟨choice, member, sameValue, sameId⟩ := (mapped expected).mp isExpected
    exact ⟨choice, member, sameId.trans (goesWith choiceId expected isId isExpected).symm, by rw [isValue, sameValue]⟩
  · intro goesWith
    have isListed : ∃ choice ∈ choices, choice.choiceValue = choiceValue ∧
        ∀ choiceId ∈ value.choiceId, choice.choiceId = choiceId := by
      cases isId : value.choiceId with
      | some choiceId =>
        obtain ⟨choice, member, sameId, sameValue⟩ := goesWith choiceId isId
        rw [isValue, Option.some.injEq] at sameValue
        exact ⟨choice, member, sameValue.symm, fun other isOther => sameId.trans (Option.some.inj isOther)⟩
      | none =>
        obtain ⟨-, choice, member, byId | byValue⟩ := passes
        · simp [isId] at byId
        · rw [isValue, Option.some.injEq] at byValue
          exact ⟨choice, member, byValue.symm, by simp⟩
    obtain ⟨choice, member, sameValue, sameId⟩ := isListed
    have expected := (mapped choice.choiceId).mpr ⟨choice, member, sameValue, rfl⟩
    refine ⟨{ compactSetting setting with
      currentChoiceValue := some choiceValue, currentChoiceId := some choice.choiceId },
      .choice choiceValue (some choice.choiceId), ?_, rfl⟩
    have agrees : ¬ (value.choiceId.isSome ∧ (some choice.choiceId).isSome ∧ some choice.choiceId ≠ value.choiceId) := by
      rintro ⟨given, -, differs⟩
      obtain ⟨choiceId, isId⟩ := Option.isSome_iff_exists.mp given
      exact differs (by rw [isId, sameId choiceId isId])
    simp only [applyChoice, isValue, expected, Option.isNone_some, Bool.false_eq_true, and_false, if_false, agrees,
      Option.some_or]

theorem compactSetting_kind : (compactSetting setting).kind = setting.kind := by
  unfold compactSetting
  cases kind : setting.kind <;> rfl

theorem compactSetting_supportedModes : (compactSetting setting).supportedModes = setting.supportedModes := by
  unfold compactSetting
  cases kind : setting.kind <;> rfl

theorem compactSetting_actionPath : (compactSetting setting).actionPath = setting.actionPath := by
  unfold compactSetting
  cases kind : setting.kind <;> rfl

/-- Where the harness has nothing against the value, the runtime takes it exactly when the operation
is faithful in what the harness does not look at. -/
theorem accepted_iff_faithful (shape : SettingShape setting) (path : setting.actionPath = operation.actionPath)
    (passes : Unobjectionable setting operation.value) (agrees : ZeroAgrees setting operation.value) :
    (∃ after applied, applyToSetting (compactSetting setting) operation = .ok (after, applied) ∧
        applied.wasClamped = false) ↔ Faithful setting operation := by
  by_cases sameKind : setting.kind = operation.kind
  case neg =>
    constructor
    · rintro ⟨after, applied, accepted, -⟩
      have kind := (applyToSetting_cases accepted).2.1
      exact absurd (compactSetting_kind.symm.trans kind) sameKind
    · exact fun faithful => absurd faithful.kind.symm sameKind
  case pos =>
    by_cases mode : operation.value.mode ∈ setting.supportedModes
    case neg =>
      constructor
      · rintro ⟨after, applied, accepted, -⟩
        have supported := (applyToSetting_cases accepted).2.2.1
        rw [compactSetting_supportedModes] at supported
        exact absurd supported mode
      · exact fun faithful => absurd faithful.mode mode
    case pos =>
      have applies : applyToSetting (compactSetting setting) operation = match operation.kind with
          | .setFloat => applyFloat operation.settingId (compactSetting setting) operation.value
          | .setChoice => applyChoice operation.settingId (compactSetting setting) operation.value
          | .setBool => applyBool operation.settingId (compactSetting setting) operation.value := by
        have samePath := not_not.mpr (compactSetting_actionPath.trans path)
        have kindMatches := not_not.mpr (compactSetting_kind.trans sameKind)
        have supported : ¬ operation.value.mode ∉ (compactSetting setting).supportedModes := by
          rw [compactSetting_supportedModes]
          exact not_not.mpr mode
        exact (if_neg samePath).trans ((if_neg kindMatches).trans (if_neg supported))
      rw [applies]
      cases kind : operation.kind with
      | setFloat =>
        have isFloat := sameKind.trans kind
        have faithful : Faithful setting operation :=
          ⟨sameKind.symm, mode, fun isChoice => by simp [isFloat] at isChoice⟩
        simp only [faithful, iff_true]
        exact applyFloat_unclamped shape isFloat passes agrees operation.settingId
      | setChoice =>
        have isChoice := sameKind.trans kind
        obtain ⟨choiceValue, isValue⟩ := operation.operation.choiceValue_of_choice kind
        have accepted := applyChoice_accepted_iff shape isChoice isValue passes operation.settingId
        exact accepted.trans ⟨fun goesWith => ⟨sameKind.symm, mode, fun _ => goesWith⟩,
          fun faithful => faithful.choice isChoice⟩
      | setBool =>
        have isBool := sameKind.trans kind
        obtain ⟨boolValue, isValue⟩ := operation.operation.boolValue_of_bool kind
        have faithful : Faithful setting operation :=
          ⟨sameKind.symm, mode, fun isChoice => by simp [isBool] at isChoice⟩
        simp only [faithful, iff_true]
        exact ⟨_, _, by simp only [applyBool, OperationDict.value, isValue]; rfl, rfl⟩

end Agreement

/-- The claims of the harness about a plan: a clean plan is one that the runtime accepts, operation by
operation on the settings as sent, without clamping; and float deltas are reported exactly when
they leave the range. -/
structure HarnessAgrees (request : RequestEnvelope) (operations : List OperationDict) : Prop where
  clean : validateOperations request.imageSnapshot.editableSettings operations = ⟨0, 0⟩ →
    ∀ operation ∈ operations, AcceptedUnclamped (settingById request) operation
  deltas : ∀ operation ∈ operations, ∀ setting,
    (editableById request.imageSnapshot.editableSettings).get? operation.settingId = some setting →
      DeltaExact setting operation.value

/-- The plan has an operation that the harness objects to in any case, or all are faithful; and no
delta meets a control at zero whose default makes a difference. -/
structure Comparable (request : RequestEnvelope) (operations : List OperationDict) : Prop where
  faithful : (∃ operation ∈ operations, ¬ Passes request.imageSnapshot.editableSettings operation) ∨
    ∀ operation ∈ operations, ∀ setting,
      (editableById request.imageSnapshot.editableSettings).get? operation.settingId = some setting →
        Faithful setting operation
  zero : ∀ operation ∈ operations, ∀ setting,
    (editableById request.imageSnapshot.editableSettings).get? operation.settingId = some setting →
      ZeroAgrees setting operation.value

section Request

variable {request : RequestEnvelope} {operation : OperationDict} {setting : EditableSetting}

theorem settingById_get? (request : RequestEnvelope) (settingId : String) : (settingById request).get? settingId =
    ((editableById request.imageSnapshot.editableSettings).get? settingId).map compactSetting := by
  rw [editableById, ← Dict.get?_ofPairs_map, List.map_map]
  rfl

theorem acceptedUnclamped_iff
    (found : (editableById request.imageSnapshot.editableSettings).get? operation.settingId = some setting) :
    AcceptedUnclamped (settingById request) operation ↔ ∃ after applied,
      applyToSetting (compactSetting setting) operation = .ok (after, applied) ∧ applied.wasClamped = false := by
  unfold AcceptedUnclamped applyOperationToSettings
  rw [settingById_get?, found, Option.map_some]
  cases written : applyToSetting (compactSetting setting) operation with
  | error text => simp [written, bind, Except.bind]
  | ok result =>
    obtain ⟨changed, record⟩ := result
    simp [written, bind, Except.bind, pure, Except.pure]

end Request

/-- For every accepted request and every plan the harness agrees with the runtime exactly when they
are comparable on the plan. -/
theorem harness_agrees_iff_comparable (request : RequestEnvelope) (operations : List OperationDict) :
    HarnessAgrees request operations ↔ Comparable request operations := by
  have shapes : ∀ setting ∈ request.imageSnapshot.editableSettings, SettingShape setting :=
    fun setting member => request.setting_shape member
  constructor
  · rintro ⟨clean, deltas⟩
    have zero : ∀ operation ∈ operations, ∀ setting,
        (editableById request.imageSnapshot.editableSettings).get? operation.settingId = some setting →
          ZeroAgrees setting operation.value := fun operation member setting found =>
      (deltaExact_iff_zeroAgrees (editableById_shape shapes found)).mp (deltas operation member setting found)
    refine ⟨?_, zero⟩
    by_cases passes : ∀ operation ∈ operations, Passes request.imageSnapshot.editableSettings operation
    · right
      intro operation member setting found
      have accepted := clean ((validateOperations_clean shapes operations).mpr passes) operation member
      obtain ⟨passed, isPassed, path, unobjectionable⟩ := passes operation member
      rw [found, Option.some.injEq] at isPassed
      subst isPassed
      rw [acceptedUnclamped_iff found] at accepted
      exact (accepted_iff_faithful (editableById_shape shapes found) path unobjectionable
        (zero operation member setting found)).mp accepted
    · left
      push Not at passes
      exact passes
  · rintro ⟨faithful, zero⟩
    constructor
    · intro isClean operation member
      have passes := (validateOperations_clean shapes operations).mp isClean
      obtain ⟨setting, found, path, unobjectionable⟩ := passes operation member
      rw [acceptedUnclamped_iff found]
      rcases faithful with ⟨reported, isReported, objected⟩ | faithful
      · exact absurd (passes reported isReported) objected
      · exact (accepted_iff_faithful (editableById_shape shapes found) path unobjectionable
          (zero operation member setting found)).mpr (faithful operation member setting found)
    · intro operation member setting found
      exact (deltaExact_iff_zeroAgrees (editableById_shape shapes found)).mpr (zero operation member setting found)

/-! An exposure slider at 0 whose default is 0.7. -/

theorem liftedDefault_valid :
    CapabilityMembers.validateValueShape { exposureCapability with defaultNumber := some (7 / 10) } = .ok () := by
  decide +kernel

def liftedCapability : Capability :=
  { exposureCapability with defaultNumber := some (7 / 10), valid := liftedDefault_valid }

def liftedSetting : EditableSetting := { exposureSetting with defaultNumber := some (7 / 10) }

theorem lifted_consistent : ∀ setting ∈ [liftedSetting], settingConsistency [liftedCapability] setting = .ok () := by
  decide +kernel

def liftedRequest : RequestEnvelope :=
  { exposureRequest with
    capabilities := [liftedCapability]
    imageSnapshot := { exposureRequest.imageSnapshot with editableSettings := [liftedSetting] }
    capabilitiesPresent := List.cons_ne_nil _ _
    capabilityIdsUnique := List.nodup_singleton _
    consistent := lifted_consistent }

def brightenOperation : OperationDict where
  operation := {
    operationId := "op-1"
    sequence := 1
    kind := .setFloat
    target := exposureTarget
    value := { mode := .delta, number := some (7 / 2) }
    reason := none
    operationIdPresent := firstOperation_present
    sequencePositive := one_positive
    valid := validateKindAndValue_float .delta (7 / 2) }
  bound := false

/-- A delta of 3.5 leads to 3.5, within the bounds of -3 and 4; the harness makes 4.2 of it. -/
theorem liftedRequest_disagrees : ¬ ∀ request operations, HarnessAgrees request operations := by
  intro claimed
  have exact := (claimed liftedRequest [brightenOperation]).deltas brightenOperation (by simp) liftedSetting
    (by decide +kernel) rfl rfl (7 / 2) rfl 0 rfl
  have reported : operationValidationFailures liftedSetting brightenOperation.value ≠ 0 := by decide +kernel
  have inRange : InControlRange liftedSetting (0 + 7 / 2) := by
    unfold InControlRange
    decide +kernel
  exact exact.mp reported inRange

end DarktableAgent.Server
