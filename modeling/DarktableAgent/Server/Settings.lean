import Mathlib.Algebra.Order.Ring.Rat
import Mathlib.Data.String.Basic
import DarktableAgent.Foundation.Dict
import DarktableAgent.Foundation.SelectedSort
import DarktableAgent.Protocol.Request

/-! The server's copy of the editable settings and the operations applied to it.

Whether an operation is accepted depends only on the parts of a setting that no
operation changes; only the current value moves.
-/

set_option autoImplicit false

namespace DarktableAgent.Server

open Foundation Protocol

/-- One editable setting of the state payload. -/
structure Setting where
  moduleId : String
  moduleLabel : String
  settingId : String
  kind : OperationKind
  actionPath : String
  supportedModes : List OperationMode
  currentNumber : Option ℚ := none
  minNumber : Option ℚ := none
  maxNumber : Option ℚ := none
  defaultNumber : Option ℚ := none
  stepNumber : Option ℚ := none
  currentChoiceValue : Option Int := none
  currentChoiceId : Option String := none
  defaultChoiceValue : Option Int := none
  choices : List ChoiceOption := []
  currentBool : Option Bool := none
  defaultBool : Option Bool := none
  deriving DecidableEq

/-- `_build_prompt_payload` for one setting: only the members of its kind are kept. -/
def compactSetting (setting : EditableSetting) : Setting :=
  let common : Setting := {
    moduleId := setting.moduleId
    moduleLabel := setting.moduleLabel
    settingId := setting.settingId
    kind := setting.kind
    actionPath := setting.actionPath
    supportedModes := setting.supportedModes }
  match setting.kind with
  | .setFloat => { common with
      currentNumber := setting.currentNumber
      minNumber := setting.minNumber
      maxNumber := setting.maxNumber
      defaultNumber := setting.defaultNumber
      stepNumber := setting.stepNumber }
  | .setChoice => { common with
      currentChoiceValue := setting.currentChoiceValue
      currentChoiceId := setting.currentChoiceId
      defaultChoiceValue := setting.defaultChoiceValue
      choices := setting.choices.getD [] }
  | .setBool => { common with
      currentBool := setting.currentBool
      defaultBool := setting.defaultBool }

abbrev SettingMap := Dict String Setting

/-- `setting_by_id` as `_register_turn_context` builds it. -/
def settingById (request : RequestEnvelope) : SettingMap :=
  Dict.ofPairs (request.imageSnapshot.editableSettings.map fun setting =>
    (setting.settingId, compactSetting setting))

/-- `_choice_mapping` -/
def choiceMapping (setting : Setting) : Dict Int String :=
  Dict.ofPairs (setting.choices.map fun choice => (choice.choiceValue, choice.choiceId))

/-- The record of one applied operation that `_apply_operation_to_settings` returns. -/
inductive AppliedOperation where
  | float (mode : OperationMode) (requestedNumber resolvedNumber appliedNumber : ℚ) (wasClamped : Bool)
  | choice (choiceValue : Int) (appliedChoiceId : Option String)
  | bool (appliedBoolValue : Bool)
  deriving DecidableEq, Repr

/-- The number an operation asks for, before clamping. -/
def resolvedNumber (setting : Setting) (mode : OperationMode) (requested : ℚ) : ℚ :=
  match mode with
  | .delta => (setting.currentNumber.or setting.defaultNumber).getD 0 + requested
  | .set => requested

def clampNumber (setting : Setting) (value : ℚ) : ℚ :=
  let raised := setting.minNumber.elim value (max value)
  setting.maxNumber.elim raised (min raised)

def applyFloat (settingId : String) (setting : Setting) (value : OperationValue) :
    Except String (Setting × AppliedOperation) :=
  match value.number with
  | none => .error ("set-float operation requires numeric value.number for '" ++ settingId ++ "'")
  | some requested =>
    let resolved := resolvedNumber setting value.mode requested
    let next := clampNumber setting resolved
    .ok ({ setting with currentNumber := some next },
      .float value.mode requested resolved next (decide (1 / 10 ^ 12 < |next - resolved|)))

def applyChoice (settingId : String) (setting : Setting) (value : OperationValue) :
    Except String (Setting × AppliedOperation) :=
  let mapping := choiceMapping setting
  match value.choiceValue with
  | none => .error ("set-choice operation requires integer value.choiceValue for '" ++ settingId ++ "'")
  | some choiceValue =>
    let expected := mapping.get? choiceValue
    if mapping.keys ≠ [] ∧ expected.isNone then
      .error ("choiceValue " ++ toString choiceValue ++ " is not valid for '" ++ settingId ++ "'")
    else if value.choiceId.isSome ∧ expected.isSome ∧ expected ≠ value.choiceId then
      .error ("choiceId mismatch for '" ++ settingId ++ "': expected " ++ expected.getD "" ++ ", got "
        ++ value.choiceId.getD "")
    else
      let choiceId := expected.or setting.currentChoiceId
      .ok ({ setting with currentChoiceValue := some choiceValue, currentChoiceId := choiceId },
        .choice choiceValue choiceId)

def applyBool (settingId : String) (setting : Setting) (value : OperationValue) :
    Except String (Setting × AppliedOperation) :=
  match value.boolValue with
  | none => .error ("set-bool operation requires boolean value.boolValue for '" ++ settingId ++ "'")
  | some boolValue => .ok ({ setting with currentBool := some boolValue }, .bool boolValue)

/-- The checks on the addressed setting, and its new value. -/
def applyToSetting (setting : Setting) (operation : OperationDict) : Except String (Setting × AppliedOperation) :=
  let settingId := operation.settingId
  if setting.actionPath ≠ operation.actionPath then
    .error ("actionPath mismatch for settingId '" ++ settingId ++ "': expected " ++ setting.actionPath
      ++ ", got " ++ operation.actionPath)
  else if setting.kind ≠ operation.kind then .error ("kind mismatch for settingId '" ++ settingId ++ "'")
  else if operation.value.mode ∉ setting.supportedModes then
    .error ("mode '" ++ operation.value.mode.name ++ "' is not supported by settingId '" ++ settingId ++ "'")
  else
    match operation.kind with
    | .setFloat => applyFloat settingId setting operation.value
    | .setChoice => applyChoice settingId setting operation.value
    | .setBool => applyBool settingId setting operation.value

/-- `_apply_operation_to_settings` -/
def applyOperationToSettings (settings : SettingMap) (operation : OperationDict) :
    Except String (SettingMap × AppliedOperation) :=
  match settings.get? operation.settingId with
  | none => .error ("unknown settingId '" ++ operation.settingId ++ "'")
  | some setting => do
    let (setting, applied) ← applyToSetting setting operation
    return (settings.set operation.settingId setting, applied)

/-- Apply a batch in order and stop at the first error. -/
def applyBatch (settings : SettingMap) (operations : List OperationDict) : Except String SettingMap :=
  operations.foldlM (fun settings operation => (applyOperationToSettings settings operation).map (·.1)) settings

def isWhiteBalanceActionPath (actionPath : String) : Bool :=
  "iop/temperature/".toList.isPrefixOf actionPath.toList

section Ordering

-- Python lowercases some letters outside ASCII as well, among them two into ASCII ones
variable (lower : String → String)

def whiteBalanceOperationRank (operation : OperationDict) : Nat × String :=
  let leaf := lower (pathLeaf operation.actionPath)
  match operation.kind with
  | .setBool => (0, leaf)
  | .setChoice => (1, leaf)
  | .setFloat =>
    let order := [("finetune", 2), ("temperature", 3), ("tint", 4), ("red", 5), ("green", 6), ("blue", 7),
      ("emerald", 8), ("yellow", 9), ("various", 9)]
    ((order.lookup leaf).getD 99, leaf)

/-- The order of rank tuples. -/
def rankLe (left right : OperationDict) : Bool :=
  let leftRank := whiteBalanceOperationRank lower left
  let rightRank := whiteBalanceOperationRank lower right
  decide (leftRank.1 < rightRank.1) || (leftRank.1 == rightRank.1 && decide (leftRank.2 ≤ rightRank.2))

/-- `_order_operations_for_apply` -/
def orderOperationsForApply (operations : List OperationDict) : List OperationDict :=
  sortSelected (fun operation => isWhiteBalanceActionPath operation.actionPath) (rankLe lower) operations

end Ordering

theorem rankLe_total (lower : String → String) (left right : OperationDict) :
    rankLe lower left right || rankLe lower right left := by
  simp only [rankLe, Bool.or_eq_true, Bool.and_eq_true, decide_eq_true_eq, beq_iff_eq]
  rcases lt_trichotomy (whiteBalanceOperationRank lower left).1 (whiteBalanceOperationRank lower right).1
    with less | same | more
  · exact .inl (.inl less)
  · rcases le_total (whiteBalanceOperationRank lower left).2 (whiteBalanceOperationRank lower right).2
      with below | above
    · exact .inl (.inr ⟨same, below⟩)
    · exact .inr (.inr ⟨same.symm, above⟩)
  · exact .inr (.inl more)

theorem rankLe_trans (lower : String → String) (first second third : OperationDict)
    (below : rankLe lower first second) (above : rankLe lower second third) : rankLe lower first third := by
  simp only [rankLe, Bool.or_eq_true, Bool.and_eq_true, decide_eq_true_eq, beq_iff_eq] at below above ⊢
  rcases below with less | ⟨same, le⟩
  · rcases above with less' | ⟨same', -⟩
    · exact .inl (less.trans less')
    · exact .inl (same' ▸ less)
  · rcases above with less' | ⟨same', le'⟩
    · exact .inl (same ▸ less')
    · exact .inr ⟨same.trans same', le.trans le'⟩

/-- Operations with one action path and one kind have one rank. -/
theorem whiteBalanceOperationRank_of_same (lower : String → String) {left right : OperationDict}
    (path : left.actionPath = right.actionPath) (kind : left.kind = right.kind) :
    whiteBalanceOperationRank lower left = whiteBalanceOperationRank lower right := by
  simp only [whiteBalanceOperationRank, path, kind]

theorem rankLe_of_same (lower : String → String) {left right : OperationDict}
    (path : left.actionPath = right.actionPath) (kind : left.kind = right.kind) : rankLe lower left right := by
  simp [rankLe, whiteBalanceOperationRank_of_same lower path kind]

theorem orderOperationsForApply_perm (lower : String → String) (operations : List OperationDict) :
    (orderOperationsForApply lower operations).Perm operations :=
  sortSelected_perm operations

/-- What no operation changes: everything but the current value. -/
def Setting.frame (setting : Setting) : Setting :=
  { setting with currentNumber := none, currentChoiceValue := none, currentChoiceId := none, currentBool := none }

/-- The descriptive part of a setting that came from an accepted request. -/
structure Setting.Described (setting : Setting) : Prop where
  bounds : setting.kind = .setFloat → ∃ lower upper, setting.minNumber = some lower ∧
    setting.maxNumber = some upper ∧ lower ≤ upper
  choices : setting.kind = .setChoice → setting.choices ≠ [] ∧ (setting.choices.map (·.choiceValue)).Nodup ∧
    (setting.choices.map (·.choiceId)).Nodup
  absolute : setting.kind ≠ .setFloat → setting.supportedModes = [.set]

/-- The current value of a setting that was written lies within what its description allows. -/
structure Setting.Within (setting : Setting) : Prop where
  float : setting.kind = .setFloat → ∃ current lower upper, setting.currentNumber = some current ∧
    setting.minNumber = some lower ∧ setting.maxNumber = some upper ∧ lower ≤ current ∧ current ≤ upper
  choice : setting.kind = .setChoice → ∃ option ∈ setting.choices,
    setting.currentChoiceValue = some option.choiceValue ∧ setting.currentChoiceId = some option.choiceId
  bool : setting.kind = .setBool → ∃ current, setting.currentBool = some current

theorem compactSetting_described {setting : EditableSetting} (shape : SettingShape setting) :
    (compactSetting setting).Described := by
  cases kind : setting.kind with
  | setFloat =>
    obtain ⟨current, lower, upper, -, atLeast, atMost, ordered⟩ := shape.float kind
    refine ⟨fun _ => ⟨lower, upper, ?_, ?_, ordered⟩, ?_, ?_⟩ <;> simp [compactSetting, kind, atLeast, atMost]
  | setChoice =>
    obtain ⟨choices, found, present, values, ids⟩ := shape.choice kind
    have modes := shape.absolute (by simp [kind])
    refine ⟨?_, fun _ => ⟨?_, ?_, ?_⟩, fun _ => ?_⟩ <;> simp [compactSetting, kind, found, present, values, ids, modes]
  | setBool =>
    have modes := shape.absolute (by simp [kind])
    refine ⟨?_, ?_, fun _ => ?_⟩ <;> simp [compactSetting, kind, modes]

theorem settingById_described (request : RequestEnvelope) {settingId : String} {setting : Setting}
    (found : (settingById request).get? settingId = some setting) :
    setting.Described ∧ setting.settingId = settingId := by
  refine Dict.ofPairs_forall (fun key value => value.Described ∧ value.settingId = key) ?_ found
  intro pair member
  obtain ⟨editable, inRequest, rfl⟩ := List.mem_map.mp member
  refine ⟨compactSetting_described (request.setting_shape inRequest), ?_⟩
  unfold compactSetting
  cases editable.kind <;> rfl

/-- The choice mapping answers with the id of the one choice that has the value. -/
theorem choiceMapping_get? {setting : Setting} {value : Int} {choiceId : String}
    (found : (choiceMapping setting).get? value = some choiceId) :
    ∃ option ∈ setting.choices, option.choiceValue = value ∧ option.choiceId = choiceId := by
  refine Dict.ofPairs_forall
    (fun value choiceId => ∃ option ∈ setting.choices, option.choiceValue = value ∧
      option.choiceId = choiceId) ?_ found
  intro pair member
  obtain ⟨option, inChoices, rfl⟩ := List.mem_map.mp member
  exact ⟨option, inChoices, rfl, rfl⟩

theorem choiceMapping_keys_ne_nil {setting : Setting} (present : setting.choices ≠ []) :
    (choiceMapping setting).keys ≠ [] := by
  obtain ⟨option, rest, choices⟩ := List.exists_cons_of_ne_nil present
  refine List.ne_nil_of_mem (a := option.choiceValue) (Dict.mem_keys_ofPairs.mpr ?_)
  simp [choices]

section Apply

variable {setting setting' : Setting} {operation : OperationDict} {applied : AppliedOperation}

/-- What an accepted operation says: it addresses the setting's path, kind and modes, and its value
is one the kind allows. -/
theorem applyToSetting_cases (accepted : applyToSetting setting operation = .ok (setting', applied)) :
    setting.actionPath = operation.actionPath ∧ setting.kind = operation.kind ∧
      operation.value.mode ∈ setting.supportedModes ∧
      ((operation.kind = .setFloat ∧
          applyFloat operation.settingId setting operation.value = .ok (setting', applied)) ∨
        (operation.kind = .setChoice ∧
          applyChoice operation.settingId setting operation.value = .ok (setting', applied)) ∨
        (operation.kind = .setBool ∧
          applyBool operation.settingId setting operation.value = .ok (setting', applied))) := by
  simp only [applyToSetting] at accepted
  split_ifs at accepted with path kind mode
  refine ⟨not_not.mp path, not_not.mp kind, mode, ?_⟩
  cases operationKind : operation.kind with
  | setFloat => exact .inl ⟨rfl, by rwa [operationKind] at accepted⟩
  | setChoice => exact .inr (.inl ⟨rfl, by rwa [operationKind] at accepted⟩)
  | setBool => exact .inr (.inr ⟨rfl, by rwa [operationKind] at accepted⟩)

theorem applyFloat_cases {settingId : String} {value : OperationValue}
    (accepted : applyFloat settingId setting value = .ok (setting', applied)) :
    ∃ requested, value.number = some requested ∧
      setting' = { setting with
        currentNumber := some (clampNumber setting (resolvedNumber setting value.mode requested)) } := by
  unfold applyFloat at accepted
  cases number : value.number with
  | none => simp [number] at accepted
  | some requested =>
    simp only [number, Except.ok.injEq, Prod.mk.injEq] at accepted
    exact ⟨requested, rfl, accepted.1.symm⟩

theorem applyChoice_cases {settingId : String} {value : OperationValue}
    (accepted : applyChoice settingId setting value = .ok (setting', applied)) :
    ∃ choiceValue, value.choiceValue = some choiceValue ∧
      ((choiceMapping setting).keys = [] ∨ ((choiceMapping setting).get? choiceValue).isSome) ∧
      (∀ choiceId expected, value.choiceId = some choiceId →
        (choiceMapping setting).get? choiceValue = some expected → choiceId = expected) ∧
      setting' = { setting with
        currentChoiceValue := some choiceValue
        currentChoiceId := ((choiceMapping setting).get? choiceValue).or setting.currentChoiceId } := by
  unfold applyChoice at accepted
  cases requested : value.choiceValue with
  | none => simp [requested] at accepted
  | some choiceValue =>
    simp only [requested] at accepted
    split_ifs at accepted with unknown mismatch
    simp only [Except.ok.injEq, Prod.mk.injEq] at accepted
    refine ⟨choiceValue, rfl, ?_, ?_, accepted.1.symm⟩
    -- a setting without choices accepts every value
    · by_cases empty : (choiceMapping setting).keys = []
      · exact .inl empty
      · exact .inr (Option.isSome_iff_ne_none.mpr fun absent => unknown ⟨empty, by simp [absent]⟩)
    · intro choiceId expected given found
      simp only [given, found, Option.isSome_some, true_and, Option.some.injEq, ne_eq, not_not] at mismatch
      exact mismatch.symm

theorem applyBool_cases {settingId : String} {value : OperationValue}
    (accepted : applyBool settingId setting value = .ok (setting', applied)) :
    ∃ boolValue, value.boolValue = some boolValue ∧ setting' = { setting with currentBool := some boolValue } := by
  unfold applyBool at accepted
  cases requested : value.boolValue with
  | none => simp [requested] at accepted
  | some boolValue =>
    simp only [requested, Except.ok.injEq, Prod.mk.injEq] at accepted
    exact ⟨boolValue, rfl, accepted.1.symm⟩

theorem applyToSetting_frame (accepted : applyToSetting setting operation = .ok (setting', applied)) :
    setting'.frame = setting.frame := by
  obtain ⟨-, -, -, ⟨-, float⟩ | ⟨-, choice⟩ | ⟨-, bool⟩⟩ := applyToSetting_cases accepted
  · obtain ⟨_, -, rfl⟩ := applyFloat_cases float
    rfl
  · obtain ⟨_, -, -, -, rfl⟩ := applyChoice_cases choice
    rfl
  · obtain ⟨_, -, rfl⟩ := applyBool_cases bool
    rfl

theorem Setting.Described.of_frame (same : setting'.frame = setting.frame) (described : setting.Described) :
    setting'.Described := by
  simp only [Setting.frame, Setting.mk.injEq] at same
  obtain ⟨-, -, -, kind, -, modes, -, lower, upper, -, -, -, -, -, choices, -, -⟩ := same
  refine ⟨?_, ?_, ?_⟩
  · rw [kind, lower, upper]
    exact described.bounds
  · rw [kind, choices]
    exact described.choices
  · rw [kind, modes]
    exact described.absolute

theorem clampNumber_within {lower upper : ℚ} (atLeast : setting.minNumber = some lower)
    (atMost : setting.maxNumber = some upper) (ordered : lower ≤ upper) (value : ℚ) :
    lower ≤ clampNumber setting value ∧ clampNumber setting value ≤ upper := by
  simp only [clampNumber, atLeast, atMost, Option.elim]
  exact ⟨le_min (le_max_right _ _) ordered, min_le_right _ _⟩

/-- A written setting holds a value that its description allows. -/
theorem applyToSetting_within (described : setting.Described)
    (accepted : applyToSetting setting operation = .ok (setting', applied)) : setting'.Within := by
  obtain ⟨-, kind, -, ⟨isKind, float⟩ | ⟨isKind, choice⟩ | ⟨isKind, bool⟩⟩ := applyToSetting_cases accepted
  · obtain ⟨requested, -, rfl⟩ := applyFloat_cases float
    obtain ⟨lower, upper, atLeast, atMost, ordered⟩ := described.bounds (kind.trans isKind)
    obtain ⟨above, below⟩ := clampNumber_within atLeast atMost ordered
      (resolvedNumber setting operation.value.mode requested)
    refine ⟨fun _ => ⟨_, lower, upper, rfl, atLeast, atMost, above, below⟩, ?_, ?_⟩ <;> simp [kind, isKind]
  · obtain ⟨choiceValue, -, known, -, rfl⟩ := applyChoice_cases choice
    obtain ⟨present, -, -⟩ := described.choices (kind.trans isKind)
    obtain ⟨choiceId, found⟩ := Option.isSome_iff_exists.mp
      (known.resolve_left (choiceMapping_keys_ne_nil present))
    obtain ⟨option, inChoices, rfl, rfl⟩ := choiceMapping_get? found
    refine ⟨by simp [kind, isKind], fun _ => ⟨option, inChoices, rfl, ?_⟩, by simp [kind, isKind]⟩
    simp [found]
  · obtain ⟨boolValue, -, rfl⟩ := applyBool_cases bool
    exact ⟨by simp [kind, isKind], by simp [kind, isKind], fun _ => ⟨boolValue, rfl⟩⟩

end Apply

/-- A successful operation assigns to the addressed setting and to nothing else. -/
theorem applyOperationToSettings_cases {settings settings' : SettingMap} {operation : OperationDict}
    {applied : AppliedOperation} (accepted : applyOperationToSettings settings operation = .ok (settings', applied)) :
    ∃ setting setting', settings.get? operation.settingId = some setting ∧
      applyToSetting setting operation = .ok (setting', applied) ∧
      settings' = settings.set operation.settingId setting' := by
  unfold applyOperationToSettings at accepted
  cases found : settings.get? operation.settingId with
  | none => simp [found] at accepted
  | some setting =>
    simp only [found] at accepted
    cases result : applyToSetting setting operation with
    | error text => simp [result, bind, Except.bind] at accepted
    | ok written =>
      obtain ⟨setting', record⟩ := written
      simp only [result, bind, Except.bind, pure, Except.pure, Except.ok.injEq, Prod.mk.injEq] at accepted
      obtain ⟨rfl, rfl⟩ := accepted
      exact ⟨setting, setting', rfl, result, rfl⟩

/-- Every setting of the map has a description that an accepted request could give it. -/
def SettingMapDescribed (settings : SettingMap) : Prop :=
  ∀ settingId setting, settings.get? settingId = some setting → setting.Described

section Batch

variable {settings settings' : SettingMap} {operation : OperationDict}

theorem applyBatch_cons {operations : List OperationDict}
    (accepted : applyBatch settings (operation :: operations) = .ok settings') :
    ∃ middle applied, applyOperationToSettings settings operation = .ok (middle, applied) ∧
      applyBatch middle operations = .ok settings' := by
  rw [applyBatch, List.foldlM_cons] at accepted
  cases result : applyOperationToSettings settings operation with
  | error text => simp [result, Except.map, bind, Except.bind] at accepted
  | ok written =>
    obtain ⟨middle, applied⟩ := written
    simp only [result, Except.map, bind, Except.bind] at accepted
    exact ⟨middle, applied, rfl, accepted⟩

theorem applyBatch_append {settings middle : SettingMap} {first second : List OperationDict}
    (reached : applyBatch settings first = .ok middle) :
    applyBatch settings (first ++ second) = applyBatch middle second := by
  unfold applyBatch at reached ⊢
  rw [List.foldlM_append, reached]
  rfl

theorem applyBatch_append_ok {settings last : SettingMap} {first second : List OperationDict}
    (accepted : applyBatch settings (first ++ second) = .ok last) :
    ∃ middle, applyBatch settings first = .ok middle ∧ applyBatch middle second = .ok last := by
  cases reached : applyBatch settings first with
  | ok middle => exact ⟨middle, rfl, (applyBatch_append reached).symm.trans accepted⟩
  | error text =>
    unfold applyBatch at accepted reached
    rw [List.foldlM_append, reached] at accepted
    cases accepted

theorem applyOperationToSettings_described (described : SettingMapDescribed settings) {applied : AppliedOperation}
    (accepted : applyOperationToSettings settings operation = .ok (settings', applied)) :
    SettingMapDescribed settings' := by
  obtain ⟨setting, setting', found, written, rfl⟩ := applyOperationToSettings_cases accepted
  intro settingId other lookup
  rw [Dict.get?_set] at lookup
  split_ifs at lookup
  · cases lookup
    exact (described _ _ found).of_frame (applyToSetting_frame written)
  · exact described settingId other lookup

/-- Settings that no operation of the batch addresses are left alone. -/
theorem applyBatch_untouched {operations : List OperationDict}
    (accepted : applyBatch settings operations = .ok settings') {settingId : String}
    (untouched : ∀ operation ∈ operations, operation.settingId ≠ settingId) :
    settings'.get? settingId = settings.get? settingId := by
  induction operations generalizing settings with
  | nil => cases accepted; rfl
  | cons operation rest ih =>
    obtain ⟨middle, applied, first, others⟩ := applyBatch_cons accepted
    obtain ⟨setting, setting', -, -, rfl⟩ := applyOperationToSettings_cases first
    rw [ih others fun other member => untouched other (List.mem_cons_of_mem _ member),
      Dict.get?_set_ne (untouched operation List.mem_cons_self).symm]

/-- Every setting that the batch addresses ends within its description. -/
theorem applyBatch_within (described : SettingMapDescribed settings) {operations : List OperationDict}
    (accepted : applyBatch settings operations = .ok settings') {settingId : String}
    (touched : ∃ operation ∈ operations, operation.settingId = settingId) :
    ∃ setting, settings'.get? settingId = some setting ∧ setting.Within := by
  induction operations generalizing settings with
  | nil => simp at touched
  | cons operation rest ih =>
    obtain ⟨middle, applied, first, others⟩ := applyBatch_cons accepted
    -- the last operation that addresses the setting decides what it ends with
    by_cases later : ∃ operation ∈ rest, operation.settingId = settingId
    · exact ih (applyOperationToSettings_described described first) others later
    · obtain ⟨toucher, member, addressed⟩ := touched
      obtain rfl : toucher = operation := by
        rcases List.mem_cons.mp member with here | inRest
        · exact here
        · exact absurd ⟨toucher, inRest, addressed⟩ later
      obtain ⟨setting, setting', found, written, rfl⟩ := applyOperationToSettings_cases first
      refine ⟨setting', ?_, applyToSetting_within (described _ _ found) written⟩
      rw [applyBatch_untouched others fun other inRest same => later ⟨other, inRest, same⟩, ← addressed,
        Dict.get?_set_self]

theorem applyBatch_described (described : SettingMapDescribed settings) {operations : List OperationDict}
    (accepted : applyBatch settings operations = .ok settings') : SettingMapDescribed settings' := by
  induction operations generalizing settings with
  | nil => cases accepted; exact described
  | cons operation rest ih =>
    obtain ⟨middle, applied, first, others⟩ := applyBatch_cons accepted
    exact ih (applyOperationToSettings_described described first) others

end Batch

end DarktableAgent.Server
