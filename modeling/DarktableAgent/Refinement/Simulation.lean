import DarktableAgent.Refinement.Cells
import DarktableAgent.Refinement.Orders

/-! The client's execution follows the server's simulation.

A control mirrors a setting when the client would report it with the setting's
description and current value. An operation that the server accepts on the
setting is applied by the client to the control, and the two still mirror.
-/

set_option autoImplicit false

namespace DarktableAgent.Refinement

open Foundation Protocol Server Client

/-- The control and the setting hold the same value. -/
structure SameCurrent (control : AgentImageControl ℚ) (setting : Setting) : Prop where
  number : setting.currentNumber = control.currentNumber
  choiceValue : setting.currentChoiceValue = control.currentChoiceValue
  choiceId : setting.currentChoiceId = control.currentChoiceId
  bool : setting.currentBool = control.currentBool

/-- The part of a setting that decides what is accepted is the control's. -/
structure SameDescription (control : AgentImageControl ℚ) (setting : Setting) : Prop where
  actionPath : setting.actionPath = control.actionPath
  kind : setting.kind = control.kind
  supportedModes : setting.supportedModes = control.supportedModes
  range : control.kind = .setFloat → setting.minNumber = some control.minNumber ∧
    setting.maxNumber = some control.maxNumber ∧ control.minNumber ≤ control.maxNumber
  choices : control.kind = .setChoice → setting.choices ≠ [] ∧
    (setting.choices.map (·.choiceValue)).Nodup ∧
    setting.choices.map (fun choice => (choice.choiceValue, choice.choiceId)) =
      control.choices.map fun choice => (choice.choiceValue, choice.choiceId)

structure Mirrors (control : AgentImageControl ℚ) (setting : Setting) : Prop where
  description : SameDescription control setting
  current : SameCurrent control setting

theorem SameDescription.of_frame {control : AgentImageControl ℚ} {setting setting' : Setting}
    (same : setting'.frame = setting.frame) (description : SameDescription control setting) :
    SameDescription control setting' := by
  simp only [Setting.frame, Setting.mk.injEq] at same
  obtain ⟨-, -, -, kind, path, modes, -, lower, upper, -, -, -, -, -, choices, -, -⟩ := same
  refine ⟨path.trans description.actionPath, kind.trans description.kind,
    modes.trans description.supportedModes, ?_, ?_⟩
  · rw [lower, upper]
    exact description.range
  · rw [choices]
    exact description.choices

section Received

@[simp] theorem clientOperation_status (operation : PlannedOperationDraft) :
    (clientOperation operation).status = "planned" := by
  unfold clientOperation
  cases operation.kind <;> rfl

@[simp] theorem clientOperation_targetType (operation : PlannedOperationDraft) :
    (clientOperation operation).targetType = darktableAction :=
  (clientOperation_agrees operation).targetType

@[simp] theorem clientOperation_valueMode (operation : PlannedOperationDraft) :
    (clientOperation operation).valueMode = some operation.value.mode :=
  (clientOperation_agrees operation).mode

end Received

section Clamp

/-- Both programs clamp to the range in the same way. -/
theorem clampNumber_eq {W : Type} {descriptor : ActionDescriptor ℚ W} {setting : Setting}
    (ranged : descriptor.hasNumberRange) (lower : setting.minNumber = some descriptor.minNumber)
    (upper : setting.maxNumber = some descriptor.maxNumber)
    (ordered : descriptor.minNumber ≤ descriptor.maxNumber) (value : ℚ) :
    clampNumber setting value = catalogClampNumber descriptor value := by
  simp only [clampNumber, lower, upper, Option.elim, catalogClampNumber, ranged, if_true, clamp, Numeric.less,
    decide_eq_true_eq]
  split_ifs with above below
  · exact min_eq_right (above.le.trans (le_max_left _ _))
  · rw [max_eq_right below.le, min_eq_left ordered]
  · rw [max_eq_left (not_lt.mp below), min_eq_left (not_lt.mp above)]

end Clamp

section Control

variable {W : Type} [DecidableEq W] {catalog : WidgetCatalog W} {cells : Cells W}
  {descriptor : ActionDescriptor ℚ W} {setting : Setting} {widget : W}

theorem sameCurrent_float (kind : descriptor.operationKind = .setFloat) (binding : descriptor.binding = .widget)
    (own : descriptor.widget = some widget) :
    SameCurrent (controlOfDescriptor catalog.darkroom cells descriptor) setting ↔
      setting.currentNumber = some (cells.number widget) ∧ setting.currentChoiceValue = none ∧
        setting.currentChoiceId = none ∧ setting.currentBool = none := by
  have number : catalogReadCurrentNumber catalog.darkroom cells descriptor = .value (cells.number widget) := by
    simp only [catalogReadCurrentNumber, kind, ne_eq, not_true_eq_false, if_false, binding, own]
    rfl
  constructor
  · rintro ⟨current, value, choiceId, bool⟩
    simp only [controlOfDescriptor, kind, number, Reading.toOption] at current value choiceId bool
    exact ⟨current, value, choiceId, bool⟩
  · rintro ⟨current, value, choiceId, bool⟩
    constructor <;> simp only [controlOfDescriptor, kind, number, Reading.toOption, current, value, choiceId, bool]

theorem sameCurrent_choice (kind : descriptor.operationKind = .setChoice) (own : descriptor.widget = some widget) :
    SameCurrent (controlOfDescriptor catalog.darkroom cells descriptor) setting ↔
      setting.currentNumber = none ∧ setting.currentChoiceValue = some (cells.choice widget) ∧
        setting.currentChoiceId = (choiceOptionForValue descriptor (cells.choice widget)).map (·.choiceId) ∧
        setting.currentBool = none := by
  have choice : catalogReadCurrentChoice catalog.darkroom cells descriptor = .ok (cells.choice widget,
      (choiceOptionForValue descriptor (cells.choice widget)).map (·.choiceId)) := by
    simp only [catalogReadCurrentChoice, own, kind, ne_eq, not_true_eq_false, if_false]
    rfl
  constructor
  · rintro ⟨current, value, choiceId, bool⟩
    simp only [controlOfDescriptor, kind, choice, Except.toOption, Option.map_some, Option.bind_some]
      at current value choiceId bool
    exact ⟨current, value, choiceId, bool⟩
  · rintro ⟨current, value, choiceId, bool⟩
    constructor <;> simp only [controlOfDescriptor, kind, choice, Except.toOption, Option.map_some,
      Option.bind_some, current, value, choiceId, bool]

/-- What a bool control holds: whether its toggle is active, or whether its combobox is off zero. -/
def boolCell (catalog : WidgetCatalog W) (cells : Cells W) (widget : W) : Bool :=
  if catalog.isToggle widget then cells.active widget else cells.choice widget ≠ 0

theorem catalogReadCurrentBool_cell (kind : descriptor.operationKind = .setBool)
    (own : descriptor.widget = some widget) :
    catalogReadCurrentBool catalog.darkroom cells descriptor = .ok (boolCell catalog cells widget) := by
  simp only [catalogReadCurrentBool, own, kind, ne_eq, not_true_eq_false, if_false, boolCell]
  by_cases toggle : catalog.isToggle widget
  · have isToggle : catalog.darkroom.isToggleButton cells widget := toggle
    rw [if_pos isToggle, if_pos toggle]
    rfl
  · have notToggle : ¬ catalog.darkroom.isToggleButton cells widget := toggle
    rw [if_neg notToggle, if_neg toggle]
    rfl

theorem sameCurrent_bool (kind : descriptor.operationKind = .setBool) (own : descriptor.widget = some widget) :
    SameCurrent (controlOfDescriptor catalog.darkroom cells descriptor) setting ↔
      setting.currentNumber = none ∧ setting.currentChoiceValue = none ∧
        setting.currentChoiceId = none ∧ setting.currentBool = some (boolCell catalog cells widget) := by
  have read : catalogReadCurrentBool catalog.darkroom cells descriptor = _ := catalogReadCurrentBool_cell kind own
  constructor
  · rintro ⟨current, value, choiceId, bool⟩
    simp only [controlOfDescriptor, kind, read, Except.toOption] at current value choiceId bool
    exact ⟨current, value, choiceId, bool⟩
  · rintro ⟨current, value, choiceId, bool⟩
    constructor <;> simp only [controlOfDescriptor, kind, read, Except.toOption, current, value, choiceId, bool]

theorem mem_supportedModes {mode : OperationMode} :
    mode ∈ (controlOfDescriptor catalog.darkroom cells descriptor).supportedModes ↔
      descriptor.supportsMode (some mode) := by
  unfold AgentImageControl.supportedModes controlOfDescriptor
  cases mode with
  | set => by_cases absolute : descriptor.supportsSet <;> simp [ActionDescriptor.supportsMode, absolute]
  | delta => by_cases relative : descriptor.supportsDelta <;> simp [ActionDescriptor.supportsMode, relative]

end Control

/-- The server accepts the operation for the setting of a control. -/
structure AcceptedFor {W : Type} [DecidableEq W] (catalog : WidgetCatalog W) (cells : Cells W)
    (descriptor : ActionDescriptor ℚ W) (setting : Setting) (dict : OperationDict) (setting' : Setting) : Prop where
  member : descriptor ∈ catalog.descriptors
  settingId : descriptor.settingId = dict.settingId
  description : SameDescription (controlOfDescriptor catalog.darkroom cells descriptor) setting
  accepted : ∃ applied, applyToSetting setting dict = .ok (setting', applied)

namespace AcceptedFor

variable {W : Type} [DecidableEq W] {catalog : WidgetCatalog W} {cells : Cells W}
  {descriptor : ActionDescriptor ℚ W} {setting setting' : Setting} {dict : OperationDict}

/-- The client finds the control of the setting, whatever the cells hold by then. -/
theorem found (accepts : AcceptedFor catalog cells descriptor setting dict setting') (cells' : Cells W) :
    catalogFindDescriptor catalog.darkroom cells' (received dict).actionPath (received dict).settingId =
      .ok descriptor := by
  obtain ⟨applied, written⟩ := accepts.accepted
  have samePath : descriptor.actionPath = dict.operation.target.actionPath :=
    accepts.description.actionPath.symm.trans (applyToSetting_cases written).1
  have sameId : descriptor.settingId = dict.operation.target.settingId := accepts.settingId
  rw [received, clientOperation_actionPath, clientOperation_settingId, ← samePath, ← sameId]
  exact WidgetCatalog.catalogFindDescriptor_of_mem accepts.member
    (sameId ▸ dict.operation.target.settingIdPresent) cells'

theorem kind (accepts : AcceptedFor catalog cells descriptor setting dict setting') :
    descriptor.operationKind = dict.kind := by
  obtain ⟨applied, written⟩ := accepts.accepted
  exact accepts.description.kind.symm.trans (applyToSetting_cases written).2.1

theorem supportsMode (accepts : AcceptedFor catalog cells descriptor setting dict setting') :
    descriptor.supportsMode (some dict.value.mode) := by
  obtain ⟨applied, written⟩ := accepts.accepted
  have supported := (applyToSetting_cases written).2.2.1
  rw [accepts.description.supportedModes] at supported
  exact mem_supportedModes.mp supported

/-- An accepted choice is an option of the control, under the id that the server expects. -/
theorem choiceOption (accepts : AcceptedFor catalog cells descriptor setting dict setting')
    (choice : dict.kind = .setChoice) :
    ∃ choiceValue option, dict.value.choiceValue = some choiceValue ∧
      choiceOptionForValue descriptor choiceValue = some option ∧
      (∀ choiceId, dict.value.choiceId = some choiceId → choiceId = option.choiceId) ∧
      setting' = { setting with
        currentChoiceValue := some choiceValue
        currentChoiceId := some option.choiceId } := by
  obtain ⟨applied, written⟩ := accepts.accepted
  obtain ⟨-, -, -, ⟨isKind, -⟩ | ⟨-, byChoice⟩ | ⟨isKind, -⟩⟩ := applyToSetting_cases written
  · rw [choice] at isKind
    cases isKind
  · obtain ⟨choiceValue, carried, known, sameId, result⟩ := applyChoice_cases byChoice
    obtain ⟨present, distinct, sameChoices⟩ := accepts.description.choices (accepts.kind.trans choice)
    obtain ⟨expected, mapped⟩ := Option.isSome_iff_exists.mp
      (known.resolve_left (choiceMapping_keys_ne_nil present))
    obtain ⟨reported, inSetting, sameValue, rfl⟩ := choiceMapping_get? mapped
    -- the same pair of value and id stands in the control's own options
    have inControl : (choiceValue, reported.choiceId) ∈
        descriptor.choices.map fun option => (option.choiceValue, option.choiceId) := by
      have listed := List.mem_map_of_mem (f := fun choice => (choice.choiceValue, choice.choiceId)) inSetting
      rw [sameChoices, sameValue] at listed
      exact listed
    obtain ⟨option, inOptions, same⟩ := List.mem_map.mp inControl
    have optionValue : option.choiceValue = choiceValue := congrArg Prod.fst same
    have optionId : option.choiceId = reported.choiceId := congrArg Prod.snd same
    have values : setting.choices.map (·.choiceValue) = descriptor.choices.map (·.choiceValue) := by
      simpa [Function.comp_def, controlOfDescriptor] using congrArg (List.map Prod.fst) sameChoices
    rw [values] at distinct
    have first : choiceOptionForValue descriptor choiceValue = some option := by
      apply find?_of_distinct _ distinct inOptions
      · simp [optionValue]
      · intro other _ isMatch
        rw [of_decide_eq_true isMatch, optionValue]
    refine ⟨choiceValue, option, carried, first, fun choiceId given => ?_, ?_⟩
    · rw [optionId]
      exact sameId choiceId _ given mapped
    · rw [result, mapped, optionId]
      rfl
  · rw [choice] at isKind
    cases isKind

/-- The validator passes what the server accepted, whatever the cells hold by then. -/
theorem validates (accepts : AcceptedFor catalog cells descriptor setting dict setting') (cells' : Cells W) :
    validateOperation catalog.darkroom cells' (received dict) = .ok () := by
  have calm : validateWhiteBalanceOperation catalog.darkroom cells' (received dict) descriptor = .ok () :=
    WidgetCatalog.validateWhiteBalanceOperation_calm (received dict) descriptor cells'
  have agrees := clientOperation_agrees dict.operation
  obtain ⟨widget, binding, own⟩ := WidgetCatalog.widget_of_mem accepts.member
  simp only [validateOperation, received, clientOperation_status, clientOperation_targetType, ne_eq,
    not_true_eq_false, if_false, clientOperation_kind]
  cases kind : dict.operation.kind with
  | setFloat =>
    have isFloat : descriptor.operationKind = .setFloat := accepts.kind.trans kind
    refine validateFloatOperation_ok.mpr ⟨descriptor, accepts.found cells', calm, cells'.number widget, ?_, ?_⟩
    · simp only [readDescriptorFloatValue, catalogReadCurrentNumber, isFloat, ne_eq, not_true_eq_false,
        if_false, binding, own]
      rfl
    · rw [clientOperation_valueMode]
      exact accepts.supportsMode
  | setChoice =>
    obtain ⟨choiceValue, option, carried, first, sameId, -⟩ := accepts.choiceOption kind
    obtain ⟨present, value, choiceId⟩ := agrees.choice kind
    obtain rfl : choiceValue = (clientOperation dict.operation).choiceValue :=
      Option.some.inj (carried.symm.trans value)
    refine validateChoiceOperation_ok.mpr ⟨descriptor, accepts.found cells', calm, ?_, present, option, first, ?_⟩
    · rw [clientOperation_valueMode, dict.operation.shape.mode_set (by simp [kind])]
    · intro given isGiven
      rw [choiceId, Option.filter_eq_some_iff] at isGiven
      exact .inr (sameId given isGiven.1)
  | setBool =>
    obtain ⟨present, -⟩ := agrees.bool kind
    refine validateBoolOperation_ok.mpr ⟨descriptor, accepts.found cells', calm, ?_, present⟩
    rw [clientOperation_valueMode, dict.operation.shape.mode_set (by simp [kind])]

/-- The number the client writes is the one the server keeps. -/
theorem executes_float (accepts : AcceptedFor catalog cells descriptor setting dict setting')
    (float : dict.kind = .setFloat) (current : SameCurrent (controlOfDescriptor catalog.darkroom cells descriptor) setting)
    {widget : W} (binding : descriptor.binding = .widget) (own : descriptor.widget = some widget) :
    ∃ value, setting' = { setting with currentNumber := some value } ∧
      (executeSetFloatOperation catalog.darkroom cells (received dict)).result.status = .applied ∧
      (executeSetFloatOperation catalog.darkroom cells (received dict)).state = cells.setNumber widget value := by
  have isFloat : descriptor.operationKind = .setFloat := accepts.kind.trans float
  obtain ⟨applied, written⟩ := accepts.accepted
  obtain ⟨-, -, -, ⟨-, byFloat⟩ | ⟨isKind, -⟩ | ⟨isKind, -⟩⟩ := applyToSetting_cases written
  · obtain ⟨requested, carried, result⟩ := applyFloat_cases byFloat
    obtain ⟨lower, upper, ordered⟩ := accepts.description.range isFloat
    have ranged := catalog.ranged descriptor accepts.member isFloat
    have number : (received dict).number = requested :=
      Option.some.inj (((clientOperation_agrees dict.operation).number float).symm.trans carried)
    have mode : (received dict).valueMode = some dict.value.mode := clientOperation_valueMode dict.operation
    -- the client's slider and the server's setting start from the same number
    have start := ((sameCurrent_float isFloat binding own).mp current).1
    have read : readDescriptorFloatValue catalog.darkroom cells descriptor = .ok (cells.number widget) := by
      simp only [readDescriptorFloatValue, catalogReadCurrentNumber, isFloat, ne_eq, not_true_eq_false,
        if_false, binding, own]
      rfl
    have supported := accepts.supportsMode
    refine ⟨_, result, ?_⟩
    rw [clampNumber_eq ranged lower upper ordered]
    cases moved : dict.value.mode with
    | delta =>
      have target : resolvedNumber setting .delta requested = Numeric.add (cells.number widget) requested := by
        simp [resolvedNumber, start, Numeric.add]
      rw [moved] at mode supported
      rw [target]
      simp only [executeSetFloatOperation, accepts.found cells, read, mode, supported, not_true_eq_false, if_false,
        number, catalogWriteNumber, isFloat, ne_eq, binding, own]
      exact ⟨rfl, rfl⟩
    | set =>
      rw [moved] at mode supported
      simp only [executeSetFloatOperation, accepts.found cells, read, mode, supported, not_true_eq_false, if_false,
        number, catalogWriteNumber, isFloat, ne_eq, binding, own]
      exact ⟨rfl, rfl⟩
  · rw [float] at isKind
    cases isKind
  · rw [float] at isKind
    cases isKind

theorem executes_choice (accepts : AcceptedFor catalog cells descriptor setting dict setting')
    (choice : dict.kind = .setChoice) {widget : W} (own : descriptor.widget = some widget) :
    ∃ choiceValue option, choiceOptionForValue descriptor choiceValue = some option ∧
      setting' = { setting with
        currentChoiceValue := some choiceValue
        currentChoiceId := some option.choiceId } ∧
      (executeSetChoiceOperation catalog.darkroom cells (received dict)).result.status = .applied ∧
      (executeSetChoiceOperation catalog.darkroom cells (received dict)).state =
        cells.setChoice widget choiceValue := by
  have isChoice : descriptor.operationKind = .setChoice := accepts.kind.trans choice
  obtain ⟨choiceValue, option, carried, first, -, result⟩ := accepts.choiceOption choice
  obtain ⟨present, value, -⟩ := (clientOperation_agrees dict.operation).choice choice
  have requested : (received dict).choiceValue = choiceValue := Option.some.inj (value.symm.trans carried)
  have mode : (received dict).valueMode = some .set := by
    rw [received, clientOperation_valueMode, dict.operation.shape.mode_set]
    exact fun float => by rw [OperationDict.kind, float] at choice; cases choice
  have hasValue : (received dict).hasChoiceValue = true := present
  refine ⟨choiceValue, option, first, result, ?_⟩
  simp only [executeSetChoiceOperation, accepts.found cells, mode, hasValue, ne_eq, not_true_eq_false, or_self,
    if_false, requested, catalogWriteChoice, own, isChoice]
  exact ⟨rfl, rfl⟩

theorem executes_bool (accepts : AcceptedFor catalog cells descriptor setting dict setting')
    (bool : dict.kind = .setBool) {widget : W} (own : descriptor.widget = some widget) :
    ∃ value, setting' = { setting with currentBool := some value } ∧
      (executeSetBoolOperation catalog.darkroom cells (received dict)).result.status = .applied ∧
      (executeSetBoolOperation catalog.darkroom cells (received dict)).state =
        if catalog.isToggle widget then cells.setActive widget value
        else cells.setChoice widget (if value then 1 else 0) := by
  have isBool : descriptor.operationKind = .setBool := accepts.kind.trans bool
  obtain ⟨applied, written⟩ := accepts.accepted
  obtain ⟨-, -, -, ⟨isKind, -⟩ | ⟨isKind, -⟩ | ⟨-, byBool⟩⟩ := applyToSetting_cases written
  · rw [bool] at isKind
    cases isKind
  · rw [bool] at isKind
    cases isKind
  · obtain ⟨value, carried, result⟩ := applyBool_cases byBool
    obtain ⟨present, agreed⟩ := (clientOperation_agrees dict.operation).bool bool
    have requested : (received dict).boolValue = value := Option.some.inj (agreed.symm.trans carried)
    have mode : (received dict).valueMode = some .set := by
      rw [received, clientOperation_valueMode, dict.operation.shape.mode_set]
      exact fun float => by rw [OperationDict.kind, float] at bool; cases bool
    have hasValue : (received dict).hasBoolValue = true := present
    refine ⟨value, result, ?_⟩
    simp only [executeSetBoolOperation, accepts.found cells, mode, hasValue, ne_eq, not_true_eq_false, or_self,
      if_false, requested, catalogWriteBool, own, isBool]
    by_cases toggle : catalog.isToggle widget
    · have isToggle : catalog.darkroom.isToggleButton cells widget := toggle
      simp only [if_pos isToggle, if_pos toggle]
      exact ⟨rfl, rfl⟩
    · have notToggle : ¬ catalog.darkroom.isToggleButton cells widget := toggle
      simp only [if_neg notToggle, if_neg toggle]
      exact ⟨rfl, rfl⟩

/-- The operation is applied: its control then holds what the server keeps, and no other cell moved. -/
theorem executes (accepts : AcceptedFor catalog cells descriptor setting dict setting')
    (current : SameCurrent (controlOfDescriptor catalog.darkroom cells descriptor) setting) :
    ∃ widget, descriptor.widget = some widget ∧
      (executeOperation catalog.darkroom cells (received dict)).result.status = .applied ∧
      WidgetCatalog.SameOutside widget (executeOperation catalog.darkroom cells (received dict)).state cells ∧
      SameCurrent (controlOfDescriptor catalog.darkroom
        (executeOperation catalog.darkroom cells (received dict)).state descriptor) setting' := by
  obtain ⟨widget, binding, own⟩ := WidgetCatalog.widget_of_mem accepts.member
  refine ⟨widget, own, ?_⟩
  simp only [executeOperation, received, clientOperation_status, clientOperation_targetType, ne_eq,
    not_true_eq_false, if_false, clientOperation_kind]
  cases kind : dict.operation.kind with
  | setFloat =>
    have isFloat : descriptor.operationKind = .setFloat := accepts.kind.trans kind
    obtain ⟨value, rfl, applied, state⟩ := accepts.executes_float kind current binding own
    obtain ⟨-, others⟩ := (sameCurrent_float isFloat binding own).mp current
    rw [received] at applied state
    refine ⟨applied, ?_, ?_⟩ <;> simp only [state]
    · exact WidgetCatalog.sameOutside_setNumber cells widget value
    · exact (sameCurrent_float isFloat binding own).mpr ⟨by simp [Cells.setNumber], others⟩
  | setChoice =>
    have isChoice : descriptor.operationKind = .setChoice := accepts.kind.trans kind
    obtain ⟨choiceValue, option, first, rfl, applied, state⟩ := accepts.executes_choice kind own
    obtain ⟨number, -, -, bool⟩ := (sameCurrent_choice isChoice own).mp current
    rw [received] at applied state
    refine ⟨applied, ?_, ?_⟩ <;> simp only [state]
    · exact WidgetCatalog.sameOutside_setChoice cells widget choiceValue
    · have holds : (cells.setChoice widget choiceValue).choice widget = choiceValue := by simp [Cells.setChoice]
      exact (sameCurrent_choice isChoice own).mpr ⟨number, by rw [holds], by rw [holds, first]; rfl, bool⟩
  | setBool =>
    have isBool : descriptor.operationKind = .setBool := accepts.kind.trans kind
    obtain ⟨value, rfl, applied, state⟩ := accepts.executes_bool kind own
    obtain ⟨number, choiceValue, choiceId, -⟩ := (sameCurrent_bool isBool own).mp current
    rw [received] at applied state
    refine ⟨applied, ?_, ?_⟩ <;> simp only [state]
    · by_cases toggle : catalog.isToggle widget
      · rw [if_pos toggle]
        exact WidgetCatalog.sameOutside_setActive cells widget value
      · rw [if_neg toggle]
        exact WidgetCatalog.sameOutside_setChoice cells widget _
    · refine (sameCurrent_bool isBool own).mpr ⟨number, choiceValue, choiceId, ?_⟩
      by_cases toggle : catalog.isToggle widget
      · simp [boolCell, toggle, Cells.setActive]
      · cases value <;> simp [boolCell, toggle, Cells.setChoice]

end AcceptedFor

/-- Every control mirrors its setting, and there are no other settings. -/
structure Holds {W : Type} [DecidableEq W] (catalog : WidgetCatalog W) (cells : Cells W)
    (settings : SettingMap) : Prop where
  mirrored : ∀ descriptor ∈ catalog.descriptors, ∃ setting, settings.get? descriptor.settingId = some setting ∧
    Mirrors (controlOfDescriptor catalog.darkroom cells descriptor) setting
  known : ∀ settingId setting, settings.get? settingId = some setting →
    ∃ descriptor ∈ catalog.descriptors, descriptor.settingId = settingId

section Run

variable {W : Type} [DecidableEq W] {catalog : WidgetCatalog W} {cells : Cells W}
  {settings settings' : SettingMap}

/-- One accepted operation finds its control. -/
theorem Holds.acceptedFor (holds : Holds catalog cells settings) {dict : OperationDict}
    (updated : updateKeyed settings dict = .ok settings') :
    ∃ descriptor setting setting', AcceptedFor catalog cells descriptor setting dict setting' ∧
      SameCurrent (controlOfDescriptor catalog.darkroom cells descriptor) setting ∧
      settings' = settings.set dict.settingId setting' := by
  obtain ⟨setting, setting', applied, lookup, written, rfl⟩ := updateKeyed_ok.mp updated
  obtain ⟨descriptor, member, sameId⟩ := holds.known _ _ lookup
  obtain ⟨mirrored, lookup', mirrors⟩ := holds.mirrored descriptor member
  rw [sameId, lookup] at lookup'
  obtain rfl : setting = mirrored := Option.some.inj lookup'
  exact ⟨descriptor, setting, setting', ⟨member, sameId, mirrors.description, applied, written⟩,
    mirrors.current, rfl⟩

/-- One step of both programs. -/
theorem Holds.step (holds : Holds catalog cells settings) {dict : OperationDict}
    (updated : updateKeyed settings dict = .ok settings') :
    (∀ cells', validateOperation catalog.darkroom cells' (received dict) = .ok ()) ∧
      (executeOperation catalog.darkroom cells (received dict)).result.status = .applied ∧
      Holds catalog (executeOperation catalog.darkroom cells (received dict)).state settings' := by
  obtain ⟨descriptor, setting, setting', accepts, current, rfl⟩ := holds.acceptedFor updated
  obtain ⟨widget, own, applied, outside, after⟩ := accepts.executes current
  refine ⟨accepts.validates, applied, ⟨fun other member => ?_, fun settingId found lookup => ?_⟩⟩
  · by_cases same : other = descriptor
    · subst same
      obtain ⟨record, written⟩ := accepts.accepted
      have description := accepts.description.of_frame (applyToSetting_frame written)
      refine ⟨setting', by rw [accepts.settingId, Dict.get?_set_self], ⟨?_, after⟩⟩
      -- a description says nothing about the cells
      exact ⟨description.actionPath, description.kind, description.supportedModes, description.range,
        description.choices⟩
    · obtain ⟨otherSetting, lookup, mirrors⟩ := holds.mirrored other member
      have distinct : other.settingId ≠ dict.settingId := fun sameId =>
        same (WidgetCatalog.eq_of_settingId member accepts.member (sameId.trans accepts.settingId.symm))
      refine ⟨otherSetting, by rw [Dict.get?_set_ne distinct, lookup], ?_⟩
      rw [WidgetCatalog.controlOfDescriptor_other outside accepts.member own member same]
      exact mirrors
  · rw [Dict.get?_set] at lookup
    split_ifs at lookup with same
    · exact ⟨descriptor, accepts.member, accepts.settingId.trans same.symm⟩
    · exact holds.known settingId found lookup

/-- A whole batch: everything validates in advance, everything is applied, and the controls hold in the
end what the server keeps. -/
theorem Holds.run (holds : Holds catalog cells settings) {operations : List OperationDict}
    (accepted : operations.foldlM updateKeyed settings = .ok settings') :
    (∀ dict ∈ operations, ∀ cells', validateOperation catalog.darkroom cells' (received dict) = .ok ()) ∧
      let executed := executeAll catalog.darkroom cells (operations.map received)
      executed.ok = true ∧ executed.report.results.length = operations.length ∧
        (∀ result ∈ executed.report.results, result.status = .applied) ∧
        Holds catalog executed.state settings' := by
  induction operations generalizing cells settings with
  | nil =>
    cases accepted
    exact ⟨by simp, rfl, rfl, by simp [executeAll, ExecutionReport.ofResults], holds⟩
  | cons dict rest ih =>
    obtain ⟨middle, updated, others⟩ := foldlM_cons_ok.mp accepted
    obtain ⟨valid, applied, next⟩ := holds.step updated
    obtain ⟨validRest, ok, length, appliedRest, final⟩ := ih next others
    refine ⟨List.forall_mem_cons.mpr ⟨valid, validRest⟩, ?_⟩
    simp only [List.map_cons, executeAll, applied, if_true, ExecutionReport.ofResults, List.length_cons]
    exact ⟨ok, by rw [length], List.forall_mem_cons.mpr ⟨applied, appliedRest⟩, final⟩

end Run

end DarktableAgent.Refinement
