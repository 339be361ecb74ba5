import DarktableAgent.Foundation.Reading
import DarktableAgent.Refinement.Simulation

/-! From the snapshot that the client reports to the controls it ends with.

The settings of an accepted request mirror the controls they were collected from,
so the simulation applies to every batch that the server accepts for them.
-/

set_option autoImplicit false

namespace DarktableAgent.Refinement

open Foundation Protocol Server Client

section Reported

variable {W : Type} [DecidableEq W] {catalog : WidgetCatalog W} {cells : Cells W}

/-- The compact setting of a reported control mirrors it. -/
theorem mirrors_of_serialized {descriptor : ActionDescriptor ℚ W} {setting : EditableSetting}
    (shape : SettingShape setting)
    (reported : SerializedAs (controlOfDescriptor catalog.darkroom cells descriptor) setting) :
    Mirrors (controlOfDescriptor catalog.darkroom cells descriptor) (compactSetting setting) := by
  have kind : setting.kind = descriptor.operationKind := reported.kind
  have modes := reported.supportedModes
  have path := reported.actionPath
  cases isKind : descriptor.operationKind with
  | setFloat =>
    have float := kind.trans isKind
    obtain ⟨current, lower, upper, -, atLeast, atMost, ordered⟩ := shape.float float
    have minNumber : setting.minNumber = some descriptor.minNumber := by
      rw [reported.minNumber, AgentImageControl.floatMember, if_pos (reported.kind.symm.trans float)]
      rfl
    have maxNumber : setting.maxNumber = some descriptor.maxNumber := by
      rw [reported.maxNumber, AgentImageControl.floatMember, if_pos (reported.kind.symm.trans float)]
      rfl
    have bounds : descriptor.minNumber ≤ descriptor.maxNumber := by
      rw [minNumber, Option.some.injEq] at atLeast
      rw [maxNumber, Option.some.injEq] at atMost
      rwa [atLeast, atMost]
    refine ⟨⟨?_, ?_, ?_, ?_, ?_⟩, ⟨?_, ?_, ?_, ?_⟩⟩
    · simpa [compactSetting, float] using path
    · simpa [compactSetting, float] using reported.kind
    · simpa [compactSetting, float] using modes
    · intro _
      simpa [compactSetting, float, minNumber, maxNumber, controlOfDescriptor] using bounds
    · simp [controlOfDescriptor, isKind]
    · simpa [compactSetting, float] using reported.currentNumber
    · simp [compactSetting, float, controlOfDescriptor, isKind]
    · simp [compactSetting, float, controlOfDescriptor, isKind]
    · simp [compactSetting, float, controlOfDescriptor, isKind]
  | setChoice =>
    have choice := kind.trans isKind
    obtain ⟨choices, listed, present, values, -⟩ := shape.choice choice
    have pairs : choices.map (fun choice => (choice.choiceValue, choice.choiceId)) =
        descriptor.choices.map fun choice => (choice.choiceValue, choice.choiceId) := by
      have same := congrArg (List.map fun entry : Int × String × String => (entry.1, entry.2.1)) reported.choices
      simpa [listed, controlOfDescriptor, Function.comp_def] using same
    refine ⟨⟨?_, ?_, ?_, ?_, ?_⟩, ⟨?_, ?_, ?_, ?_⟩⟩
    · simpa [compactSetting, choice] using path
    · simpa [compactSetting, choice] using reported.kind
    · simpa [compactSetting, choice] using modes
    · simp [controlOfDescriptor, isKind]
    · intro _
      simpa [compactSetting, choice, listed, controlOfDescriptor] using ⟨present, values, pairs⟩
    · simp [compactSetting, choice, controlOfDescriptor, isKind]
    · simpa [compactSetting, choice] using reported.currentChoiceValue
    · simpa [compactSetting, choice] using reported.currentChoiceId
    · simp [compactSetting, choice, controlOfDescriptor, isKind]
  | setBool =>
    have bool := kind.trans isKind
    refine ⟨⟨?_, ?_, ?_, ?_, ?_⟩, ⟨?_, ?_, ?_, ?_⟩⟩
    · simpa [compactSetting, bool] using path
    · simpa [compactSetting, bool] using reported.kind
    · simpa [compactSetting, bool] using modes
    · simp [controlOfDescriptor, isKind]
    · simp [controlOfDescriptor, isKind]
    · simp [compactSetting, bool, controlOfDescriptor, isKind]
    · simp [compactSetting, bool, controlOfDescriptor, isKind]
    · simp [compactSetting, bool, controlOfDescriptor, isKind]
    · simpa [compactSetting, bool] using reported.currentBool

/-- The settings of the request mirror the controls that were collected for it. -/
theorem holds_of_reported {request : RequestEnvelope}
    (reported : List.Forall₂ SerializedAs (collectControls catalog.darkroom cells)
      request.imageSnapshot.editableSettings) : Holds catalog cells (settingById request) := by
  rw [WidgetCatalog.collectControls_darkroom, List.forall₂_map_left_iff] at reported
  -- controls and settings are listed in one order, so their ids are the same list
  have sameIds : request.imageSnapshot.editableSettings.map (·.settingId) =
      catalog.descriptors.map (·.settingId) := by
    rw [← List.forall₂_eq_eq_eq, List.forall₂_map_left_iff, List.forall₂_map_right_iff]
    exact (reported.imp fun _ _ same => same.settingId).flip
  constructor
  · intro descriptor member
    obtain ⟨setting, inRequest, serialized⟩ := exists_related reported descriptor member
    refine ⟨compactSetting setting, ?_, mirrors_of_serialized (request.setting_shape inRequest) serialized⟩
    refine Dict.get?_ofPairs_of_mem ?_ (List.mem_map.mpr ⟨setting, inRequest, ?_⟩)
    · rw [List.map_map]
      exact sameIds ▸ catalog.settingIds_nodup
    · rw [serialized.settingId]
      rfl
  · intro settingId setting lookup
    have inKeys : settingId ∈ (settingById request).keys :=
      Dict.get?_isSome_iff.mp (Option.isSome_iff_exists.mpr ⟨setting, lookup⟩)
    rw [settingById, Dict.mem_keys_ofPairs, List.map_map] at inKeys
    have inDescriptors : settingId ∈ catalog.descriptors.map (·.settingId) := sameIds ▸ inKeys
    exact List.mem_map.mp inDescriptors

/-- What the server sends is read back by the client exactly, as far as it fits the C types. -/
theorem parseOperations_json {operations : List OperationDict}
    (fits : ∀ dict ∈ operations, OperationFits dict.operation) :
    parseOperations 0 (operations.map (·.json)) = .ok (operations.map received) := by
  let entries := operations.map fun dict =>
    (dict.operation, if dict.bound then dict.value.boundMembers dict.kind else dict.value.members)
  have parsed := parseOperations_clientOperation 0 entries
    (by simpa [entries] using fits)
    (by
      intro entry member
      obtain ⟨dict, -, rfl⟩ := List.mem_map.mp member
      simp only
      split_ifs
      · exact valueReads_boundMembers dict.operation
      · exact valueReads_members dict.operation)
  simp only [entries, List.map_map] at parsed
  exact parsed

/-- The client refines the server's simulation: what the server accepts in its order, the client validates
and applies, and every control ends with the value that the server holds for its setting. -/
theorem executeResponse_refines_applyBatch (lower : String → String) (catalog : WidgetCatalog W) (cells : Cells W)
    (request : RequestEnvelope)
    (reported : List.Forall₂ SerializedAs (collectControls catalog.darkroom cells)
      request.imageSnapshot.editableSettings)
    (operations : List OperationDict) (settings : SettingMap)
    (accepted : applyBatch (settingById request) (orderOperationsForApply lower operations) = .ok settings) :
    let batch := operations.map received
    let executed := executeResponse catalog.darkroom cells batch
    (∀ operation ∈ batch, validateOperation catalog.darkroom cells operation = .ok ()) ∧
      executed.ok = true ∧
      executed.report.results.length = batch.length ∧
      (∀ result ∈ executed.report.results, result.status = .applied) ∧
      ∀ control ∈ collectControls catalog.darkroom executed.state,
        ∃ setting, settings.get? control.settingId = some setting ∧ SameCurrent control setting := by
  obtain ⟨settings', inOrder, same⟩ := accepted_in_clientOrder accepted
  obtain ⟨valid, ok, length, applied, final⟩ := (holds_of_reported reported).run inOrder
  rw [← orderedOperationsForExecution_received] at ok length applied final
  have members (operation : OperationDict) : operation ∈ clientOrder operations ↔ operation ∈ operations :=
    (clientOrder_perm operations).mem_iff
  -- validation reads no cell, so what each operation passes in turn the batch passes beforehand
  have nothingRejected :
      firstRejection catalog.darkroom cells (orderedOperationsForExecution (operations.map received)) = none := by
    rw [orderedOperationsForExecution_received, firstRejection_none, List.forall_mem_map]
    exact fun dict member => valid dict member cells
  have executes : executeResponse catalog.darkroom cells (operations.map received) =
      executeAll catalog.darkroom cells (orderedOperationsForExecution (operations.map received)) := by
    refine executeResponse_silent (WidgetCatalog.isCurrentView_darkroom catalog cells) fun rejection found => ?_
    rw [nothingRejected] at found
    cases found
  simp only [executes]
  refine ⟨?_, ok, ?_, applied, ?_⟩
  · rw [List.forall_mem_map]
    exact fun dict member => valid dict ((members dict).mpr member) cells
  · rw [length, (clientOrder_perm operations).length_eq, List.length_map]
  · rw [WidgetCatalog.collectControls_darkroom, List.forall_mem_map]
    intro descriptor member
    obtain ⟨setting, lookup, mirrors⟩ := final.mirrored descriptor member
    exact ⟨setting, by rw [← same]; exact lookup, mirrors.current⟩

end Reported

/-! One exposure slider, set and then pushed beyond its range. -/

def exposureDescriptor : ActionDescriptor ℚ Unit :=
  { sampleDescriptor "setting.exposure" "iop/exposure/exposure" .widget with
    moduleId := "exposure"
    moduleLabel := "exposure"
    capabilityId := "exposure.exposure"
    label := "exposure" }

def exposureCatalog : WidgetCatalog Unit where
  candidates := [exposureDescriptor]
  isToggle _ := false
  bound := by decide +kernel
  ownWidget := by decide +kernel
  ranged := by decide +kernel

def exposureCells : Cells Unit := ⟨fun _ => 0, fun _ => 0, fun _ => false⟩

def exposureEdit (operationId : String) (present : operationId ≠ "") (mode : OperationMode) (number : ℚ) :
    OperationDict where
  operation := {
    operationId := operationId
    sequence := 1
    kind := .setFloat
    target := exposureTarget
    value := { mode, number := some number }
    reason := none
    operationIdPresent := present
    sequencePositive := one_positive
    valid := validateKindAndValue_float mode number }
  bound := false

def exposureBatch : List OperationDict :=
  [exposureEdit "op-1" firstOperation_present .set 1, exposureEdit "op-2" secondOperation_present .delta 10]

theorem exposure_reported : List.Forall₂ SerializedAs (collectControls exposureCatalog.darkroom exposureCells)
    exposureRequest.imageSnapshot.editableSettings := by
  refine .cons ?_ .nil
  constructor <;> rfl

theorem executeResponse_refines_applyBatch_exposure :
    ∃ settings, applyBatch (settingById exposureRequest) (orderOperationsForApply id exposureBatch) = .ok settings ∧
      (settings.get? "setting.exposure").bind (·.currentNumber) = some 4 ∧
      let executed := executeResponse exposureCatalog.darkroom exposureCells (exposureBatch.map received)
      executed.ok = true ∧ executed.report.results.length = 2 ∧
        ∀ control ∈ collectControls exposureCatalog.darkroom executed.state,
          ∃ setting, settings.get? control.settingId = some setting ∧ SameCurrent control setting := by
  have clamped : ((applyBatch (settingById exposureRequest) (orderOperationsForApply id exposureBatch)).toOption.bind
      fun settings => (settings.get? "setting.exposure").bind (·.currentNumber)) = some 4 := by decide +kernel
  cases accepted : applyBatch (settingById exposureRequest) (orderOperationsForApply id exposureBatch) with
  | error text => simp [accepted, Except.toOption] at clamped
  | ok settings =>
    obtain ⟨-, ok, length, -, final⟩ := executeResponse_refines_applyBatch id exposureCatalog exposureCells
      exposureRequest exposure_reported exposureBatch settings accepted
    rw [accepted] at clamped
    exact ⟨settings, rfl, clamped, ok, length, final⟩

end DarktableAgent.Refinement
