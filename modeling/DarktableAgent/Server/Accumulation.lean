import Mathlib.Tactic.Linarith
import DarktableAgent.Server.ControlBindings
import DarktableAgent.Server.ToolRouting

/-! Relative adjustments over a turn.

The binder reads the settings as the request reported them; a slider that supports deltas
gets the amount itself, any other slider the reported value plus the amount. The live value
has moved on by then, so only the first form adds up.
-/

set_option autoImplicit false

namespace DarktableAgent.Server

open Foundation Protocol

section Clamp

variable {α : Type} [LinearOrder α] {lower upper first second : α}

/-- Clamping tells two values apart unless the range is a point or both lie on one side of it. -/
theorem clamp_eq_iff (ordered : lower ≤ upper) :
    min (max lower first) upper = min (max lower second) upper ↔
      first = second ∨ lower = upper ∨ (first ≤ lower ∧ second ≤ lower) ∨ (upper ≤ first ∧ upper ≤ second) := by
  constructor
  · intro same
    by_contra apart
    push Not at apart
    obtain ⟨distinct, wide, notBelow, notAbove⟩ := apart
    have proper : lower < upper := lt_of_le_of_ne ordered wide
    rcases le_or_gt first lower with low | above
    · have higher := notBelow low
      rw [max_eq_left low, max_eq_right higher.le, min_eq_left ordered] at same
      rcases min_choice second upper with isSecond | isUpper
      · exact absurd (same.trans isSecond) higher.ne
      · exact absurd (same.trans isUpper) proper.ne
    · rw [max_eq_right above.le] at same
      rcases le_or_gt second lower with low | higher
      · rw [max_eq_left low, min_eq_left ordered] at same
        rcases min_choice first upper with isFirst | isUpper
        · exact absurd (isFirst.symm.trans same) above.ne'
        · exact absurd (isUpper.symm.trans same) proper.ne'
      · rw [max_eq_right higher.le] at same
        rcases le_or_gt upper first with beyond | inside
        · have short := notAbove beyond
          rw [min_eq_right beyond, min_eq_left short.le] at same
          exact absurd same short.ne'
        · rw [min_eq_left inside.le] at same
          rcases min_choice second upper with isSecond | isUpper
          · exact absurd (same.trans isSecond) distinct
          · exact absurd (same.trans isUpper) inside.ne
  · rintro (rfl | rfl | ⟨low, lowToo⟩ | ⟨high, highToo⟩)
    · rfl
    · rw [min_eq_right (le_max_left lower first), min_eq_right (le_max_left lower second)]
    · rw [max_eq_left low, max_eq_left lowToo]
    · rw [min_eq_right (high.trans (le_max_right lower first)),
        min_eq_right (highToo.trans (le_max_right lower second))]

end Clamp

/-- The value the request reported, as the binder reads it. -/
def reportedNumber (setting : EditableSetting) : ℚ := (setting.currentNumber.or setting.defaultNumber).getD 0

/-- The live value of a slider. -/
def liveNumber (live : Setting) : ℚ := (live.currentNumber.or live.defaultNumber).getD 0

/-- The two targets are the same, or the range of the slider makes them so. -/
def SameClamped (live : Setting) (first second : ℚ) : Prop :=
  first = second ∨ ∃ lower upper, live.minNumber = some lower ∧ live.maxNumber = some upper ∧
    (lower = upper ∨ (first ≤ lower ∧ second ≤ lower) ∨ (upper ≤ first ∧ upper ≤ second))

theorem clampNumber_eq_iff {live : Setting} {lower upper : ℚ} (atLeast : live.minNumber = some lower)
    (atMost : live.maxNumber = some upper) (ordered : lower ≤ upper) (first second : ℚ) :
    clampNumber live first = clampNumber live second ↔ SameClamped live first second := by
  have clamped (value : ℚ) : clampNumber live value = min (max lower value) upper := by
    simp only [clampNumber, atLeast, atMost, Option.elim]
    rw [max_comm]
  rw [clamped, clamped, clamp_eq_iff ordered]
  unfold SameClamped
  constructor
  · rintro (same | bounded)
    · exact .inl same
    · exact .inr ⟨lower, upper, atLeast, atMost, bounded⟩
  · rintro (same | ⟨lower', upper', atLeast', atMost', bounded⟩)
    · exact .inl same
    · rw [atLeast] at atLeast'
      rw [atMost] at atMost'
      cases atLeast'
      cases atMost'
      exact .inr bounded

section Step

variable (library : ToolLibrary) (context : TurnContext)

/-- The settings of the request of the turn. -/
def reportedSettings : List EditableSetting := context.baseRequest.imageSnapshot.editableSettings

/-- The canonical actions among the arguments of a call. -/
def canonicalActionsOf (arguments : JsonObject) : Except String (List CanonicalEditAction) := do
  validateCanonicalActions library (← listArgument arguments "canonicalActions")

/-- The call goes through and applies this batch. -/
structure AppliesBatch (toolName : String) (arguments : JsonObject) (prepared : PreparedApplyBatch) : Prop where
  tool : toolName = toolApplyOperations
  admitted : (registerToolCallProgress library context toolName).2 = none
  live : context.liveRunEnabled = true
  prepares : prepareApplyBatch library (registerToolCallProgress library context toolName).1 arguments = .ok prepared
  accepted : ∃ settings, applyBatch context.settingById
    (orderOperationsForApply library.lower prepared.normalizedBatch) = .ok settings

/-- A served channel of the call asks for a relative amount at the setting it found. -/
structure AsksFor (arguments : JsonObject) (position : Nat) (setting : EditableSetting) (amount : ℚ) : Prop where
  channel : ∃ actions channel, canonicalActionsOf library arguments = .ok actions ∧
    (servedChannels library.lower (reportedSettings context) actions)[position]? = some channel ∧
    channel.2.value = .relative amount ∧
    findSetting library.lower (reportedSettings context) channel.2.control.query = some setting

/-- The operation of the channel and the settings it meets when its turn in the batch comes. -/
structure Meets (prepared : PreparedApplyBatch) (position : Nat) (operation : OperationDict)
    (settings : SettingMap) : Prop where
  placed : prepared.normalizedBatch[position]? = some operation
  reached : ∃ before after,
    orderOperationsForApply library.lower prepared.normalizedBatch = before ++ operation :: after ∧
      applyBatch context.settingById before = .ok settings

/-- Every relative adjustment of an applied batch moves the live value by its amount, within the range. -/
def Accumulates : TurnEvent → Prop
  | .renderCallback _ => True
  | .toolCall toolName arguments _ => ∀ prepared, AppliesBatch library context toolName arguments prepared →
    ∀ position setting amount, AsksFor library context arguments position setting amount →
      (∃ operation settings, Meets library context prepared position operation settings) ∧
      ∀ operation settings, Meets library context prepared position operation settings →
        ∃ live applied, settings.get? setting.settingId = some live ∧
          applyOperationToSettings settings operation = .ok (settings.set setting.settingId
            { live with currentNumber := some (clampNumber live (liveNumber live + amount)) }, applied)

/-- Every relative adjustment of an applied batch goes to a slider that supports deltas, or to one whose
reported value is the live one as far as its range shows. -/
def SnapshotSuffices : TurnEvent → Prop
  | .renderCallback _ => True
  | .toolCall toolName arguments _ => ∀ prepared, AppliesBatch library context toolName arguments prepared →
    ∀ position setting amount, AsksFor library context arguments position setting amount →
      ∀ operation settings, Meets library context prepared position operation settings →
        .delta ∈ setting.supportedModes ∨ ∀ live, settings.get? setting.settingId = some live →
          SameClamped live (reportedNumber setting + amount) (liveNumber live + amount)

variable {library context}

/-- An applied batch ends in the settings of its fold. -/
theorem AppliesBatch.settingById {toolName : String} {arguments : JsonObject} {prepared : PreparedApplyBatch}
    (applies : AppliesBatch library context toolName arguments prepared) (renders : Nat → Option Bytes) :
    applyBatch context.settingById (orderOperationsForApply library.lower prepared.normalizedBatch) =
        .ok (handleToolCall library context toolName arguments renders).context.settingById ∧
      (handleToolCall library context toolName arguments renders).context.appliedOperations =
        context.appliedOperations ++ orderOperationsForApply library.lower prepared.normalizedBatch := by
  obtain ⟨rfl, admitted, live, prepares, settings, accepted⟩ := applies
  let counted := registerToolCallProgress library context toolApplyOperations
  have same : SameEdits context counted.1 := registerToolCallProgress_sameEdits library context toolApplyOperations
  have simulated : applyBatch counted.1.settingById
      (orderOperationsForApply library.lower prepared.normalizedBatch) = .ok settings :=
    same.settingById ▸ accepted
  have done := runLiveBatch_done library renders
    (orderOperationsForApply library.lower prepared.normalizedBatch).length 1 simulated
  -- the guardrails let the call through and the dispatch reaches the batch
  have ran : (handleToolCall library context toolApplyOperations arguments renders).context =
      (runLiveBatch library renders (orderOperationsForApply library.lower prepared.normalizedBatch).length 1
        counted.1 (orderOperationsForApply library.lower prepared.normalizedBatch)).context := by
    have dispatched : (callTool library counted.1 counted.2 toolApplyOperations arguments renders).1.context =
        (applyOperationsToolCall library counted.1 arguments renders).context := by
      rw [admitted]
      rfl
    have applied : (applyOperationsToolCall library counted.1 arguments renders).context =
        (runLiveBatch library renders (orderOperationsForApply library.lower prepared.normalizedBatch).length 1
          counted.1 (orderOperationsForApply library.lower prepared.normalizedBatch)).context := by
      simp only [applyOperationsToolCall, same.liveRunEnabled, live, prepares, simulated, done.failure, counted]
      rfl
    rw [← applied, ← dispatched]
    simp [handleToolCall, awaitLateRender, counted]
  rw [ran, done.settingById, done.appliedOperations, same.appliedOperations]
  exact ⟨accepted, rfl⟩

/-- A call with canonical actions applies what the binder made of them. -/
theorem prepareApplyBatch_canonical {arguments : JsonObject} {prepared : PreparedApplyBatch}
    {actions : List CanonicalEditAction} (prepares : prepareApplyBatch library context arguments = .ok prepared)
    (asked : canonicalActionsOf library arguments = .ok actions) (some : actions ≠ []) :
    prepared.normalizedBatch =
      (bindCanonicalActions library.lower (reportedSettings context) actions).operations := by
  unfold prepareApplyBatch at prepares
  unfold canonicalActionsOf at asked
  cases rawOperations : listArgument arguments "operations" with
  | error text =>
    rw [rawOperations] at prepares
    cases prepares
  | ok operations =>
    cases rawActions : listArgument arguments "canonicalActions" with
    | error text =>
      rw [rawActions] at asked
      cases asked
    | ok raw =>
      simp only [rawActions, bind, Except.bind] at asked
      simp only [rawOperations, rawActions, bind, Except.bind] at prepares
      have given : raw ≠ [] := by
        rintro rfl
        cases asked
        exact some rfl
      split_ifs at prepares with none both
      simp only [prepareCanonicalBatch, asked, bind, Except.bind] at prepares
      split_ifs at prepares
      · cases prepares
        rfl
      · cases prepares
        rfl

/-- What stands at a position of the served channels has its edit at this position of the batch. -/
theorem forall₂_getElem? {α β : Type} {relation : α → β → Prop} {left : List α} {right : List β}
    (related : List.Forall₂ relation left right) {position : Nat} {item : α} (here : left[position]? = some item) :
    ∃ other, right[position]? = some other ∧ relation item other := by
  induction related generalizing position with
  | nil => simp at here
  | cons first rest ih =>
    cases position with
    | zero =>
      cases here
      exact ⟨_, rfl, first⟩
    | succ position => exact ih here

/-- The value `_float_operation` writes for a relative amount. -/
def relativeValue (setting : EditableSetting) (amount : ℚ) : OperationValue :=
  if .delta ∈ setting.supportedModes then { mode := .delta, number := some amount }
  else { mode := .set, number := some (reportedNumber setting + amount) }

theorem editOf_floatOperation (setting : EditableSetting) (amount : ℚ) (rationale : Option String) :
    editOf (floatOperation setting amount false rationale) =
      ⟨.setFloat, settingTarget setting, relativeValue setting amount, rationale, true⟩ := by
  unfold floatOperation relativeValue
  by_cases delta : OperationMode.delta ∈ setting.supportedModes
  · simp [delta, boundOperation, editOf, OperationDict.kind, OperationDict.value]
  · simp [delta, boundOperation, editOf, OperationDict.kind, OperationDict.value, reportedNumber]

/-- The operation of a relative channel. -/
theorem AsksFor.edit {toolName : String} {arguments : JsonObject} {prepared : PreparedApplyBatch} {position : Nat}
    {setting : EditableSetting} {amount : ℚ} (asks : AsksFor library context arguments position setting amount)
    (applies : AppliesBatch library context toolName arguments prepared) :
    ∃ operation rationale, prepared.normalizedBatch[position]? = some operation ∧
      editOf operation = ⟨.setFloat, settingTarget setting, relativeValue setting amount, rationale, true⟩ := by
  obtain ⟨actions, channel, asked, served, relative, found⟩ := asks.channel
  have nonempty : actions ≠ [] := by
    rintro rfl
    simp [servedChannels, channelsOf] at served
  have sameRequest := (registerToolCallProgress_sameEdits library context toolName).baseRequest
  have batch := prepareApplyBatch_canonical applies.prepares asked nonempty
  rw [reportedSettings, sameRequest] at batch
  have emitted := bindCanonicalActions_served library.lower (reportedSettings context) actions
  obtain ⟨operation, placed, bound, ok, edit⟩ := forall₂_getElem? emitted served
  refine ⟨operation, channel.1.rationale, by rw [batch]; exact placed, ?_⟩
  simp only [bindChannel, ControlBinding.bind, found, relative, ControlValue.operation] at ok
  cases ok
  rw [edit, editOf_floatOperation]

/-- The batch reaches every operation it holds. -/
theorem AppliesBatch.meets {toolName : String} {arguments : JsonObject} {prepared : PreparedApplyBatch}
    (applies : AppliesBatch library context toolName arguments prepared) {position : Nat} {operation : OperationDict}
    (placed : prepared.normalizedBatch[position]? = some operation) :
    ∃ settings, Meets library context prepared position operation settings := by
  have member : operation ∈ orderOperationsForApply library.lower prepared.normalizedBatch :=
    (orderOperationsForApply_perm library.lower _).mem_iff.mpr (List.mem_of_getElem? placed)
  obtain ⟨before, after, ordered⟩ := List.append_of_mem member
  obtain ⟨last, accepted⟩ := applies.accepted
  rw [ordered] at accepted
  obtain ⟨settings, reached, -⟩ := applyBatch_append_ok accepted
  exact ⟨settings, placed, before, after, ordered, reached⟩

/-- The number a relative adjustment starts from. -/
def startNumber (setting : EditableSetting) (live : Setting) : ℚ :=
  if .delta ∈ setting.supportedModes then liveNumber live else reportedNumber setting

/-- What the step of a relative adjustment does to the live setting. -/
structure AdjustedTo (setting : EditableSetting) (amount : ℚ) (settings : SettingMap) (operation : OperationDict)
    (live : Setting) : Prop where
  found : settings.get? setting.settingId = some live
  bounds : ∃ lower upper, live.minNumber = some lower ∧ live.maxNumber = some upper ∧ lower ≤ upper
  step : ∃ applied, applyOperationToSettings settings operation = .ok (settings.set setting.settingId
    { live with currentNumber := some (clampNumber live (startNumber setting live + amount)) }, applied)

theorem Meets.adjusted {toolName : String} {arguments : JsonObject} {prepared : PreparedApplyBatch} {position : Nat}
    {setting : EditableSetting} {amount : ℚ} {operation : OperationDict} {settings : SettingMap}
    (described : SettingMapDescribed context.settingById)
    (applies : AppliesBatch library context toolName arguments prepared)
    (asks : AsksFor library context arguments position setting amount)
    (meets : Meets library context prepared position operation settings) :
    ∃ live, AdjustedTo setting amount settings operation live := by
  obtain ⟨other, rationale, placed, edit⟩ := asks.edit applies
  obtain rfl : operation = other := Option.some.inj (meets.placed.symm.trans placed)
  have kind : operation.kind = .setFloat := congrArg Edit.kind edit
  have target : operation.settingId = setting.settingId :=
    congrArg (fun edit : Edit => edit.target.settingId) edit
  have value : operation.value = relativeValue setting amount := congrArg Edit.value edit
  obtain ⟨before, after, ordered, reached⟩ := meets.reached
  obtain ⟨last, accepted⟩ := applies.accepted
  rw [ordered, applyBatch_append reached] at accepted
  obtain ⟨next, applied, step, -⟩ := applyBatch_cons accepted
  obtain ⟨live, written, found, writes, rfl⟩ := applyOperationToSettings_cases step
  rw [target] at found step
  obtain ⟨-, liveKind, -, ⟨-, float⟩ | ⟨choice, -⟩ | ⟨bool, -⟩⟩ := applyToSetting_cases writes
  · obtain ⟨requested, number, rfl⟩ := applyFloat_cases float
    refine ⟨live, found, (applyBatch_described described reached _ _ found).bounds (liveKind.trans kind), applied, ?_⟩
    have start : resolvedNumber live operation.value.mode requested = startNumber setting live + amount := by
      rw [value] at number ⊢
      unfold relativeValue at number ⊢
      unfold startNumber
      by_cases delta : OperationMode.delta ∈ setting.supportedModes
      · rw [if_pos delta] at number ⊢
        cases number
        rw [if_pos delta]
        rfl
      · rw [if_neg delta] at number ⊢
        cases number
        rw [if_neg delta]
        rfl
    rw [step, start]
  · rw [kind] at choice
    cases choice
  · rw [kind] at bool
    cases bool

/-- A step accumulates exactly when the snapshot suffices for it. -/
theorem accumulates_iff (described : SettingMapDescribed context.settingById) (event : TurnEvent) :
    Accumulates library context event ↔ SnapshotSuffices library context event := by
  cases event with
  | renderCallback bytes => exact Iff.rfl
  | toolCall toolName arguments renders =>
    constructor
    · intro accumulates prepared applies position setting amount asks operation settings meets
      by_cases delta : OperationMode.delta ∈ setting.supportedModes
      · exact .inl delta
      · refine .inr fun live found => ?_
        obtain ⟨live', adjusted⟩ := meets.adjusted described applies asks
        obtain rfl : live' = live := Option.some.inj (adjusted.found.symm.trans found)
        obtain ⟨lower, upper, atLeast, atMost, ordered⟩ := adjusted.bounds
        obtain ⟨applied, step⟩ := adjusted.step
        obtain ⟨live'', applied', found', leaves⟩ :=
          (accumulates prepared applies position setting amount asks).2 operation settings meets
        obtain rfl : live'' = live' := Option.some.inj (found'.symm.trans found)
        rw [step] at leaves
        simp only [Except.ok.injEq, Prod.mk.injEq] at leaves
        have same := congrArg (fun settings : SettingMap =>
          (settings.get? setting.settingId).bind (·.currentNumber)) leaves.1
        simp only [Dict.get?_set_self, Option.bind_some, Option.some.injEq] at same
        rw [startNumber, if_neg delta] at same
        exact (clampNumber_eq_iff atLeast atMost ordered _ _).mp same
    · intro enough prepared applies position setting amount asks
      constructor
      · obtain ⟨operation, -, placed, -⟩ := asks.edit applies
        obtain ⟨settings, meets⟩ := applies.meets placed
        exact ⟨operation, settings, meets⟩
      · intro operation settings meets
        obtain ⟨live, adjusted⟩ := meets.adjusted described applies asks
        obtain ⟨lower, upper, atLeast, atMost, ordered⟩ := adjusted.bounds
        obtain ⟨applied, step⟩ := adjusted.step
        refine ⟨live, applied, adjusted.found, ?_⟩
        rw [step]
        -- the start is the live value, or makes no difference within the range
        by_cases delta : OperationMode.delta ∈ setting.supportedModes
        · rw [startNumber, if_pos delta]
        · have sameClamped := (enough prepared applies position setting amount asks operation settings meets).resolve_left
            delta live adjusted.found
          rw [startNumber, if_neg delta, (clampNumber_eq_iff atLeast atMost ordered _ _).mpr sameClamped]

/-- The snapshot the binder reads is never refreshed. -/
theorem turnStep_baseRequest (library : ToolLibrary) (context : TurnContext) (event : TurnEvent) :
    (turnStep library context event).baseRequest = context.baseRequest := by
  cases event with
  | renderCallback bytes => rfl
  | toolCall toolName arguments renders =>
    rcases handleToolCall_cases library context toolName arguments renders with
      same | ⟨before, operations, settings, batch, sameBefore, -, simulated, rfl, sameAfter⟩
    · exact same.baseRequest
    · have done := runLiveBatch_done library renders operations.length 1 simulated
      exact sameAfter.baseRequest.trans (done.baseRequest.trans sameBefore.baseRequest)

/-- In every run of a turn the relative adjustments accumulate as long as, and only as long as, the snapshot
of the request suffices for each of them. -/
theorem relativeAdjustments_accumulate_iff (library : ToolLibrary) {start : TurnContext}
    (registered : Registered start) (events : List TurnEvent) :
    EveryStep (turnStep library) (Accumulates library) start events ↔
      EveryStep (turnStep library) (SnapshotSuffices library) start events := by
  have described := registerTurnContext_described registered
  have kept (condition : TurnContext → TurnEvent → Prop) (context : TurnContext) (event : TurnEvent)
      (before : SettingMapDescribed context.settingById) (_ : condition context event) :
      SettingMapDescribed (turnStep library context event).settingById :=
    turnStep_described before event
  constructor
  · intro accumulates
    exact everyStep_of_invariant (kept (Accumulates library))
      (fun _ event before accumulated => (accumulates_iff before event).mp accumulated) described accumulates
  · intro enough
    exact everyStep_of_invariant (kept (SnapshotSuffices library))
      (fun _ event before sufficed => (accumulates_iff before event).mpr sufficed) described enough

end Step

/-! The exposure slider of the sample request supports deltas; one that can only be set loses a half. -/

def raiseHalf : Json := .obj [("action", .str "adjust-exposure"), ("exposureEv", .real (1 / 2))]

def raiseTwice : TurnEvent :=
  .toolCall toolApplyOperations [("canonicalActions", .arr [raiseHalf, raiseHalf])] fun _ => none

theorem snapshotSuffices_exposure {context : TurnContext} (request : context.baseRequest = exposureRequest)
    (event : TurnEvent) : SnapshotSuffices plainToolLibrary context event := by
  cases event with
  | renderCallback bytes => trivial
  | toolCall toolName arguments renders =>
    intro prepared _ position setting amount asks operation settings _
    obtain ⟨actions, channel, -, -, -, found⟩ := asks.channel
    have member := (findSetting_best _ found).member
    rw [reportedSettings, request] at member
    obtain rfl := List.mem_singleton.mp member
    exact .inl (by decide)

theorem relativeAdjustments_accumulate_exposure :
    EveryStep (turnStep plainToolLibrary) (Accumulates plainToolLibrary) exposureContext [raiseTwice, raiseTwice] := by
  refine (relativeAdjustments_accumulate_iff plainToolLibrary ⟨exposureRequest, _, _, _, rfl⟩ _).mpr ?_
  refine ⟨snapshotSuffices_exposure rfl _, snapshotSuffices_exposure ?_ _, trivial⟩
  exact turnStep_baseRequest plainToolLibrary exposureContext raiseTwice

def setOnlyCapability : Capability :=
  { exposureCapability with
    supportedModes := [.set]
    present := by decide
    supportedModesPresent := by decide
    valid := by decide +kernel }

def setOnlySetting : EditableSetting :=
  { exposureSetting with
    supportedModes := [.set]
    present := by decide
    supportedModesPresent := by decide }

def setOnlyRequest : RequestEnvelope :=
  { exposureRequest with
    capabilities := [setOnlyCapability]
    imageSnapshot := { exposureRequest.imageSnapshot with editableSettings := [setOnlySetting] }
    capabilitiesPresent := by simp
    capabilityIdsUnique := by decide
    consistent := by decide +kernel }

def setOnlyContext : TurnContext := registerTurnContext setOnlyRequest "data:image/jpeg;base64," "image/jpeg" []

def raiseHalfAction : CanonicalEditAction where
  action := .adjustExposure
  exposureEv := some (1 / 2)
  valid := by decide +kernel

theorem findSetting_setOnly : findSetting id [setOnlySetting] Control.exposure.query = some setOnlySetting := by
  refine findSetting_of_best id ⟨⟨List.mem_cons_self, rfl, .inl (by decide)⟩, fun other isOther => ?_⟩ ?_
  · obtain rfl := List.mem_singleton.mp isOther.member
    decide
  · exact fun other isBest => List.mem_singleton.mp isBest.member

/-- Both operations set the slider to the reported 0 plus the half. -/
def raisedOperations : List OperationDict :=
  normalizeOperationsWithUniqueIds
    [floatOperation setOnlySetting (1 / 2) false none, floatOperation setOnlySetting (1 / 2) false none]

theorem bindCanonicalActions_setOnly :
    bindCanonicalActions id [setOnlySetting] [raiseHalfAction, raiseHalfAction] = ⟨raisedOperations, []⟩ := by
  have search : findFloat id [setOnlySetting] ["iop/exposure/exposure"] [] [] ["exposure"] = some setOnlySetting :=
    findSetting_setOnly
  have bound : bindAction id [setOnlySetting] raiseHalfAction =
      ⟨[floatOperation setOnlySetting (1 / 2) false none], []⟩ := by
    show bindExposure id [setOnlySetting] raiseHalfAction.toCanonicalActionMembers = _
    rw [bindExposure, search]
    rfl
  rw [bindCanonicalActions, List.map_cons, List.map_cons, List.map_nil, bound]
  rfl

theorem raiseTwice_actions :
    validateCanonicalActions plainToolLibrary [raiseHalf, raiseHalf] = .ok [raiseHalfAction, raiseHalfAction] := by
  decide +kernel

theorem raiseTwice_prepared (context : TurnContext) (request : context.baseRequest = setOnlyRequest) :
    prepareApplyBatch plainToolLibrary context [("canonicalActions", .arr [raiseHalf, raiseHalf])] =
      .ok ⟨raisedOperations, []⟩ := by
  have prepared : prepareCanonicalBatch plainToolLibrary context [raiseHalf, raiseHalf] =
      .ok ⟨raisedOperations, []⟩ := by
    rw [prepareCanonicalBatch, raiseTwice_actions, request]
    simp only [bind, Except.bind]
    rw [show bindCanonicalActions plainToolLibrary.lower setOnlyRequest.imageSnapshot.editableSettings
      [raiseHalfAction, raiseHalfAction] = _ from bindCanonicalActions_setOnly]
    rfl
  exact prepared

/-- The slider after the first of the two operations. -/
def raisedOnce : Setting := { compactSetting setOnlySetting with currentNumber := some (1 / 2) }

def raisingChannel : CanonicalEditAction × ControlBinding :=
  (raiseHalfAction, ⟨.exposure, .relative (1 / 2), "adjust-exposure could not find an exposure control"⟩)

theorem servedChannels_setOnly :
    servedChannels id [setOnlySetting] [raiseHalfAction, raiseHalfAction] = [raisingChannel, raisingChannel] := by
  have ok : bindChannel id [setOnlySetting] raisingChannel =
      .ok (floatOperation setOnlySetting (1 / 2) false none) := by
    rw [bindChannel, ControlBinding.bind, show findSetting id [setOnlySetting] raisingChannel.2.control.query =
      some setOnlySetting from findSetting_setOnly]
    rfl
  have channels : channelsOf [raiseHalfAction, raiseHalfAction] = [raisingChannel, raisingChannel] := rfl
  rw [servedChannels, channels, List.filter_eq_self]
  intro channel member
  obtain rfl : channel = raisingChannel := by simpa using member
  rw [ok]
  rfl

theorem raiseTwice_applies (arguments : JsonObject)
    (given : arguments = [("canonicalActions", .arr [raiseHalf, raiseHalf])]) :
    AppliesBatch plainToolLibrary setOnlyContext toolApplyOperations arguments ⟨raisedOperations, []⟩ := by
  subst given
  refine ⟨rfl, by decide, rfl, raiseTwice_prepared _ rfl, ?_⟩
  have accepted : (applyBatch setOnlyContext.settingById
      (orderOperationsForApply plainToolLibrary.lower raisedOperations)).toOption.isSome = true := by
    decide +kernel
  cases result : applyBatch setOnlyContext.settingById
      (orderOperationsForApply plainToolLibrary.lower raisedOperations) with
  | ok settings => exact ⟨settings, rfl⟩
  | error text =>
    rw [result] at accepted
    cases accepted

/-- The second half is lost: the slider is left at one half, not at one. -/
theorem raiseTwice_lost :
    ¬ EveryStep (turnStep plainToolLibrary) (Accumulates plainToolLibrary) setOnlyContext [raiseTwice] := by
  rintro ⟨accumulates, -⟩
  have described : SettingMapDescribed setOnlyContext.settingById :=
    registerTurnContext_described ⟨setOnlyRequest, _, _, _, rfl⟩
  have enough := (accumulates_iff described raiseTwice).mp accumulates
  have half : (applyBatch setOnlyContext.settingById (raisedOperations.take 1)).toOption.bind
      (·.get? "setting.exposure") = some raisedOnce := by
    decide +kernel
  cases reached : applyBatch setOnlyContext.settingById (raisedOperations.take 1) with
  | error text =>
    rw [reached] at half
    cases half
  | ok middle =>
    rw [reached] at half
    have asks : AsksFor plainToolLibrary setOnlyContext [("canonicalActions", .arr [raiseHalf, raiseHalf])] 1
        setOnlySetting (1 / 2) := by
      refine ⟨[raiseHalfAction, raiseHalfAction], raisingChannel, raiseTwice_actions, ?_, rfl, findSetting_setOnly⟩
      exact congrArg (·[1]?) servedChannels_setOnly
    obtain ⟨second, placed⟩ : ∃ second, raisedOperations[1]? = some second := ⟨_, rfl⟩
    have split : raisedOperations = raisedOperations.take 1 ++ second :: [] := by
      cases placed
      rfl
    have meets : Meets plainToolLibrary setOnlyContext ⟨raisedOperations, []⟩ 1 second middle := by
      refine ⟨placed, raisedOperations.take 1, [], ?_, reached⟩
      rw [← split]
      decide +kernel
    rcases enough _ (raiseTwice_applies _ rfl) 1 setOnlySetting (1 / 2) asks second middle meets with delta | sameClamped
    · exact absurd delta (by decide)
    · rcases sameClamped raisedOnce half with same | ⟨lower, upper, atLeast, atMost, bounded⟩
      · exact absurd same (by decide +kernel)
      · cases atLeast
        cases atMost
        exact absurd bounded (by decide +kernel)

end DarktableAgent.Server
