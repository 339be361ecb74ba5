import Mathlib.Data.List.FinRange
import DarktableAgent.Server.ToolRouting

/-! The settings of a turn as objects that two views share.

The state payload lists the settings for `get_image_state`; `setting_by_id` holds the
same objects under their setting ids, and an operation changes the object it finds
there. The settings of the turn context are the values behind the ids.
-/

set_option autoImplicit false

namespace DarktableAgent.Server

open Foundation Protocol

/-- The objects of the listed settings, and which of them stands under an id. -/
structure StatePayload (count : Nat) where
  editableSettings : Fin count → Setting
  settingById : Dict String (Fin count)

def settingCount (request : RequestEnvelope) : Nat := request.imageSnapshot.editableSettings.length

/-- The id of the setting that a request lists at a place. -/
def listedId (request : RequestEnvelope) (object : Fin (settingCount request)) : String :=
  (request.imageSnapshot.editableSettings.get object).settingId

/-- `_register_turn_context`: a setting is entered under its id, over an earlier one with the same id. -/
def registerStatePayload (request : RequestEnvelope) : StatePayload (settingCount request) where
  editableSettings := fun object => compactSetting (request.imageSnapshot.editableSettings.get object)
  settingById := Dict.ofPairs ((List.finRange (settingCount request)).map fun object =>
    (listedId request object, object))

namespace StatePayload

variable {count : Nat} (payload : StatePayload count)

/-- The object that an operation has changed in place. -/
def assign (object : Fin count) (setting : Setting) : StatePayload count :=
  { payload with editableSettings := Function.update payload.editableSettings object setting }

/-- `_apply_operation_to_settings`, which assigns to the members of the object it finds. -/
def apply (operation : OperationDict) : Except String (StatePayload count × AppliedOperation) :=
  match payload.settingById.get? operation.settingId with
  | none => .error ("unknown settingId '" ++ operation.settingId ++ "'")
  | some object =>
    (applyToSetting (payload.editableSettings object) operation).map fun (setting, applied) =>
      (payload.assign object setting, applied)

/-- A refused operation changes nothing. -/
def step (operation : OperationDict) : StatePayload count :=
  match payload.apply operation with
  | .ok (changed, _) => changed
  | .error _ => payload

/-- The settings behind the ids are those of a turn context. -/
def Shows (settings : SettingMap) : Prop :=
  ∀ settingId, settings.get? settingId = (payload.settingById.get? settingId).map payload.editableSettings

end StatePayload

/-- The payload after operations of the turn. -/
def statePayloadAfter (request : RequestEnvelope) (operations : List OperationDict) :
    StatePayload (settingCount request) :=
  run StatePayload.step (registerStatePayload request) operations

/-- `setting_by_id` has exactly one entry for each editable setting. -/
def OneEntryPerSetting (request : RequestEnvelope) : Prop :=
  ∀ object, ∃! settingId, (registerStatePayload request).settingById.get? settingId = some object

/-- Whatever was applied before, an accepted operation does what it says to the setting that is shown
under its id, and to no other one. -/
def ChangesShownSetting (request : RequestEnvelope) : Prop :=
  ∀ operations operation changed applied,
    (statePayloadAfter request operations).apply operation = .ok (changed, applied) →
    ∀ object, if ((statePayloadAfter request operations).editableSettings object).settingId = operation.settingId
      then applyToSetting ((statePayloadAfter request operations).editableSettings object) operation =
        .ok (changed.editableSettings object, applied)
      else changed.editableSettings object = (statePayloadAfter request operations).editableSettings object

structure Addressable (request : RequestEnvelope) : Prop where
  oneEntry : OneEntryPerSetting request
  changesShown : ChangesShownSetting request

section Objects

variable {request : RequestEnvelope} {count : Nat} {payload changed : StatePayload count}
  {operation : OperationDict} {applied : AppliedOperation}

theorem listedId_injective : Function.Injective (listedId request) ↔
    (request.imageSnapshot.editableSettings.map (·.settingId)).Nodup := by
  have listed : request.imageSnapshot.editableSettings.map (·.settingId) = List.ofFn (listedId request) := by
    exact (List.ofFn_getElem_eq_map _ _).symm
  rw [listed, List.nodup_ofFn]

/-- An entry of `setting_by_id` leads to a setting with its id. -/
theorem listedId_of_entry {settingId : String} {object : Fin (settingCount request)}
    (entry : (registerStatePayload request).settingById.get? settingId = some object) :
    listedId request object = settingId := by
  refine Dict.ofPairs_forall (fun settingId object => listedId request object = settingId) ?_ entry
  intro pair member
  obtain ⟨object, -, rfl⟩ := List.mem_map.mp member
  rfl

@[simp] theorem StatePayload.assign_self (object : Fin count) (setting : Setting) :
    (payload.assign object setting).editableSettings object = setting := by
  simp [assign]

theorem StatePayload.assign_of_ne {object other : Fin count} (distinct : other ≠ object) (setting : Setting) :
    (payload.assign object setting).editableSettings other = payload.editableSettings other := by
  simp [assign, distinct]

/-- An accepted operation assigns to the object under its id. -/
theorem StatePayload.apply_cases (accepted : payload.apply operation = .ok (changed, applied)) :
    ∃ object setting, payload.settingById.get? operation.settingId = some object ∧
      applyToSetting (payload.editableSettings object) operation = .ok (setting, applied) ∧
      changed = payload.assign object setting := by
  unfold apply at accepted
  cases found : payload.settingById.get? operation.settingId with
  | none => simp [found] at accepted
  | some object =>
    simp only [found] at accepted
    cases result : applyToSetting (payload.editableSettings object) operation with
    | error text => simp [result, Except.map] at accepted
    | ok written =>
      simp only [result, Except.map, Except.ok.injEq, Prod.mk.injEq] at accepted
      obtain ⟨rfl, rfl⟩ := accepted
      exact ⟨object, written.1, rfl, result, rfl⟩

/-- The entries stay as they were registered, and no setting changes its id. -/
structure KeepsIds (request : RequestEnvelope) (payload : StatePayload (settingCount request)) : Prop where
  settingById : payload.settingById = (registerStatePayload request).settingById
  settingId : ∀ object, (payload.editableSettings object).settingId = listedId request object

theorem registerStatePayload_keepsIds (request : RequestEnvelope) : KeepsIds request (registerStatePayload request) := by
  refine ⟨rfl, fun object => ?_⟩
  simp only [registerStatePayload, compactSetting, listedId]
  cases (request.imageSnapshot.editableSettings.get object).kind <;> rfl

theorem applyToSetting_settingId {setting setting' : Setting}
    (accepted : applyToSetting setting operation = .ok (setting', applied)) :
    setting'.settingId = setting.settingId := by
  have sameFrame := congrArg Setting.settingId (applyToSetting_frame accepted)
  exact sameFrame

theorem KeepsIds.apply {payload changed : StatePayload (settingCount request)} (keeps : KeepsIds request payload)
    (accepted : payload.apply operation = .ok (changed, applied)) : KeepsIds request changed := by
  obtain ⟨object, setting, -, written, rfl⟩ := StatePayload.apply_cases accepted
  refine ⟨keeps.settingById, fun other => ?_⟩
  by_cases here : other = object
  · subst here
    rw [StatePayload.assign_self, applyToSetting_settingId written]
    exact keeps.settingId other
  · rw [StatePayload.assign_of_ne here]
    exact keeps.settingId other

theorem KeepsIds.step {payload : StatePayload (settingCount request)} (keeps : KeepsIds request payload)
    (operation : OperationDict) : KeepsIds request (payload.step operation) := by
  unfold StatePayload.step
  cases result : payload.apply operation with
  | error text => exact keeps
  | ok written => exact keeps.apply result

theorem statePayloadAfter_keepsIds (request : RequestEnvelope) (operations : List OperationDict) :
    KeepsIds request (statePayloadAfter request operations) := by
  have always : EveryStep StatePayload.step (fun _ _ => True) (registerStatePayload request) operations :=
    everyStep_of_forall (fun _ _ => trivial) _ _
  have kept (payload : StatePayload (settingCount request)) (operation : OperationDict)
      (keeps : KeepsIds request payload) (_ : True) : KeepsIds request (payload.step operation) :=
    keeps.step operation
  exact run_invariant kept (registerStatePayload_keepsIds request) always

end Objects

section Distinct

variable {request : RequestEnvelope}

/-- Two settings under one id have at most one entry between them. -/
theorem listedId_injective_of_oneEntry (oneEntry : OneEntryPerSetting request) :
    Function.Injective (listedId request) := by
  intro left right same
  obtain ⟨leftId, leftEntry, -⟩ := oneEntry left
  obtain ⟨rightId, rightEntry, -⟩ := oneEntry right
  rw [← listedId_of_entry leftEntry, same, listedId_of_entry rightEntry] at leftEntry
  exact Option.some.inj (leftEntry.symm.trans rightEntry)

theorem oneEntry_of_distinct (distinct : Function.Injective (listedId request)) : OneEntryPerSetting request := by
  intro object
  refine ⟨listedId request object, ?_, fun settingId entry => (listedId_of_entry entry).symm⟩
  refine Dict.get?_ofPairs_of_mem ?_ (List.mem_map.mpr ⟨object, List.mem_finRange object, rfl⟩)
  rw [List.map_map]
  exact (List.nodup_finRange _).map distinct

theorem changesShown_of_distinct (distinct : Function.Injective (listedId request)) :
    ChangesShownSetting request := by
  intro operations operation changed applied accepted object
  have keeps := statePayloadAfter_keepsIds request operations
  obtain ⟨addressed, setting, entry, written, rfl⟩ := StatePayload.apply_cases accepted
  rw [keeps.settingById] at entry
  rw [keeps.settingId, ← listedId_of_entry entry]
  split_ifs with same
  · obtain rfl := distinct same
    rw [StatePayload.assign_self]
    exact written
  · have other : object ≠ addressed := fun here => same (here ▸ rfl)
    exact StatePayload.assign_of_ne other setting

end Distinct

section Turns

variable {count : Nat} {payload : StatePayload count} {settings settings' : SettingMap}
  {operation : OperationDict} {applied : AppliedOperation} {library : ToolLibrary} {context : TurnContext}

theorem registerStatePayload_shows (request : RequestEnvelope) :
    (registerStatePayload request).Shows (settingById request) := by
  intro settingId
  have pairs : request.imageSnapshot.editableSettings.map (fun setting => (setting.settingId, compactSetting setting)) =
      ((List.finRange (settingCount request)).map fun object => (listedId request object, object)).map fun pair =>
        (pair.1, (registerStatePayload request).editableSettings pair.2) := by
    conv_lhs => rw [← List.ofFn_getElem_eq_map]
    rw [List.map_map, ← List.ofFn_eq_map]
    rfl
  rw [Server.settingById, pairs]
  exact Dict.get?_ofPairs_map _ _ _

/-- The ids of distinct objects are distinct, so an assignment to one of them is seen under its id only. -/
theorem StatePayload.Shows.afterOperation (shows : payload.Shows settings)
    (named : ∀ settingId object, payload.settingById.get? settingId = some object →
      (payload.editableSettings object).settingId = settingId)
    (accepted : applyOperationToSettings settings operation = .ok (settings', applied)) :
    ∃ changed, payload.apply operation = .ok (changed, applied) ∧ changed.Shows settings' := by
  obtain ⟨setting, setting', found, written, rfl⟩ := applyOperationToSettings_cases accepted
  rw [shows, Option.map_eq_some_iff] at found
  obtain ⟨object, entry, rfl⟩ := found
  refine ⟨payload.assign object setting', ?_, fun settingId => ?_⟩
  · rw [apply, entry]
    simp only [written, Except.map]
  · rw [Dict.get?_set]
    have sameEntries : (payload.assign object setting').settingById = payload.settingById := rfl
    rw [sameEntries]
    split_ifs with here
    · rw [here, entry, Option.map_some, assign_self]
    · rw [shows settingId]
      cases other : payload.settingById.get? settingId with
      | none => rfl
      | some addressed =>
        have apart : addressed ≠ object := by
          rintro rfl
          exact here ((named _ _ other).symm.trans (named _ _ entry))
        rw [Option.map_some, Option.map_some, assign_of_ne apart]

theorem KeepsIds.named {request : RequestEnvelope} {payload : StatePayload (settingCount request)}
    (keeps : KeepsIds request payload) (settingId : String) (object : Fin (settingCount request))
    (entry : payload.settingById.get? settingId = some object) :
    (payload.editableSettings object).settingId = settingId := by
  rw [keeps.settingById] at entry
  rw [keeps.settingId, listedId_of_entry entry]

theorem applyBatch_shows {request : RequestEnvelope} {operations applied : List OperationDict}
    (shows : (statePayloadAfter request applied).Shows settings)
    (accepted : applyBatch settings operations = .ok settings') :
    (statePayloadAfter request (applied ++ operations)).Shows settings' := by
  induction operations generalizing settings applied with
  | nil =>
    cases accepted
    rwa [List.append_nil]
  | cons operation rest ih =>
    obtain ⟨middle, record, first, others⟩ := applyBatch_cons accepted
    obtain ⟨changed, written, showsMiddle⟩ :=
      shows.afterOperation (statePayloadAfter_keepsIds request applied).named first
    rw [List.append_cons]
    refine ih ?_ others
    rw [statePayloadAfter, run_append, run_cons]
    have stepped : (statePayloadAfter request applied).step operation = changed := by
      rw [StatePayload.step, written]
    exact stepped ▸ showsMiddle

/-- In every state of a turn, `setting_by_id` holds the objects that `get_image_state` lists, as the
operations applied so far have left them. -/
theorem ReachableContext.shows (reachable : ReachableContext library context) :
    (statePayloadAfter context.baseRequest context.appliedOperations).Shows context.settingById := by
  refine invariant_of_reachable
    (fun context => (statePayloadAfter context.baseRequest context.appliedOperations).Shows context.settingById)
    reachable ?_ ?_
  · rintro start ⟨request, previewDataUrl, previewMimeType, previewBytes, rfl⟩
    exact registerStatePayload_shows request
  · intro before event shows
    cases event with
    | renderCallback bytes => exact shows
    | toolCall toolName arguments renders =>
      rcases handleToolCall_cases library before toolName arguments renders with
        same | ⟨counted, operations, settings, batch, sameBefore, -, simulated, rfl, sameAfter⟩
      · rw [turnStep, same.settingById, same.appliedOperations, same.baseRequest]
        exact shows
      · have done := runLiveBatch_done library renders operations.length 1 simulated
        rw [turnStep, sameAfter.settingById, sameAfter.appliedOperations, sameAfter.baseRequest, done.settingById,
          done.appliedOperations, done.baseRequest]
        rw [← sameBefore.settingById, ← sameBefore.appliedOperations, ← sameBefore.baseRequest] at shows
        exact applyBatch_shows shows simulated

end Turns

/-- A request is addressable exactly when no two of its editable settings share a setting id. -/
theorem addressable_iff_distinctIds (request : RequestEnvelope) :
    Addressable request ↔ (request.imageSnapshot.editableSettings.map (·.settingId)).Nodup := by
  rw [← listedId_injective]
  constructor
  · intro addressable
    exact listedId_injective_of_oneEntry addressable.oneEntry
  · intro distinct
    exact ⟨oneEntry_of_distinct distinct, changesShown_of_distinct distinct⟩

/-! Two reports of one slider, with different current values, under one setting id. -/

def brighterSetting : EditableSetting := { exposureSetting with currentNumber := some 1 }

theorem sharedId_consistent : ∀ setting ∈ [exposureSetting, brighterSetting],
    settingConsistency [exposureCapability] setting = .ok () := by
  decide +kernel

def sharedIdRequest : RequestEnvelope :=
  { exposureRequest with
    imageSnapshot := { exposureRequest.imageSnapshot with editableSettings := [exposureSetting, brighterSetting] }
    consistent := sharedId_consistent }

/-- The first of the two has no entry of its own: an operation on its id never reaches it. -/
theorem sharedIdRequest_not_addressable :
    ¬ ∀ request : RequestEnvelope, (request.imageSnapshot.editableSettings.map (·.settingId)).Nodup ∧
      Addressable request := by
  intro claimed
  have distinct : Function.Injective (listedId sharedIdRequest) :=
    listedId_injective_of_oneEntry (claimed sharedIdRequest).2.oneEntry
  have two : settingCount sharedIdRequest = 2 := rfl
  have same : (⟨0, by omega⟩ : Fin (settingCount sharedIdRequest)) = ⟨1, by omega⟩ := distinct rfl
  exact absurd (congrArg Fin.val same) Nat.zero_ne_one

end DarktableAgent.Server
