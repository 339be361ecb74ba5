import Mathlib.Tactic.Linarith
import DarktableAgent.Foundation.Doubles
import DarktableAgent.Foundation.Runs
import DarktableAgent.Foundation.Totals
import DarktableAgent.Server.Accumulation

/-! What the live verifier takes an edit to have changed.

`_summed_deltas` adds up the numbers that the operations of the last step ask for; the
controls change by what is left of them after modes, rounding and bounds. Numbers are doubles
here: a sum is rounded, while the change of the controls is what it is.
-/

set_option autoImplicit false

namespace DarktableAgent.Server

open Foundation Protocol Doubles

section Deltas

variable (lower : String → String) (actionTerms : List String)

def matchesTerms (actionPath : String) : Bool :=
  actionTerms.any fun term => containsKeyword (lower actionPath) term

/-- `_summed_deltas` -/
def summedDeltas (operations : List OperationDict) : ℚ :=
  operations.foldl (fun total operation =>
    if matchesTerms lower actionTerms operation.actionPath then
      operation.value.number.elim total fun number => nearest (total + number)
    else total) 0

def matchingNumber (setting : Setting) : ℚ :=
  if matchesTerms lower actionTerms setting.actionPath then liveNumber setting else 0

/-- The live numbers of the matching controls, after less before. -/
def controlChange (before after : SettingMap) : ℚ :=
  after.total (matchingNumber lower actionTerms) - before.total (matchingNumber lower actionTerms)

end Deltas

section Apply

/-- The number an operation asks for: a relative one is added to the live one. -/
def resolvedDouble (setting : Setting) (mode : OperationMode) (requested : ℚ) : ℚ :=
  match mode with
  | .delta => nearest (liveNumber setting + requested)
  | .set => requested

/-- `_apply_operation_to_settings`, with its one sum rounded. -/
def applyInDoubles (settings : SettingMap) (operation : OperationDict) : Except String SettingMap :=
  (applyOperationToSettings settings operation).map fun (after, _) =>
    match settings.get? operation.settingId, operation.value.number with
    | some setting, some requested => settings.set operation.settingId { setting with
        currentNumber := some (clampNumber setting (resolvedDouble setting operation.value.mode requested)) }
    | _, _ => after

/-- `_apply_live_operation_step` -/
def applyLiveInDoubles (context : TurnContext) (operation : OperationDict) : Except String TurnContext := do
  let settings ← applyInDoubles context.settingById operation
  let staged ← applyLiveOperationStep context operation
  return { staged with settingById := settings }

def applyBatchInDoubles (settings : SettingMap) (operations : List OperationDict) : Except String SettingMap :=
  operations.foldlM applyInDoubles settings

/-- The bounds of a control are doubles, as all its numbers, and the request had them in order. -/
structure Setting.DoubleBounds (setting : Setting) : Prop where
  lower : ∀ lower ∈ setting.minNumber, IsDouble lower
  upper : ∀ upper ∈ setting.maxNumber, IsDouble upper
  ordered : ∀ lower ∈ setting.minNumber, ∀ upper ∈ setting.maxNumber, lower ≤ upper

def DoubleSettings (settings : SettingMap) : Prop :=
  ∀ settingId setting, settings.get? settingId = some setting → setting.DoubleBounds

def DoubleNumber (operation : OperationDict) : Prop :=
  ∀ number, operation.value.number = some number → IsDouble number

/-- A number within the bounds. -/
def Setting.Admits (setting : Setting) (number : ℚ) : Prop :=
  (∀ lower ∈ setting.minNumber, lower ≤ number) ∧ ∀ upper ∈ setting.maxNumber, number ≤ upper

instance (setting : Setting) (number : ℚ) : Decidable (setting.Admits number) := inferInstanceAs (Decidable (_ ∧ _))

/-- The number of an operation is what its control changes by. A relative one leads to a double within
the bounds. An absolute one meets a control at 0; one that a bound cuts off meets a control that is off
the bound by as much. -/
def StatesChange (setting : Setting) (mode : OperationMode) (number : ℚ) : Prop :=
  match mode with
  | .delta => IsDouble (liveNumber setting + number) ∧ setting.Admits (liveNumber setting + number)
  | .set =>
    (setting.Admits number → liveNumber setting = 0) ∧
    (∀ lower ∈ setting.minNumber, number < lower → liveNumber setting = lower - number) ∧
    ∀ upper ∈ setting.maxNumber, upper < number → liveNumber setting = upper - number

instance (setting : Setting) (mode : OperationMode) (number : ℚ) : Decidable (StatesChange setting mode number) := by
  unfold StatesChange
  cases mode <;> infer_instance

/-- A tenth is added to a fifth within the bounds, and the sum is rounded. -/
example : ¬ StatesChange { compactSetting exposureSetting with currentNumber := some (nearest (1 / 5)) } .delta
    (nearest (1 / 10)) := by decide +kernel

end Apply

section Clamp

variable {setting changed : Setting} {x : ℚ}

theorem clampNumber_of_admits (admits : setting.Admits x) : clampNumber setting x = x := by
  obtain ⟨atLeast, atMost⟩ := admits
  have raised : setting.minNumber.elim x (max x) = x := by
    cases isLower : setting.minNumber with
    | none => rfl
    | some lower => exact max_eq_left (atLeast lower isLower)
  unfold clampNumber
  rw [raised]
  cases isUpper : setting.maxNumber with
  | none => rfl
  | some upper => exact min_eq_left (atMost upper isUpper)

theorem clampNumber_of_above {upper : ℚ} (isUpper : upper ∈ setting.maxNumber) (above : upper < x) :
    clampNumber setting x = upper := by
  have raised : x ≤ setting.minNumber.elim x (max x) := by
    cases setting.minNumber with
    | none => exact le_rfl
    | some lower => exact le_max_left x lower
  unfold clampNumber
  rw [Option.mem_def.mp isUpper]
  exact min_eq_right (above.le.trans raised)

theorem clampNumber_of_below (bounds : setting.DoubleBounds) {lower : ℚ} (isLower : lower ∈ setting.minNumber)
    (below : x < lower) : clampNumber setting x = lower := by
  unfold clampNumber
  rw [Option.mem_def.mp isLower]
  dsimp only [Option.elim]
  rw [max_eq_right below.le]
  cases isUpper : setting.maxNumber with
  | none => rfl
  | some upper => exact min_eq_left (bounds.ordered lower isLower upper isUpper)

theorem admits_or (setting : Setting) (x : ℚ) : setting.Admits x ∨ (∃ lower ∈ setting.minNumber, x < lower) ∨
    ∃ upper ∈ setting.maxNumber, upper < x := by
  by_contra outside
  simp only [not_or, not_exists, not_and, not_lt] at outside
  exact outside.1 outside.2

theorem clampNumber_eq_self_iff (bounds : setting.DoubleBounds) : clampNumber setting x = x ↔ setting.Admits x := by
  refine ⟨fun same => ?_, clampNumber_of_admits⟩
  rcases admits_or setting x with admits | ⟨lower, isLower, below⟩ | ⟨upper, isUpper, above⟩
  · exact admits
  · rw [clampNumber_of_below bounds isLower below] at same
    exact absurd same below.ne'
  · rw [clampNumber_of_above isUpper above] at same
    exact absurd same above.ne

/-- What a bound cuts off at is a double. -/
theorem isDouble_of_clampNumber_ne (bounds : setting.DoubleBounds) (changes : clampNumber setting x ≠ x) :
    IsDouble (clampNumber setting x) := by
  rcases admits_or setting x with admits | ⟨lower, isLower, below⟩ | ⟨upper, isUpper, above⟩
  · exact absurd (clampNumber_of_admits admits) changes
  · rw [clampNumber_of_below bounds isLower below]
    exact bounds.lower lower isLower
  · rw [clampNumber_of_above isUpper above]
    exact bounds.upper upper isUpper

/-- A rounded number is clamped to the exact one only where neither changes it. -/
theorem clamp_nearest_iff (bounds : setting.DoubleBounds) :
    clampNumber setting (nearest x) = x ↔ IsDouble x ∧ setting.Admits x := by
  constructor
  · intro same
    have double : IsDouble x := by
      by_cases inside : clampNumber setting (nearest x) = nearest x
      · exact nearest_eq_self_iff.mp (inside.symm.trans same)
      · exact same ▸ isDouble_of_clampNumber_ne bounds inside
    rw [nearest_eq_self_iff.mpr double] at same
    exact ⟨double, (clampNumber_eq_self_iff bounds).mp same⟩
  · rintro ⟨double, inside⟩
    rw [nearest_eq_self_iff.mpr double, clampNumber_of_admits inside]

theorem statesChange_iff (bounds : setting.DoubleBounds) (mode : OperationMode) (number : ℚ) :
    number = clampNumber setting (resolvedDouble setting mode number) - liveNumber setting ↔
      StatesChange setting mode number := by
  cases mode with
  | delta =>
    have exact : number = clampNumber setting (nearest (liveNumber setting + number)) - liveNumber setting ↔
        clampNumber setting (nearest (liveNumber setting + number)) = liveNumber setting + number := by
      constructor <;> intro same <;> linarith
    exact exact.trans (clamp_nearest_iff bounds)
  | set =>
    have absolute : resolvedDouble setting .set number = number := rfl
    rw [absolute]
    constructor
    · intro same
      refine ⟨fun admits => ?_, fun lower isLower below => ?_, fun upper isUpper above => ?_⟩
      · rw [clampNumber_of_admits admits] at same
        linarith
      · rw [clampNumber_of_below bounds isLower below] at same
        linarith
      · rw [clampNumber_of_above isUpper above] at same
        linarith
    · rintro ⟨kept, raised, lowered⟩
      rcases admits_or setting number with admits | ⟨lower, isLower, below⟩ | ⟨upper, isUpper, above⟩
      · rw [clampNumber_of_admits admits, kept admits, sub_zero]
      · rw [clampNumber_of_below bounds isLower below, raised lower isLower below, sub_sub_cancel]
      · rw [clampNumber_of_above isUpper above, lowered upper isUpper above, sub_sub_cancel]

theorem bounds_of_frame (same : changed.frame = setting.frame) :
    changed.minNumber = setting.minNumber ∧ changed.maxNumber = setting.maxNumber ∧
      changed.actionPath = setting.actionPath :=
  ⟨(congrArg Setting.minNumber same :), (congrArg Setting.maxNumber same :), (congrArg Setting.actionPath same :)⟩

theorem Setting.DoubleBounds.of_frame (same : changed.frame = setting.frame) (bounds : setting.DoubleBounds) :
    changed.DoubleBounds := by
  obtain ⟨lower, upper, -⟩ := bounds_of_frame same
  constructor
  case lower => exact lower ▸ bounds.lower
  case upper => exact upper ▸ bounds.upper
  case ordered => rw [lower, upper]; exact bounds.ordered

end Clamp

section Step

variable {lower : String → String} {actionTerms : List String} {settings after : SettingMap}
  {operation : OperationDict}

/-- Without a number the live number stays. -/
theorem liveNumber_applyToSetting {setting changed : Setting} {applied : AppliedOperation}
    (written : applyToSetting setting operation = .ok (changed, applied)) (absent : operation.value.number = none) :
    liveNumber changed = liveNumber setting := by
  obtain ⟨-, -, -, ⟨-, float⟩ | ⟨-, choice⟩ | ⟨-, bool⟩⟩ := applyToSetting_cases written
  · obtain ⟨number, isNumber, -⟩ := applyFloat_cases float
    exact absurd (absent.symm.trans isNumber) nofun
  · obtain ⟨_, -, -, -, rfl⟩ := applyChoice_cases choice
    rfl
  · obtain ⟨_, -, rfl⟩ := applyBool_cases bool
    rfl

/-- What an accepted operation leaves: one setting with another live number. -/
theorem applyInDoubles_cases (accepted : applyInDoubles settings operation = .ok after) :
    ∃ setting changed, settings.get? operation.settingId = some setting ∧
      setting.actionPath = operation.actionPath ∧ after = settings.set operation.settingId changed ∧
      changed.frame = setting.frame ∧
      liveNumber changed = operation.value.number.elim (liveNumber setting) fun number =>
        clampNumber setting (resolvedDouble setting operation.value.mode number) := by
  unfold applyInDoubles at accepted
  cases result : applyOperationToSettings settings operation with
  | error text =>
    rw [result] at accepted
    cases accepted
  | ok written =>
    rw [result] at accepted
    obtain ⟨exact, applied⟩ := written
    obtain ⟨setting, changed, found, isWritten, rfl⟩ := applyOperationToSettings_cases result
    obtain ⟨path, -⟩ := applyToSetting_cases isWritten
    cases number : operation.value.number with
    | none =>
      simp only [Except.map, found, number, Except.ok.injEq] at accepted
      exact ⟨setting, changed, found, path, accepted.symm, applyToSetting_frame isWritten,
        liveNumber_applyToSetting isWritten number⟩
    | some requested =>
      simp only [Except.map, found, number, Except.ok.injEq] at accepted
      exact ⟨setting, _, found, path, accepted.symm, rfl, rfl⟩

theorem controlChange_set {settingId : String} {setting changed : Setting} (found : settings.get? settingId = some setting)
    (same : changed.frame = setting.frame) : controlChange lower actionTerms settings (settings.set settingId changed) =
      if matchesTerms lower actionTerms setting.actionPath then liveNumber changed - liveNumber setting else 0 := by
  obtain ⟨-, -, samePath⟩ := bounds_of_frame same
  have moved := @Dict.total_set _ _ _ _ _ (matchingNumber lower actionTerms) settings settingId setting changed found
  simp only [matchingNumber, samePath] at moved
  unfold controlChange
  split_ifs at moved ⊢ <;> linarith

theorem DoubleSettings.applied (doubles : DoubleSettings settings)
    (accepted : applyInDoubles settings operation = .ok after) : DoubleSettings after := by
  obtain ⟨setting, changed, found, -, rfl, same, -⟩ := applyInDoubles_cases accepted
  intro settingId now here
  rw [Dict.get?_set] at here
  split_ifs at here
  · obtain rfl := Option.some.inj here
    exact (doubles _ _ found).of_frame same
  · exact doubles settingId now here

/-- The number of a single operation is handed on as it is. -/
theorem summedDeltas_singleton (inDoubles : DoubleNumber operation) : summedDeltas lower actionTerms [operation] =
    if matchesTerms lower actionTerms operation.actionPath then operation.value.number.getD 0 else 0 := by
  unfold summedDeltas
  rw [List.foldl_cons, List.foldl_nil]
  split_ifs
  · cases number : operation.value.number with
    | none => rfl
    | some number' =>
      have double := inDoubles number' number
      rw [Option.elim_some, zero_add, nearest_eq_self_iff.mpr double, Option.getD_some]
  · rfl

end Step

/-! ## Live runs -/

/-- What happens to the edits of a turn: an operation is applied, or the wait for its render ends. -/
inductive LiveEvent where
  | edit (operation : OperationDict)
  | render (delivered : Option Bytes)

def LiveEvent.InDoubles : LiveEvent → Prop
  | .edit operation => DoubleNumber operation
  | .render _ => True

def TurnContext.liveStep (library : ToolLibrary) (context : TurnContext) : LiveEvent → TurnContext
  | .edit operation =>
    match applyLiveInDoubles context operation with
    | .ok staged => staged
    | .error _ => context
  | .render delivered => (waitForLiveRender library context delivered).1

section Live

variable {library : ToolLibrary} {context staged : TurnContext} {lower : String → String} {actionTerms : List String}
  {operation : OperationDict}

/-- The delta that the last edit leaves for the verifier is the change of the controls. -/
def DeltaReal (lower : String → String) (actionTerms : List String) (context : TurnContext) : LiveEvent → Prop
  | .edit operation => ∀ staged, applyLiveInDoubles context operation = .ok staged →
      summedDeltas lower actionTerms staged.lastAppliedBatch =
        controlChange lower actionTerms context.settingById staged.settingById
  | .render _ => True

/-- An edit that is accepted for a matching control states its change. -/
def WellStated (lower : String → String) (actionTerms : List String) (context : TurnContext) : LiveEvent → Prop
  | .edit operation => (applyOperationToSettings context.settingById operation).isOk = true →
      matchesTerms lower actionTerms operation.actionPath = true →
        ∀ setting number, context.settingById.get? operation.settingId = some setting →
          operation.value.number = some number → StatesChange setting operation.value.mode number
  | .render _ => True

/-- The batch of an edit is that edit alone. -/
theorem applyLiveInDoubles_cases (step : applyLiveInDoubles context operation = .ok staged) :
    staged.lastAppliedBatch = [operation] ∧
      applyInDoubles context.settingById operation = .ok staged.settingById := by
  unfold applyLiveInDoubles applyLiveOperationStep at step
  cases written : applyInDoubles context.settingById operation with
  | error text =>
    rw [written] at step
    cases step
  | ok settings =>
    rw [written] at step
    cases exact : applyOperationToSettings context.settingById operation with
    | error text =>
      rw [exact] at step
      cases step
    | ok result =>
      rw [exact] at step
      obtain rfl := Except.ok.inj step
      exact ⟨rfl, rfl⟩

/-- An edit goes through where its operation is accepted. -/
theorem applyLiveInDoubles_isOk : (∃ staged, applyLiveInDoubles context operation = .ok staged) ↔
    (applyOperationToSettings context.settingById operation).isOk = true := by
  unfold applyLiveInDoubles applyInDoubles applyLiveOperationStep
  cases applyOperationToSettings context.settingById operation with
  | error text =>
    constructor
    · rintro ⟨staged, step⟩
      cases step
    · intro accepted
      cases accepted
  | ok result => exact ⟨fun _ => rfl, fun _ => ⟨_, rfl⟩⟩

/-- A render hands the verifier the batch of the last edit, and leaves it for the next one. -/
theorem waitForLiveRender_batch (library : ToolLibrary) (context : TurnContext) (delivered : Option Bytes) :
    (waitForLiveRender library context delivered).1.lastAppliedBatch = context.lastAppliedBatch ∧
      (waitForLiveRender library context delivered).1.settingById = context.settingById := by
  unfold waitForLiveRender
  cases delivered.filter (· ≠ []) with
  | none => exact ⟨rfl, rfl⟩
  | some bytes => exact ⟨rfl, rfl⟩

theorem liveStep_doubles (doubles : DoubleSettings context.settingById) (event : LiveEvent) :
    DoubleSettings (context.liveStep library event).settingById := by
  cases event with
  | edit operation =>
    simp only [TurnContext.liveStep]
    cases step : applyLiveInDoubles context operation with
    | error text => exact doubles
    | ok staged => exact doubles.applied (applyLiveInDoubles_cases step).2
  | render delivered =>
    simp only [TurnContext.liveStep, (waitForLiveRender_batch library context delivered).2]
    exact doubles

theorem deltaReal_iff_wellStated (doubles : DoubleSettings context.settingById) {event : LiveEvent}
    (inDoubles : event.InDoubles) :
    DeltaReal lower actionTerms context event ↔ WellStated lower actionTerms context event := by
  cases event with
  | render delivered => exact Iff.rfl
  | edit operation =>
    have each : ∀ staged, applyLiveInDoubles context operation = .ok staged →
        (summedDeltas lower actionTerms staged.lastAppliedBatch =
            controlChange lower actionTerms context.settingById staged.settingById ↔
          (matchesTerms lower actionTerms operation.actionPath = true →
            ∀ setting number, context.settingById.get? operation.settingId = some setting →
              operation.value.number = some number → StatesChange setting operation.value.mode number)) := by
      intro staged step
      obtain ⟨batch, accepted⟩ := applyLiveInDoubles_cases step
      obtain ⟨setting, changed, found, path, isAfter, same, now⟩ := applyInDoubles_cases accepted
      rw [batch, isAfter, summedDeltas_singleton inDoubles, controlChange_set found same, path, now]
      by_cases matching : matchesTerms lower actionTerms operation.actionPath = true
      · rw [if_pos matching, if_pos matching]
        cases number : operation.value.number with
        | none => simp
        | some number' =>
          rw [Option.getD_some, Option.elim_some, statesChange_iff (doubles _ _ found)]
          simp [matching, found]
      · rw [if_neg matching, if_neg matching]
        simp [matching]
    constructor
    · intro real accepted
      obtain ⟨staged, step⟩ := applyLiveInDoubles_isOk.mpr accepted
      exact (each staged step).mp (real staged step)
    · intro stated staged step
      exact (each staged step).mpr (stated (applyLiveInDoubles_isOk.mp ⟨staged, step⟩))

end Live

/-! ## Batches -/

section Batch

variable (lower : String → String) (actionTerms : List String)

/-- What a list of operations asks of one control. -/
def askedOf (settingId : String) (operations : List OperationDict) : ℚ :=
  (operations.map fun operation =>
    if operation.settingId = settingId then operation.value.number.getD 0 else 0).sum

/-- What a list of operations asks of the matching controls. -/
def askedOfMatching (operations : List OperationDict) : ℚ :=
  (operations.map fun operation =>
    if matchesTerms lower actionTerms operation.actionPath then operation.value.number.getD 0 else 0).sum

/-- The matching operations are relative, each takes its control to a double within the bounds, and the
numbers add up without rounding. -/
structure BatchStates (settings : SettingMap) (operations : List OperationDict) : Prop where
  relative : ∀ operation ∈ operations, matchesTerms lower actionTerms operation.actionPath = true →
    ∀ number, operation.value.number = some number → operation.value.mode = .delta
  lands : ∀ earlier operation later, operations = earlier ++ operation :: later →
    matchesTerms lower actionTerms operation.actionPath = true → operation.value.number.isSome = true →
      ∀ setting, settings.get? operation.settingId = some setting →
        IsDouble (liveNumber setting + askedOf operation.settingId (earlier ++ [operation])) ∧
          setting.Admits (liveNumber setting + askedOf operation.settingId (earlier ++ [operation]))
  sums : ∀ earlier later, operations = earlier ++ later → IsDouble (askedOfMatching lower actionTerms earlier)

variable {lower actionTerms} {settings after : SettingMap} {operations : List OperationDict} {operation : OperationDict}

theorem BatchStates.front (states : BatchStates lower actionTerms settings (operations ++ [operation])) :
    BatchStates lower actionTerms settings operations where
  relative other member := states.relative other (List.mem_append_left _ member)
  lands earlier other later same := states.lands earlier other (later ++ [operation]) (by rw [same]; simp)
  sums earlier later same := states.sums earlier (later ++ [operation]) (by rw [same]; simp)

theorem askedOf_append_singleton (settingId : String) : askedOf settingId (operations ++ [operation]) =
    askedOf settingId operations + if operation.settingId = settingId then operation.value.number.getD 0 else 0 := by
  simp [askedOf]

theorem askedOfMatching_append_singleton : askedOfMatching lower actionTerms (operations ++ [operation]) =
    askedOfMatching lower actionTerms operations +
      if matchesTerms lower actionTerms operation.actionPath then operation.value.number.getD 0 else 0 := by
  simp [askedOfMatching]

/-- The sum over a batch that adds up without rounding. -/
theorem summedDeltas_eq (sums : ∀ earlier later, operations = earlier ++ later →
    IsDouble (askedOfMatching lower actionTerms earlier)) :
    summedDeltas lower actionTerms operations = askedOfMatching lower actionTerms operations := by
  induction operations using List.reverseRecOn with
  | nil => rfl
  | append_singleton front operation ih =>
    have earlier := ih fun earlier later same => sums earlier (later ++ [operation]) (by rw [same]; simp)
    have whole := sums (front ++ [operation]) [] (by simp)
    unfold summedDeltas at earlier ⊢
    rw [askedOfMatching_append_singleton] at whole ⊢
    rw [List.foldl_append, earlier, List.foldl_cons, List.foldl_nil]
    split_ifs at whole ⊢
    · cases number : operation.value.number with
      | none => simp
      | some number' =>
        rw [number, Option.getD_some] at whole
        rw [Option.elim_some, nearest_eq_self_iff.mpr whole, Option.getD_some]
    · rw [add_zero]

theorem controlChange_trans (first second third : SettingMap) : controlChange lower actionTerms first third =
    controlChange lower actionTerms first second + controlChange lower actionTerms second third := by
  unfold controlChange
  linarith

theorem clampNumber_of_frame {setting changed : Setting} (same : changed.frame = setting.frame) (value : ℚ) :
    clampNumber changed value = clampNumber setting value := by
  obtain ⟨lower, upper, -⟩ := bounds_of_frame same
  unfold clampNumber
  rw [lower, upper]

/-- Behind a batch the matching controls have moved by what was asked of them. -/
structure Landed (lower : String → String) (actionTerms : List String) (settings : SettingMap)
    (operations : List OperationDict) (after : SettingMap) : Prop where
  controls : ∀ settingId now, after.get? settingId = some now →
    ∃ setting, settings.get? settingId = some setting ∧ now.frame = setting.frame ∧
      (matchesTerms lower actionTerms setting.actionPath = true →
        liveNumber now = liveNumber setting + askedOf settingId operations)
  change : controlChange lower actionTerms settings after = askedOfMatching lower actionTerms operations

theorem landed_nil : Landed lower actionTerms settings [] settings where
  controls _ now found := ⟨now, found, rfl, fun _ => (add_zero _).symm⟩
  change := sub_self _

theorem Landed.step (landed : Landed lower actionTerms settings operations after)
    (states : BatchStates lower actionTerms settings (operations ++ [operation])) {last : SettingMap}
    (accepted : applyInDoubles after operation = .ok last) :
    Landed lower actionTerms settings (operations ++ [operation]) last := by
  obtain ⟨now, changed, found, path, rfl, same, number⟩ := applyInDoubles_cases accepted
  obtain ⟨setting, known, sameFrame, reached⟩ := landed.controls _ now found
  have samePath : setting.actionPath = operation.actionPath := (bounds_of_frame sameFrame).2.2.symm.trans path
  have moved : matchesTerms lower actionTerms operation.actionPath = true →
      liveNumber changed = liveNumber now + operation.value.number.getD 0 := by
    intro matching
    cases isNumber : operation.value.number with
    | none => rw [number, isNumber, Option.elim_none, Option.getD_none, add_zero]
    | some asked =>
      have relative := states.relative operation (by simp) matching asked isNumber
      obtain ⟨double, inside⟩ := states.lands operations operation [] rfl matching (by rw [isNumber]; rfl) setting known
      have target : liveNumber setting + askedOf operation.settingId (operations ++ [operation]) =
          liveNumber now + asked := by
        rw [askedOf_append_singleton, if_pos rfl, isNumber, Option.getD_some, reached (samePath ▸ matching)]
        exact (add_assoc _ _ _).symm
      rw [target] at double inside
      rw [number, isNumber, Option.elim_some, Option.getD_some, relative]
      unfold resolvedDouble
      dsimp only
      rw [nearest_eq_self_iff.mpr double, clampNumber_of_frame sameFrame, clampNumber_of_admits inside]
  constructor
  · intro settingId now' here
    rw [Dict.get?_set] at here
    rw [askedOf_append_singleton]
    split_ifs at here with isOperation
    · obtain rfl := Option.some.inj here
      subst isOperation
      refine ⟨setting, known, same.trans sameFrame, fun matching => ?_⟩
      rw [moved (samePath ▸ matching), reached matching, if_pos rfl, add_assoc]
    · obtain ⟨setting', known', sameFrame', reached'⟩ := landed.controls settingId now' here
      refine ⟨setting', known', sameFrame', fun matching => ?_⟩
      rw [reached' matching, if_neg (Ne.symm isOperation), add_zero]
  · rw [controlChange_trans settings after, landed.change, controlChange_set found same, path,
      askedOfMatching_append_singleton]
    split_ifs with matching
    · rw [moved matching, add_sub_cancel_left]
    · rfl

theorem landed_batch (accepted : applyBatchInDoubles settings operations = .ok after)
    (states : BatchStates lower actionTerms settings operations) :
    Landed lower actionTerms settings operations after := by
  induction operations using List.reverseRecOn generalizing after with
  | nil =>
    obtain rfl := Except.ok.inj accepted
    exact landed_nil
  | append_singleton front operation ih =>
    unfold applyBatchInDoubles at accepted ih
    rw [List.foldlM_append] at accepted
    cases first : front.foldlM applyInDoubles settings with
    | error text =>
      rw [first] at accepted
      cases accepted
    | ok middle =>
      rw [first] at accepted
      have last : applyInDoubles middle operation = .ok after := by
        cases result : applyInDoubles middle operation with
        | error text => simp [bind, Except.bind, result] at accepted
        | ok settings => simpa [bind, Except.bind, pure, Except.pure, result] using accepted
      exact (ih first states.front).step states last

end Batch

/-- In every live run, from any context and with renders at any point, the deltas handed to the
verifier are the changes of the controls exactly where each edit states its change; and over a
batch that is accepted as a whole they are where the batch states its changes. -/
theorem verifierDeltas_real_iff (library : ToolLibrary) (actionTerms : List String) {context : TurnContext}
    (doubles : DoubleSettings context.settingById) {events : List LiveEvent}
    (inDoubles : ∀ event ∈ events, event.InDoubles) :
    (EveryStep (TurnContext.liveStep library) (DeltaReal library.lower actionTerms) context events ↔
      EveryStep (TurnContext.liveStep library) (WellStated library.lower actionTerms) context events) ∧
    ∀ operations after, applyBatchInDoubles context.settingById operations = .ok after →
      BatchStates library.lower actionTerms context.settingById operations →
        summedDeltas library.lower actionTerms operations =
          controlChange library.lower actionTerms context.settingById after := by
  constructor
  · induction events generalizing context with
    | nil => exact Iff.rfl
    | cons event rest ih =>
      have here := @deltaReal_iff_wellStated _ library.lower actionTerms doubles _
        (inDoubles event List.mem_cons_self)
      have later := ih (@liveStep_doubles library _ doubles event)
        fun other member => inDoubles other (List.mem_cons_of_mem _ member)
      exact and_congr here later
  · intro operations after accepted states
    rw [summedDeltas_eq states.sums, (landed_batch accepted states).change]

def setExposure (number : ℚ) : OperationDict where
  operation := {
    operationId := "op-1"
    sequence := 1
    kind := .setFloat
    target := exposureTarget
    value := { mode := .set, number := some number }
    reason := none
    operationIdPresent := firstOperation_present
    sequencePositive := one_positive
    valid := validateKindAndValue_float .set number }
  bound := false

theorem exposure_doubles : DoubleSettings exposureContext.settingById := by
  intro settingId setting found
  refine Dict.ofPairs_forall (fun _ value => value.DoubleBounds) ?_ found
  intro pair member
  obtain rfl := List.mem_singleton.mp member
  constructor
  case lower => rintro _ ⟨⟩; decide +kernel
  case upper => rintro _ ⟨⟩; decide +kernel
  case ordered => rintro _ ⟨⟩ _ ⟨⟩; decide +kernel

theorem setExposure_double {number : ℚ} (double : IsDouble number) : (LiveEvent.edit (setExposure number)).InDoubles := by
  rintro _ ⟨⟩
  exact double

/-- Exposure is set from 0 to 1. -/
theorem verifierDeltas_real_iff_set : EveryStep (TurnContext.liveStep plainToolLibrary)
    (DeltaReal plainToolLibrary.lower ["exposure"]) exposureContext [.edit (setExposure 1)] := by
  have inDoubles : ∀ event ∈ [LiveEvent.edit (setExposure 1)], event.InDoubles := by
    intro event member
    obtain rfl := List.mem_singleton.mp member
    exact setExposure_double (by decide +kernel)
  refine (verifierDeltas_real_iff plainToolLibrary ["exposure"] exposure_doubles inDoubles).1.mpr ⟨?_, trivial⟩
  rintro - - setting number found ⟨⟩
  obtain rfl := Option.some.inj found
  decide +kernel

/-- Exposure is set to 1 and then to 1/2: the verifier is told of half a stop more, not less. -/
theorem secondSet_misread : ¬ ∀ library actionTerms context, DoubleSettings context.settingById →
    ∀ events : List LiveEvent, (∀ event ∈ events, event.InDoubles) →
      EveryStep (TurnContext.liveStep library) (DeltaReal library.lower actionTerms) context events := by
  intro always
  have inDoubles : ∀ event ∈ [LiveEvent.edit (setExposure 1), .edit (setExposure (1 / 2))], event.InDoubles := by
    refine List.forall_mem_cons.mpr ⟨setExposure_double (by decide +kernel), List.forall_mem_singleton.mpr ?_⟩
    exact setExposure_double (by decide +kernel)
  have real := (always plainToolLibrary ["exposure"] exposureContext exposure_doubles _ inDoubles).2.1
  have doubles := @liveStep_doubles plainToolLibrary _ exposure_doubles (.edit (setExposure 1))
  rw [deltaReal_iff_wellStated doubles (setExposure_double (by decide +kernel))] at real
  have accepted : (applyOperationToSettings (exposureContext.liveStep plainToolLibrary
      (.edit (setExposure 1))).settingById (setExposure (1 / 2))).isOk = true := by
    decide +kernel
  have stands : (exposureContext.liveStep plainToolLibrary (.edit (setExposure 1))).settingById.get?
      "setting.exposure" = some { compactSetting exposureSetting with currentNumber := some 1 } := by
    decide +kernel
  exact absurd (real accepted (by decide +kernel) _ (1 / 2) stands rfl) (by decide +kernel)

end DarktableAgent.Server
