import DarktableAgent.Client.Execute

/-! Whether a rejected operation keeps its whole batch from being written.

The validator rejects with an error in every case but one, and it is the error
that stops the batch. The exact condition is that the first rejected operation is
not one whose control has no current number.
-/

set_option autoImplicit false

namespace DarktableAgent.Client

open Foundation Protocol

section Loud

variable {σ ν W : Type} {darkroom : Darkroom σ ν W} {state : σ}

theorem validateWhiteBalanceOperation_loud (operation : ChatOperation ν) (descriptor : ActionDescriptor ν W) :
    validateWhiteBalanceOperation darkroom state operation descriptor ≠ .error none := by
  unfold validateWhiteBalanceOperation
  rcases operation.kind with - | kind
  · split_ifs <;> simp
  · cases kind with
    | setFloat => split_ifs <;> simp
    | setChoice | setBool => split_ifs <;> simp

theorem findDescriptor_loud (operation : ChatOperation ν) : findDescriptor darkroom state operation ≠ .error none := by
  unfold findDescriptor
  cases catalogFindDescriptor darkroom state operation.actionPath operation.settingId <;> simp [Except.mapError]

/-- A step of a validator that cannot fail silently. -/
theorem bind_silent {α : Type} {first : Except (Option String) α} {next : α → Except (Option String) Unit}
    (loud : first ≠ .error none) :
    (first >>= next) = .error none ↔ ∃ value, first = .ok value ∧ next value = .error none := by
  cases first with
  | error error =>
    have other : error ≠ none := fun same => loud (same ▸ rfl)
    simp [bind, Except.bind, other]
  | ok value => simp [bind, Except.bind]

theorem validateChoiceOperation_loud (operation : ChatOperation ν) :
    validateChoiceOperation darkroom state operation ≠ .error none := by
  rw [validateChoiceOperation, ne_eq, bind_silent (findDescriptor_loud operation)]
  rintro ⟨descriptor, -, silent⟩
  rw [bind_silent (validateWhiteBalanceOperation_loud operation descriptor)] at silent
  obtain ⟨-, -, silent⟩ := silent
  by_cases mode : operation.valueMode ≠ some .set ∨ ¬ operation.hasChoiceValue
  · rw [if_pos mode] at silent
    simp at silent
  · rw [if_neg mode] at silent
    cases found : choiceOptionForValue descriptor operation.choiceValue with
    | none => simp [found] at silent
    | some option =>
      simp only [found] at silent
      split_ifs at silent
      simp at silent

theorem validateBoolOperation_loud (operation : ChatOperation ν) :
    validateBoolOperation darkroom state operation ≠ .error none := by
  rw [validateBoolOperation, ne_eq, bind_silent (findDescriptor_loud operation)]
  rintro ⟨descriptor, -, silent⟩
  rw [bind_silent (validateWhiteBalanceOperation_loud operation descriptor)] at silent
  obtain ⟨-, -, silent⟩ := silent
  by_cases mode : operation.valueMode ≠ some .set ∨ ¬ operation.hasBoolValue
  · rw [if_pos mode] at silent
    simp at silent
  · rw [if_neg mode] at silent
    simp at silent

/-- A chain of checks passes when each of them does. -/
theorem bind_ok {α β : Type} {first : Except (Option String) α} {next : α → Except (Option String) β} {result : β} :
    (first >>= next) = .ok result ↔ ∃ value, first = .ok value ∧ next value = .ok result := by
  cases first <;> simp [bind, Except.bind]

theorem findDescriptor_ok {operation : ChatOperation ν} {descriptor : ActionDescriptor ν W} :
    findDescriptor darkroom state operation = .ok descriptor ↔
      catalogFindDescriptor darkroom state operation.actionPath operation.settingId = .ok descriptor := by
  unfold findDescriptor
  cases catalogFindDescriptor darkroom state operation.actionPath operation.settingId <;> simp [Except.mapError]

theorem validateChoiceOperation_ok {operation : ChatOperation ν} :
    validateChoiceOperation darkroom state operation = .ok () ↔
      ∃ descriptor, catalogFindDescriptor darkroom state operation.actionPath operation.settingId = .ok descriptor ∧
        validateWhiteBalanceOperation darkroom state operation descriptor = .ok () ∧
        operation.valueMode = some .set ∧ operation.hasChoiceValue ∧
        ∃ option, choiceOptionForValue descriptor operation.choiceValue = some option ∧
          ∀ choiceId, operation.choiceId = some choiceId → choiceId = "" ∨ choiceId = option.choiceId := by
  rw [validateChoiceOperation, bind_ok]
  refine exists_congr fun descriptor => and_congr findDescriptor_ok ?_
  rw [bind_ok, Unique.exists_iff]
  refine and_congr_right fun _ => ?_
  by_cases mode : operation.valueMode ≠ some .set ∨ ¬ operation.hasChoiceValue
  · rw [if_pos mode]
    simp only [reduceCtorEq, false_iff]
    rintro ⟨isSet, present, -⟩
    exact mode.elim (· isSet) (· present)
  · rw [if_neg mode]
    simp only [not_or, ne_eq, not_not] at mode
    cases found : choiceOptionForValue descriptor operation.choiceValue with
    | none => simp
    | some option => cases id : operation.choiceId <;> simp [mode]; tauto

theorem validateBoolOperation_ok {operation : ChatOperation ν} :
    validateBoolOperation darkroom state operation = .ok () ↔
      ∃ descriptor, catalogFindDescriptor darkroom state operation.actionPath operation.settingId = .ok descriptor ∧
        validateWhiteBalanceOperation darkroom state operation descriptor = .ok () ∧
        operation.valueMode = some .set ∧ operation.hasBoolValue := by
  rw [validateBoolOperation, bind_ok]
  refine exists_congr fun descriptor => and_congr findDescriptor_ok ?_
  rw [bind_ok, Unique.exists_iff]
  refine and_congr_right fun _ => ?_
  by_cases mode : operation.valueMode ≠ some .set ∨ ¬ operation.hasBoolValue
  · rw [if_pos mode]
    simp only [reduceCtorEq, false_iff]
    rintro ⟨isSet, present⟩
    exact mode.elim (· isSet) (· present)
  · rw [if_neg mode]
    simp only [not_or, ne_eq, not_not] at mode
    simp [mode]

theorem executeSetChoiceOperation_not_blocked {operation : ChatOperation ν}
    (accepted : validateChoiceOperation darkroom state operation = .ok ()) :
    (executeSetChoiceOperation darkroom state operation).result.status ≠ .blocked := by
  obtain ⟨descriptor, found, -, mode, present, -⟩ := validateChoiceOperation_ok.mp accepted
  simp only [executeSetChoiceOperation, found, mode, present, ne_eq, not_true_eq_false, or_self, if_false]
  split <;> simp [setFailed, setApplied, resultOf]

theorem executeSetBoolOperation_not_blocked {operation : ChatOperation ν}
    (accepted : validateBoolOperation darkroom state operation = .ok ()) :
    (executeSetBoolOperation darkroom state operation).result.status ≠ .blocked := by
  obtain ⟨descriptor, found, -, mode, present⟩ := validateBoolOperation_ok.mp accepted
  simp only [executeSetBoolOperation, found, mode, present, ne_eq, not_true_eq_false, or_self, if_false]
  split <;> simp [setFailed, setApplied, resultOf]

end Loud

section Atomicity

variable {σ ν W : Type} [Numeric ν] {darkroom : Darkroom σ ν W} {state : σ}

/-- A planned float operation whose control is found and not in conflict, but has no current number:
the slider holds NaN, or the module's parameter cannot be read. -/
def Unreadable (darkroom : Darkroom σ ν W) (state : σ) (operation : ChatOperation ν) : Prop :=
  operation.status = "planned" ∧ operation.targetType = darktableAction ∧ operation.kind = some .setFloat ∧
    ∃ descriptor, catalogFindDescriptor darkroom state operation.actionPath operation.settingId = .ok descriptor ∧
      validateWhiteBalanceOperation darkroom state operation descriptor = .ok () ∧
      descriptor.operationKind = .setFloat ∧
      match descriptor.binding with
      | .widget => ∃ widget, descriptor.widget = some widget ∧ Numeric.isNan (darkroom.sliderGet state widget)
      | .rgblevelsHandle => (darkroom.readRgblevels state descriptor).all Numeric.isNan
      | .colorzonesBand => (darkroom.readColorzones state descriptor).all Numeric.isNan

theorem readDescriptorFloatValue_silent {descriptor : ActionDescriptor ν W} :
    readDescriptorFloatValue darkroom state descriptor = .error none ↔
      descriptor.operationKind = .setFloat ∧
      match descriptor.binding with
      | .widget => ∃ widget, descriptor.widget = some widget ∧ Numeric.isNan (darkroom.sliderGet state widget)
      | .rgblevelsHandle => (darkroom.readRgblevels state descriptor).all Numeric.isNan
      | .colorzonesBand => (darkroom.readColorzones state descriptor).all Numeric.isNan := by
  unfold readDescriptorFloatValue catalogReadCurrentNumber
  by_cases kind : descriptor.operationKind = .setFloat
  · cases binding : descriptor.binding with
    | widget =>
      cases found : descriptor.widget with
      | none => simp [kind]
      | some widget => simp [kind]
    | rgblevelsHandle =>
      cases read : darkroom.readRgblevels state descriptor with
      | none => simp [kind, Reading.ofParameter]
      | some number => simp [kind, Reading.ofParameter]
    | colorzonesBand =>
      cases read : darkroom.readColorzones state descriptor with
      | none => simp [kind, Reading.ofParameter]
      | some number => simp [kind, Reading.ofParameter]
  · simp [kind]

/-- A float operation is the only one whose rejection can go without an error. -/
theorem validateFloatOperation_silent {operation : ChatOperation ν} :
    validateFloatOperation darkroom state operation = .error none ↔
      ∃ descriptor, catalogFindDescriptor darkroom state operation.actionPath operation.settingId = .ok descriptor ∧
        validateWhiteBalanceOperation darkroom state operation descriptor = .ok () ∧
        readDescriptorFloatValue darkroom state descriptor = .error none := by
  rw [validateFloatOperation, bind_silent (findDescriptor_loud operation)]
  refine exists_congr fun descriptor => and_congr findDescriptor_ok ?_
  rw [bind_silent (validateWhiteBalanceOperation_loud operation descriptor)]
  rw [Unique.exists_iff]
  refine and_congr_right fun _ => ?_
  cases readDescriptorFloatValue darkroom state descriptor with
  | error error => simp [bind, Except.bind]
  | ok number =>
    cases operation.valueMode with
    | none => simp [bind, Except.bind]
    | some mode => simp only [bind, Except.bind]; split_ifs <;> simp

theorem validateFloatOperation_ok {operation : ChatOperation ν} :
    validateFloatOperation darkroom state operation = .ok () ↔
      ∃ descriptor, catalogFindDescriptor darkroom state operation.actionPath operation.settingId = .ok descriptor ∧
        validateWhiteBalanceOperation darkroom state operation descriptor = .ok () ∧
        ∃ number, readDescriptorFloatValue darkroom state descriptor = .ok number ∧
          descriptor.supportsMode operation.valueMode := by
  rw [validateFloatOperation, bind_ok]
  refine exists_congr fun descriptor => and_congr findDescriptor_ok ?_
  rw [bind_ok, Unique.exists_iff]
  refine and_congr_right fun _ => ?_
  rw [bind_ok]
  refine exists_congr fun number => and_congr_right fun _ => ?_
  cases operation.valueMode with
  | none => simp [ActionDescriptor.supportsMode]
  | some mode => simp

/-- The validator rejects without an error exactly the operations on unreadable controls. -/
theorem validateOperation_silent {operation : ChatOperation ν} :
    validateOperation darkroom state operation = .error none ↔ Unreadable darkroom state operation := by
  unfold validateOperation Unreadable
  by_cases planned : operation.status = "planned"
  · by_cases target : operation.targetType = darktableAction
    · cases operation.kind with
      | none => simp [planned, target]
      | some kind =>
        cases kind with
        | setFloat =>
          simp only [planned, target, ne_eq, not_true_eq_false, if_false, true_and,
            validateFloatOperation_silent, readDescriptorFloatValue_silent]
        | setChoice => simp [planned, target, validateChoiceOperation_loud]
        | setBool => simp [planned, target, validateBoolOperation_loud]
    · simp [planned, target]
  · simp [planned]

theorem firstRejection_some {operations : List (ChatOperation ν)} {rejection : Rejection ν}
    (found : firstRejection darkroom state operations = some rejection) :
    operations = rejection.before ++ rejection.operation :: rejection.behind ∧
      (∀ earlier ∈ rejection.before, validateOperation darkroom state earlier = .ok ()) ∧
      validateOperation darkroom state rejection.operation = .error rejection.error := by
  induction operations generalizing rejection with
  | nil => simp [firstRejection] at found
  | cons operation rest ih =>
    cases valid : validateOperation darkroom state operation with
    | error error =>
      simp only [firstRejection, valid, Option.some.injEq] at found
      subst found
      exact ⟨rfl, by simp, valid⟩
    | ok =>
      simp only [firstRejection, valid, Option.map_eq_some_iff] at found
      obtain ⟨later, inRest, rfl⟩ := found
      obtain ⟨split, earlier, rejected⟩ := ih inRest
      exact ⟨congrArg (operation :: ·) split, List.forall_mem_cons.mpr ⟨valid, earlier⟩, rejected⟩

theorem firstRejection_split {before behind : List (ChatOperation ν)} {operation : ChatOperation ν}
    {error : Option String} (earlier : ∀ operation ∈ before, validateOperation darkroom state operation = .ok ())
    (rejected : validateOperation darkroom state operation = .error error) :
    firstRejection darkroom state (before ++ operation :: behind) = some ⟨before, operation, error, behind⟩ := by
  induction before with
  | nil => simp [firstRejection, rejected]
  | cons first rest ih =>
    obtain ⟨accepted, others⟩ := List.forall_mem_cons.mp earlier
    simp [firstRejection, accepted, ih others]

theorem firstRejection_none {operations : List (ChatOperation ν)} :
    firstRejection darkroom state operations = none ↔
      ∀ operation ∈ operations, validateOperation darkroom state operation = .ok () := by
  induction operations with
  | nil => simp [firstRejection]
  | cons operation rest ih =>
    cases valid : validateOperation darkroom state operation with
    | error error => simp [firstRejection, valid]
    | ok => simp [firstRejection, valid, ih]

theorem executeSetFloatOperation_not_blocked {operation : ChatOperation ν}
    (quiet : ∀ text, validateFloatOperation darkroom state operation ≠ .error (some text)) :
    (executeSetFloatOperation darkroom state operation).result.status ≠ .blocked := by
  unfold executeSetFloatOperation
  cases validated : validateFloatOperation darkroom state operation with
  | error error =>
    cases error with
    | some text => exact absurd validated (quiet text)
    | none =>
      obtain ⟨descriptor, found, -, unread⟩ := validateFloatOperation_silent.mp validated
      simp [found, unread, setFailed, resultOf]
  | ok =>
    obtain ⟨descriptor, found, -, number, read, supported⟩ := validateFloatOperation_ok.mp validated
    cases mode : operation.valueMode with
    | none => simp [mode, ActionDescriptor.supportsMode] at supported
    | some mode =>
      rw [mode] at supported
      simp only [found, read, supported, not_true_eq_false, if_false]
      split <;> simp [setFailed, setApplied, resultOf]

/-- Where the validator accepted or failed silently, executing does not block: it writes or fails. -/
theorem executeOperation_not_blocked {operation : ChatOperation ν}
    (quiet : ∀ text, validateOperation darkroom state operation ≠ .error (some text)) :
    (executeOperation darkroom state operation).result.status ≠ .blocked := by
  unfold validateOperation at quiet
  unfold executeOperation
  by_cases planned : operation.status = "planned"
  · by_cases target : operation.targetType = darktableAction
    · cases kind : operation.kind with
      | none => simp [planned, target, kind] at quiet
      | some kind' =>
        simp only [planned, target, kind, ne_eq, not_true_eq_false, if_false] at quiet ⊢
        cases kind' with
        | setFloat => exact executeSetFloatOperation_not_blocked quiet
        | setChoice =>
          cases validated : validateChoiceOperation darkroom state operation with
          | ok => exact executeSetChoiceOperation_not_blocked validated
          | error error =>
            cases error with
            | none => exact absurd validated (validateChoiceOperation_loud operation)
            | some text => exact absurd validated (quiet text)
        | setBool =>
          cases validated : validateBoolOperation darkroom state operation with
          | ok => exact executeSetBoolOperation_not_blocked validated
          | error error =>
            cases error with
            | none => exact absurd validated (validateBoolOperation_loud operation)
            | some text => exact absurd validated (quiet text)
    · simp [planned, target] at quiet
  · simp [planned] at quiet

/-- The promise of the validation: once it rejects an operation of the batch, nothing is written and
every operation is reported as blocked. -/
def ValidationAtomic (darkroom : Darkroom σ ν W) (state : σ) (operations : List (ChatOperation ν)) : Prop :=
  darkroom.isCurrentView state →
    (∃ operation ∈ operations, validateOperation darkroom state operation ≠ .ok ()) →
    let executed := executeResponse darkroom state operations
    executed.writes = [] ∧ executed.state = state ∧
      executed.report.results.map (·.operationId) =
        (orderedOperationsForExecution operations).map (·.operationId) ∧
      ∀ result ∈ executed.report.results, result.status = .blocked

/-- The first operation the validation rejects, in execution order, is one on an unreadable control. -/
def StopsUnreadable (darkroom : Darkroom σ ν W) (state : σ) (operations : List (ChatOperation ν)) : Prop :=
  darkroom.isCurrentView state ∧ ∃ before operation behind,
    orderedOperationsForExecution operations = before ++ operation :: behind ∧
      (∀ earlier ∈ before, validateOperation darkroom state earlier = .ok ()) ∧
      Unreadable darkroom state operation

theorem executeResponse_blocked (inView : darkroom.isCurrentView state) {operations : List (ChatOperation ν)}
    {rejection : Rejection ν} {text : String}
    (found : firstRejection darkroom state (orderedOperationsForExecution operations) = some rejection)
    (loud : rejection.error = some text) :
    executeResponse darkroom state operations =
      ⟨state, [], blockedReport rejection text, false, some text⟩ := by
  obtain ⟨before, operation, error, behind⟩ := rejection
  obtain rfl : error = some text := loud
  simp only [executeResponse, inView, not_true_eq_false, if_false, found]

theorem executeResponse_silent (inView : darkroom.isCurrentView state) {operations : List (ChatOperation ν)}
    (quiet : ∀ rejection, firstRejection darkroom state (orderedOperationsForExecution operations) = some rejection →
      rejection.error = none) :
    executeResponse darkroom state operations =
      executeAll darkroom state (orderedOperationsForExecution operations) := by
  simp only [executeResponse, inView, not_true_eq_false, if_false]
  cases found : firstRejection darkroom state (orderedOperationsForExecution operations) with
  | none => rfl
  | some rejection =>
    obtain ⟨before, operation, error, behind⟩ := rejection
    obtain rfl : error = none := quiet _ found
    rfl

/-- The first result of a batch that runs is the one of its first operation. -/
theorem executeAll_head (operation : ChatOperation ν) (rest : List (ChatOperation ν)) :
    (executeOperation darkroom state operation).result ∈
      (executeAll darkroom state (operation :: rest)).report.results := by
  simp only [executeAll]
  split_ifs <;> simp [ExecutionReport.ofResults]

/-- Validation is atomic exactly when it is not an unreadable control that it stops at. -/
theorem executeResponse_validationAtomic_iff (darkroom : Darkroom σ ν W) (state : σ)
    (operations : List (ChatOperation ν)) :
    ValidationAtomic darkroom state operations ↔ ¬ StopsUnreadable darkroom state operations := by
  have sameMembers (operation : ChatOperation ν) :
      operation ∈ orderedOperationsForExecution operations ↔ operation ∈ operations :=
    (sortSelected_perm operations).mem_iff
  constructor
  · rintro atomic ⟨inView, before, operation, behind, split, earlier, unreadable⟩
    have rejected := validateOperation_silent.mpr unreadable
    have member : operation ∈ operations := (sameMembers operation).mp (split ▸ by simp)
    obtain ⟨-, -, -, blocked⟩ := atomic inView ⟨operation, member, by simp [rejected]⟩
    have quiet : ∀ rejection,
        firstRejection darkroom state (orderedOperationsForExecution operations) = some rejection →
        rejection.error = none := by
      intro rejection found
      rw [split, firstRejection_split earlier rejected] at found
      exact (Option.some.inj found) ▸ rfl
    rw [executeResponse_silent inView quiet, split] at blocked
    -- the head of the batch passed the validation or is the unreadable operation itself
    cases before with
    | nil =>
      refine executeOperation_not_blocked (fun text loud => ?_) (blocked _ (executeAll_head operation behind))
      simp [rejected] at loud
    | cons first others =>
      have accepted := earlier first List.mem_cons_self
      refine executeOperation_not_blocked (fun text loud => ?_) (blocked _ (executeAll_head first _))
      simp [accepted] at loud
  · intro loud inView rejected
    cases found : firstRejection darkroom state (orderedOperationsForExecution operations) with
    | none =>
      obtain ⟨operation, member, invalid⟩ := rejected
      exact absurd (firstRejection_none.mp found operation ((sameMembers operation).mpr member)) invalid
    | some rejection =>
      obtain ⟨split, earlier, invalid⟩ := firstRejection_some found
      cases error : rejection.error with
      | none =>
        exact absurd ⟨inView, rejection.before, rejection.operation, rejection.behind, split, earlier,
          validateOperation_silent.mp (error ▸ invalid)⟩ loud
      | some text =>
        rw [executeResponse_blocked inView found error, split]
        refine ⟨rfl, rfl, ?_, ?_⟩
        · simp [blockedReport, ExecutionReport.ofResults, blockedByPrevious, resultOf, Function.comp_def]
        · intro result member
          simp only [blockedReport, ExecutionReport.ofResults, List.mem_append, List.mem_map, List.mem_cons] at member
          rcases member with ⟨-, -, rfl⟩ | rfl | ⟨-, -, rfl⟩ <;> rfl

end Atomicity

/-! A slider, and a colour-zones band whose curve cannot be read. -/

def sampleDescriptor (settingId actionPath : String) (binding : DescriptorBinding) : ActionDescriptor ℚ Unit where
  moduleId := "module"
  moduleLabel := "module"
  capabilityId := settingId
  settingId := settingId
  label := settingId
  actionPath := actionPath
  operationKind := .setFloat
  supportsSet := true
  supportsDelta := true
  binding := binding
  widget := if binding = .widget then some () else none
  elementName := ""
  channelIndex := 0
  elementIndex := 0
  hasNumberRange := true
  minNumber := -3
  maxNumber := 4
  defaultNumber := 0
  stepNumber := 1 / 50
  choices := []
  defaultChoiceValue := none
  defaultBool := none

/-- A darkroom with one slider, whose value is the state. -/
def sliderRoom (descriptors : List (ActionDescriptor ℚ Unit)) : Darkroom ℚ ℚ Unit where
  isCurrentView _ := true
  chromaAdaptation _ := false
  candidates _ := some descriptors
  sliderGet value _ := value
  sliderSet _ _ value := value
  comboboxGetData _ _ := 0
  comboboxSetFromValue _ _ _ := none
  isToggleButton _ _ := false
  toggleGetActive _ _ := false
  toggleSetActive value _ _ := value
  readRgblevels _ _ := none
  writeRgblevels value _ _ := (value, none)
  readColorzones _ _ := none
  writeColorzones value _ _ := (value, none)

def setNumber (settingId actionPath : String) (number : ℚ) : ChatOperation ℚ where
  operationId := settingId
  sequence := 1
  kind := some .setFloat
  kindName := "set-float"
  status := "planned"
  targetType := darktableAction
  actionPath := actionPath
  settingId := settingId
  valueMode := some .set
  number := number
  hasChoiceValue := false
  choiceValue := 0
  choiceId := none
  hasBoolValue := false
  boolValue := false

/-- The band is rejected, and yet the slider in front of it is written. -/
theorem executeResponse_unreadableBand :
    ¬ ValidationAtomic
      (sliderRoom [sampleDescriptor "exposure" "iop/exposure/exposure" .widget,
        sampleDescriptor "band" "iop/colorzones/graph" .colorzonesBand])
      0 [setNumber "exposure" "iop/exposure/exposure" 1, setNumber "band" "iop/colorzones/graph" 0] := by
  intro atomic
  have silent := (atomic rfl ⟨setNumber "band" "iop/colorzones/graph" 0, by simp, by decide +kernel⟩).1
  exact absurd silent (by decide +kernel)

end DarktableAgent.Client
