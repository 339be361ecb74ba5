import DarktableAgent.Foundation.FirstOfKey
import DarktableAgent.Protocol.Parse

/-! The catalog of controls through which the client reads and writes an edit.

The darkroom's widgets and module parameters are an interface: a state `σ`,
numbers `ν`, widgets `W`, and the primitives that the catalog calls on them.
Every write primitive that is called leaves an entry in a trace.
-/

set_option autoImplicit false

namespace DarktableAgent.Client

open Foundation Protocol

/-- What the C code does with doubles: NaN tests, addition and the comparisons of `CLAMP`. -/
class Numeric (ν : Type) where
  isNan : ν → Bool
  add : ν → ν → ν
  less : ν → ν → Bool

instance : Numeric ℚ := ⟨fun _ => false, (· + ·), fun left right => decide (left < right)⟩

/-- `CLAMP(x, low, high)` -/
def clamp {ν : Type} [Numeric ν] (x low high : ν) : ν :=
  if Numeric.less high x then high else if Numeric.less x low then low else x

inductive DescriptorBinding where
  | widget
  | rgblevelsHandle
  | colorzonesBand
  deriving DecidableEq, Repr

structure DescriptorChoice where
  choiceValue : Int
  choiceId : String
  label : String
  deriving DecidableEq, Repr

structure ActionDescriptor (ν W : Type) where
  moduleId : String
  moduleLabel : String
  capabilityId : String
  settingId : String
  label : String
  actionPath : String
  operationKind : OperationKind
  supportsSet : Bool
  supportsDelta : Bool
  binding : DescriptorBinding
  widget : Option W
  elementName : String
  channelIndex : Nat
  elementIndex : Nat
  hasNumberRange : Bool
  minNumber : ν
  maxNumber : ν
  defaultNumber : ν
  stepNumber : ν
  choices : List DescriptorChoice
  defaultChoiceValue : Option Int
  defaultBool : Option Bool
  deriving DecidableEq, Repr

/-- The darkroom as the catalog uses it. `candidates` are the descriptors of all modules in
collection order, before duplicates are dropped; there are none without a develop state. -/
structure Darkroom (σ ν W : Type) where
  isCurrentView : σ → Bool
  chromaAdaptation : σ → Bool
  candidates : σ → Option (List (ActionDescriptor ν W))
  sliderGet : σ → W → ν
  sliderSet : σ → W → ν → σ
  comboboxGetData : σ → W → Int
  comboboxSetFromValue : σ → W → Int → Option σ
  isToggleButton : σ → W → Bool
  toggleGetActive : σ → W → Bool
  toggleSetActive : σ → W → Bool → σ
  readRgblevels : σ → ActionDescriptor ν W → Option ν
  writeRgblevels : σ → ActionDescriptor ν W → ν → σ × Option ν
  readColorzones : σ → ActionDescriptor ν W → Option ν
  writeColorzones : σ → ActionDescriptor ν W → ν → σ × Option ν

/-- A call of a write primitive. -/
inductive ControlWrite (ν : Type) where
  | number (settingId : String) (value : ν)
  | choice (settingId : String) (value : Int)
  | bool (settingId : String) (value : Bool)
  deriving DecidableEq, Repr

section Catalog

variable {σ ν W : Type}

def isActionPathAllowed (actionPath : String) : Bool := actionPath ≠ ""

/-- `_add_descriptor_unique` over the candidates: the first descriptor of a setting id stays. -/
def addDescriptorsUnique (seen : List String) : List (ActionDescriptor ν W) → List (ActionDescriptor ν W)
  | [] => []
  | descriptor :: rest =>
    if descriptor.settingId ∈ seen ∨ ¬ isActionPathAllowed descriptor.actionPath then
      addDescriptorsUnique seen rest
    else descriptor :: addDescriptorsUnique (descriptor.settingId :: seen) rest

theorem addDescriptorsUnique_eq (seen : List String) (candidates : List (ActionDescriptor ν W)) :
    addDescriptorsUnique seen candidates =
      firstOfKey (·.settingId) seen (candidates.filter (isActionPathAllowed ·.actionPath)) := by
  induction candidates generalizing seen with
  | nil => rfl
  | cons candidate rest ih =>
    unfold addDescriptorsUnique
    rw [ih, ih]
    by_cases allowed : isActionPathAllowed candidate.actionPath = true
    · simp [allowed, firstOfKey]
    · simp [allowed]

/-- Setting ids are kept once, and only for paths that are allowed. -/
theorem addDescriptorsUnique_spec (seen : List String) (candidates : List (ActionDescriptor ν W)) :
    ((addDescriptorsUnique seen candidates).map (·.settingId)).Nodup ∧
      ∀ descriptor ∈ addDescriptorsUnique seen candidates,
        descriptor.settingId ∉ seen ∧ isActionPathAllowed descriptor.actionPath := by
  rw [addDescriptorsUnique_eq]
  constructor
  · apply firstOfKey_nodup
  · intro descriptor member
    constructor
    · exact key_not_mem_seen _ member
    · have listed := (firstOfKey_sublist _ _ _).subset member
      exact (List.mem_filter.mp listed).2

theorem addDescriptorsUnique_sublist (seen : List String) (candidates : List (ActionDescriptor ν W)) :
    (addDescriptorsUnique seen candidates).Sublist candidates := by
  rw [addDescriptorsUnique_eq]
  exact (firstOfKey_sublist _ _ _).trans List.filter_sublist

variable (darkroom : Darkroom σ ν W) (state : σ)

def catalogCollectDescriptors : Except String (List (ActionDescriptor ν W)) :=
  match darkroom.candidates state with
  | none => .error "missing darkroom state"
  | some candidates => .ok (addDescriptorsUnique [] candidates)

/-- An operation without a setting id matches by action path alone. -/
def descriptorMatches (actionPath settingId : String) (descriptor : ActionDescriptor ν W) : Bool :=
  descriptor.actionPath = actionPath && (settingId = "" || descriptor.settingId = settingId)

def catalogFindDescriptor (actionPath settingId : String) : Except String (ActionDescriptor ν W) :=
  if ¬ isActionPathAllowed actionPath then .error ("unsupported action path: " ++ actionPath)
  else
    match catalogCollectDescriptors darkroom state with
    | .error text => .error text
    | .ok descriptors =>
      match descriptors.find? (descriptorMatches actionPath settingId) with
      | some descriptor => .ok descriptor
      | none => .error ("unsupported action path: " ++ actionPath)

/-- A listed descriptor is found by its own path and setting id. -/
theorem catalogFindDescriptor_of_listed {descriptors : List (ActionDescriptor ν W)}
    (collected : catalogCollectDescriptors darkroom state = .ok descriptors) {descriptor : ActionDescriptor ν W}
    (member : descriptor ∈ descriptors) (present : descriptor.settingId ≠ "") :
    catalogFindDescriptor darkroom state descriptor.actionPath descriptor.settingId = .ok descriptor := by
  have listed := collected
  unfold catalogCollectDescriptors at listed
  cases met : darkroom.candidates state with
  | none => simp [met] at listed
  | some candidates =>
    rw [met] at listed
    obtain rfl := Except.ok.inj listed
    obtain ⟨distinct, kept⟩ := addDescriptorsUnique_spec [] candidates
    have found : (addDescriptorsUnique [] candidates).find?
        (descriptorMatches descriptor.actionPath descriptor.settingId) = some descriptor := by
      apply find?_of_distinct _ distinct member
      · simp [descriptorMatches]
      · intro other _ isMatch
        simp only [descriptorMatches, Bool.and_eq_true, Bool.or_eq_true, decide_eq_true_eq, present, false_or]
          at isMatch
        exact isMatch.2
    simp only [catalogFindDescriptor, (kept descriptor member).2, not_true_eq_false, if_false, collected, found]

def ActionDescriptor.supportsMode (descriptor : ActionDescriptor ν W) : Option OperationMode → Bool
  | some .set => descriptor.supportsSet
  | some .delta => descriptor.supportsDelta
  | none => false

/-- The outcome of a read. A failed read may or may not have set an error. -/
inductive Reading (ν : Type) where
  | value (number : ν)
  | failed (error : Option String)

/-- A read of a module parameter fails without a message. -/
def Reading.ofParameter : Option ν → Reading ν
  | some number => .value number
  | none => .failed none

def catalogReadCurrentNumber (descriptor : ActionDescriptor ν W) : Reading ν :=
  if descriptor.operationKind ≠ .setFloat then .failed (some "agent action descriptor is incomplete")
  else
    match descriptor.binding with
    | .widget =>
      match descriptor.widget with
      | some widget => .value (darkroom.sliderGet state widget)
      | none => .failed (some "agent action descriptor is incomplete")
    | .rgblevelsHandle => .ofParameter (darkroom.readRgblevels state descriptor)
    | .colorzonesBand => .ofParameter (darkroom.readColorzones state descriptor)

def catalogReadCurrentChoice (descriptor : ActionDescriptor ν W) : Except String (Int × Option String) :=
  match descriptor.widget with
  | none => .error "agent choice descriptor is incomplete"
  | some widget =>
    if descriptor.operationKind ≠ .setChoice then .error "agent choice descriptor is incomplete"
    else
      let value := darkroom.comboboxGetData state widget
      .ok (value, (descriptor.choices.find? (·.choiceValue = value)).map (·.choiceId))

def catalogReadCurrentBool (descriptor : ActionDescriptor ν W) : Except String Bool :=
  match descriptor.widget with
  | none => .error "agent bool descriptor is incomplete"
  | some widget =>
    if descriptor.operationKind ≠ .setBool then .error "agent bool descriptor is incomplete"
    else if darkroom.isToggleButton state widget then .ok (darkroom.toggleGetActive state widget)
    else .ok (darkroom.comboboxGetData state widget ≠ 0)

/-- The state after a write, the calls it made, and the value read back or the error. -/
structure Written (σ ν α : Type) where
  state : σ
  writes : List (ControlWrite ν)
  result : Except (Option String) α

variable [Numeric ν]

def catalogClampNumber (descriptor : ActionDescriptor ν W) (requested : ν) : ν :=
  if descriptor.hasNumberRange then clamp requested descriptor.minNumber descriptor.maxNumber else requested

def catalogWriteNumber (descriptor : ActionDescriptor ν W) (requested : ν) : Written σ ν ν :=
  if descriptor.operationKind ≠ .setFloat then
    ⟨state, [], .error (some "agent action descriptor is incomplete")⟩
  else
    let clamped := catalogClampNumber descriptor requested
    let write : ControlWrite ν := .number descriptor.settingId clamped
    match descriptor.binding with
    | .widget =>
      match descriptor.widget with
      | some widget =>
        let state := darkroom.sliderSet state widget clamped
        ⟨state, [write], .ok (darkroom.sliderGet state widget)⟩
      | none => ⟨state, [], .error (some "agent action descriptor is incomplete")⟩
    | .rgblevelsHandle =>
      let (state, applied) := darkroom.writeRgblevels state descriptor clamped
      ⟨state, [write], applied.elim (.error none) .ok⟩
    | .colorzonesBand =>
      let (state, applied) := darkroom.writeColorzones state descriptor clamped
      ⟨state, [write], applied.elim (.error none) .ok⟩

def catalogWriteChoice (descriptor : ActionDescriptor ν W) (requested : Int) : Written σ ν Int :=
  match descriptor.widget with
  | none => ⟨state, [], .error (some "agent choice descriptor is incomplete")⟩
  | some widget =>
    if descriptor.operationKind ≠ .setChoice then
      ⟨state, [], .error (some "agent choice descriptor is incomplete")⟩
    else
      match darkroom.comboboxSetFromValue state widget requested with
      | none =>
        ⟨state, [], .error (some ("unsupported choice value for action path: " ++ descriptor.actionPath))⟩
      | some state =>
        ⟨state, [.choice descriptor.settingId requested], .ok (darkroom.comboboxGetData state widget)⟩

def catalogWriteBool (descriptor : ActionDescriptor ν W) (requested : Bool) : Written σ ν Bool :=
  match descriptor.widget with
  | none => ⟨state, [], .error (some "agent bool descriptor is incomplete")⟩
  | some widget =>
    if descriptor.operationKind ≠ .setBool then
      ⟨state, [], .error (some "agent bool descriptor is incomplete")⟩
    else
      let written :=
        if darkroom.isToggleButton state widget then some (darkroom.toggleSetActive state widget requested)
        else darkroom.comboboxSetFromValue state widget (if requested then 1 else 0)
      match written with
      | none => ⟨state, [], .error (some ("failed to apply bool action path: " ++ descriptor.actionPath))⟩
      | some state =>
        -- a failed read-back leaves the out value at FALSE
        let applied := (catalogReadCurrentBool darkroom state descriptor).toOption.getD false
        ⟨state, [.bool descriptor.settingId requested], .ok applied⟩

end Catalog

end DarktableAgent.Client
