import DarktableAgent.Protocol.Agreement
import DarktableAgent.Client.ChatRequest
import DarktableAgent.Client.Descriptors
import DarktableAgent.Server.Envelope
import DarktableAgent.Server.ToolRouting

/-! The server accepts every request that the client builds.

The document is read member by member. What the validators check across members
holds because both collections go through the same descriptors.
-/

set_option autoImplicit false

namespace DarktableAgent.Refinement

open Foundation Protocol Client Server

/-- The validation library takes a value of the right JSON type as it is. -/
structure Exact (library : SchemaLibrary) : Prop where
  number : ∀ value, library.number (.real value) = some value
  integer : ∀ value, library.integer (.int value) = some value
  boolean : ∀ value, library.boolean (.bool value) = some value

section Members

variable {α : Type} {object : JsonObject} {member : String}

theorem textMember_found {text : String} (found : object.lookup member = some (.str text)) (present : text ≠ "") :
    textMember object member = some ⟨text, present⟩ := by
  rw [textMember, found]
  exact dif_pos present

theorem requiredMember_found {read : Json → Option α} {value : Json} (found : object.lookup member = some value) :
    requiredMember read object member = read value := by
  rw [requiredMember, found]
  rfl

theorem optionalMember_some {read : Json → Option α} {value : Json} {found : α}
    (written : object.lookup member = some value) (notNull : value ≠ .null) (exact : read value = some found) :
    optionalMember read object member = some (some found) := by
  rw [optionalMember, written]
  cases value with
  | null => exact absurd rfl notNull
  | _ => simp [exact]

theorem nullableMember_some {read : Json → Option α} {value : Json} {found : α}
    (written : object.lookup member = some value) (notNull : value ≠ .null) (exact : read value = some found) :
    nullableMember read object member = some (some found) := by
  rw [nullableMember, requiredMember_found written]
  cases value with
  | null => exact absurd rfl notNull
  | _ => simp [exact]

/-- A writer that the reader takes back, and that never writes null. -/
structure Readable {γ : Type} (read : Json → Option γ) (write : α → Json) (found : α → γ) : Prop where
  exact : ∀ value, read (write value) = some (found value)
  notNull : ∀ value, write value ≠ .null

variable {γ : Type} {read : Json → Option γ} {write : α → Json} {found : α → γ} (readable : Readable read write found)

theorem optionalMember_orNull {read : Json → Option α} (readable : Readable read write id) {value : Option α}
    (written : object.lookup member = some (orNull write value)) :
    optionalMember read object member = some value := by
  cases value with
  | none => rw [optionalMember, written]; rfl
  | some value => exact optionalMember_some written (readable.notNull value) (readable.exact value)

include readable in
theorem nullableMember_orNull {value : Option α} (written : object.lookup member = some (orNull write value)) :
    nullableMember read object member = some (value.map found) := by
  cases value with
  | none => rw [nullableMember, requiredMember_found written]; rfl
  | some value => exact nullableMember_some written (readable.notNull value) (readable.exact value)

end Members

section Scalars

variable {library : SchemaLibrary} (exact : Exact library)

theorem str_found {object : JsonObject} {member text : String} (written : object.lookup member = some (.str text)) :
    requiredMember Json.str? object member = some text := requiredMember_found written

theorem readable_str : Readable Json.str? .str id := ⟨fun _ => rfl, nofun⟩

include exact

theorem Exact.readable_real : Readable library.number .real id := ⟨exact.number, nofun⟩

theorem Exact.readable_int : Readable library.integer .int id := ⟨exact.integer, nofun⟩

theorem Exact.readable_bool : Readable library.boolean .bool id := ⟨exact.boolean, nofun⟩

end Scalars

section Documents

variable {library : SchemaLibrary} (exact : Exact library)

theorem objectOf_obj {α : Type} {members : List String} {read : JsonObject → Option α} {object : JsonObject}
    (known : onlyMembers members object = true) : objectOf members read (.obj object) = read object := by
  rw [objectOf, guard_true known]
  rfl

theorem validateMessage_json {text : String} (present : text ≠ "") :
    validateMessage (.obj [("role", .str "user"), ("text", .str text)]) = some () := by
  rw [validateMessage, objectOf_obj rfl]
  exact read_then ((requiredMember_found rfl).trans rfl) <| read_then (textMember_found rfl present) <| rfl

include exact

theorem Exact.number_found {object : JsonObject} {member : String} {value : ℚ}
    (written : object.lookup member = some (.real value)) : requiredMember library.number object member = some value :=
  (requiredMember_found written).trans (exact.number value)

theorem Exact.integer_found {object : JsonObject} {member : String} {value : Int}
    (written : object.lookup member = some (.int value)) : requiredMember library.integer object member = some value :=
  (requiredMember_found written).trans (exact.integer value)

theorem Exact.boolean_found {object : JsonObject} {member : String} {value : Bool}
    (written : object.lookup member = some (.bool value)) : requiredMember library.boolean object member = some value :=
  (requiredMember_found written).trans (exact.boolean value)

theorem validateMetadata_json (metadata : ImageMetadata) :
    validateMetadata library (.obj metadata.json) = some () := by
  rw [validateMetadata, objectOf_obj rfl]
  exact read_then (nullableMember_orNull exact.readable_int rfl) <|
    read_then (nullableMember_orNull readable_str rfl) <| read_then (nullableMember_orNull readable_str rfl) <|
    read_then (nullableMember_orNull readable_str rfl) <| read_then (exact.integer_found rfl) <|
    read_then (exact.integer_found rfl) <| read_then (exact.number_found rfl) <|
    read_then (exact.number_found rfl) <| read_then (exact.number_found rfl) <|
    read_then (exact.number_found rfl) <| rfl

theorem validateHistoryItem_json (item : HistoryItem) : validateHistoryItem library (.obj item.json) = some () := by
  rw [validateHistoryItem, objectOf_obj rfl]
  exact read_then (exact.integer_found rfl) <| read_then (nullableMember_orNull readable_str rfl) <|
    read_then (exact.boolean_found rfl) <| read_then (exact.integer_found rfl) <|
    read_then (nullableMember_orNull readable_str rfl) <| read_then (exact.integer_found rfl) <| rfl

theorem validatePreview_json {imageId historyEnd : Int} (pixbuf : EncodedPixbuf) :
    validatePreview library (collectPreviewFromPixbuf imageId historyEnd pixbuf).json = some () := by
  have named : (collectPreviewFromPixbuf imageId historyEnd pixbuf).previewId ≠ "" := by
    simp [collectPreviewFromPixbuf, String.append_eq_empty_iff]
  rw [validatePreview, Preview.json, objectOf_obj rfl]
  exact read_then (textMember_found rfl named) <|
    read_then (textMember_found rfl (show "image/jpeg" ≠ "" by decide)) <| read_then (exact.integer_found rfl) <|
    read_then (exact.integer_found rfl) <| read_then (guard_true ⟨pixbuf.widthPositive, pixbuf.heightPositive⟩) <|
    read_then (textMember_found rfl pixbuf.base64DataPresent) <| rfl

theorem validateHistogramChannel_json {bins : List Nat} (sized : bins.length = 256) :
    validateHistogramChannel library (serializeBins bins) = some 256 := by
  obtain ⟨counts, read, same⟩ := mapM_read (fun count : Nat => .int count) library.integer (fun _ _ => True)
    fun count (_ : count ∈ bins) => ⟨count, exact.integer count, trivial⟩
  have length : counts.length = 256 := same.length_eq.symm.trans sized
  rw [validateHistogramChannel, serializeBins, objectOf_obj rfl]
  have listed : listOf library.integer (.arr (bins.map fun count : Nat => .int count)) = some counts := read
  exact read_then ((requiredMember_found rfl).trans listed) <|
    read_then (guard_true (by rw [← List.length_pos_iff, length]; decide)) <| congrArg some length

theorem validateHistogram_json (histogram : HistogramBins) :
    validateHistogram library histogram.json = some () := by
  have channel {bins : List Nat} (member : bins ∈ [histogram.red, histogram.green, histogram.blue, histogram.luma]) :
      validateHistogramChannel library (serializeBins bins) = some 256 :=
    validateHistogramChannel_json exact (histogram.sized bins member)
  rw [validateHistogram, HistogramBins.json, objectOf_obj rfl]
  have lengths : [("red", serializeBins histogram.red), ("green", serializeBins histogram.green),
      ("blue", serializeBins histogram.blue), ("luma", serializeBins histogram.luma)].mapM
      (fun channel => validateHistogramChannel library channel.2) = some [256, 256, 256, 256] := by
    simp [channel]
  exact read_then (exact.integer_found rfl) <| read_then (guard_true (by decide)) <|
    read_then ((requiredMember_found rfl).trans rfl) <| read_then (guard_true (by simp)) <| read_then lengths <|
    guard_true (by decide)

end Documents

section Controls

variable {library : SchemaLibrary} (exact : Exact library)

/-- The options of a control as the server reads them: null unless the control is a choice. -/
structure ChoicesRead (kind : OperationKind) (choices : List DescriptorChoice) (found : Option (List ChoiceOption)) :
    Prop where
  listed : found.isSome ↔ kind = .setChoice
  entries : (found.getD []).map (fun choice => (choice.choiceValue, choice.choiceId, choice.label)) =
    choices.map fun choice => (choice.choiceValue, choice.choiceId, choice.label)

theorem modes_found {object : JsonObject} {supportsSet supportsDelta : Bool}
    (written : object.lookup "supportedModes" = some (serializeModes supportsSet supportsDelta)) :
    requiredMember (listOf (literalOf operationModes)) object "supportedModes" =
      some ((if supportsSet then [.set] else []) ++ if supportsDelta then [.delta] else []) := by
  rw [requiredMember_found written]
  cases supportsSet <;> cases supportsDelta <;> rfl

theorem kind_found {object : JsonObject} {kind : OperationKind} (written : object.lookup "kind" = some (.str kind.name)) :
    requiredMember (literalOf operationKinds) object "kind" = some kind := by
  rw [requiredMember_found written]
  cases kind <;> rfl

include exact

theorem bound_found {object : JsonObject} {member : String} {kind : OperationKind} {number : ℚ}
    (written : object.lookup member = some (serializeBound kind number)) :
    optionalMember library.number object member = some (if kind = .setFloat then some number else none) := by
  rw [optionalMember, written, serializeBound]
  split_ifs
  · simp [exact.number]
  · rfl

theorem validateChoiceOption_json {option : DescriptorChoice} (present : option.choiceId ≠ "" ∧ option.label ≠ "") :
    validateChoiceOption library (serializeChoiceOption option) =
      some ⟨option.choiceValue, option.choiceId, option.label, present.1, present.2⟩ := by
  rw [validateChoiceOption, serializeChoiceOption, objectOf_obj rfl]
  exact read_then (exact.integer_found rfl) <| read_then (textMember_found rfl present.1) <|
    read_then (textMember_found rfl present.2) <| rfl

theorem choices_found {kind : OperationKind} {choices : List DescriptorChoice}
    (present : ∀ choice ∈ choices, choice.choiceId ≠ "" ∧ choice.label ≠ "")
    (none : kind ≠ .setChoice → choices = []) :
    ∃ found, ChoicesRead kind choices found ∧ ∀ object : JsonObject,
      object.lookup "choices" = some (serializeChoiceOptions (choiceArray kind choices)) →
        optionalMember (listOf (validateChoiceOption library)) object "choices" = some found := by
  by_cases choice : kind = .setChoice
  · obtain ⟨found, read, related⟩ := mapM_read serializeChoiceOption (validateChoiceOption library)
      (fun option found => (found.choiceValue, found.choiceId, found.label) =
        (option.choiceValue, option.choiceId, option.label))
      fun option member => ⟨_, validateChoiceOption_json exact (present option member), rfl⟩
    refine ⟨some found, ⟨by simp [choice], ?_⟩, fun object written => ?_⟩
    · exact (List.forall₂_eq_eq_eq ▸ (List.forall₂_map_left_iff.mpr (List.forall₂_map_right_iff.mpr related.flip)) :)
    · rw [choiceArray, if_pos choice] at written
      exact optionalMember_some written nofun read
  · refine ⟨Option.none, ⟨by simp [choice], by simp [none choice]⟩, fun object written => ?_⟩
    rw [choiceArray, if_neg choice] at written
    rw [optionalMember, written]
    rfl

end Controls

section Descriptors

variable {library : SchemaLibrary} (exact : Exact library) {W : Type} {descriptor : ActionDescriptor ℚ W}

def descriptorModes (descriptor : ActionDescriptor ℚ W) : List OperationMode :=
  (if descriptor.supportsSet then [.set] else []) ++ if descriptor.supportsDelta then [.delta] else []

def descriptorBound (descriptor : ActionDescriptor ℚ W) (number : ℚ) : Option ℚ :=
  if descriptor.operationKind = .setFloat then some number else none

/-- The capability that the server reads, given the options it has read. -/
def capabilityRead (descriptor : ActionDescriptor ℚ W) (choices : Option (List ChoiceOption)) : CapabilityMembers where
  moduleId := descriptor.moduleId
  moduleLabel := descriptor.moduleLabel
  capabilityId := descriptor.capabilityId
  label := descriptor.label
  kind := descriptor.operationKind
  actionPath := descriptor.actionPath
  supportedModes := descriptorModes descriptor
  minNumber := descriptorBound descriptor descriptor.minNumber
  maxNumber := descriptorBound descriptor descriptor.maxNumber
  defaultNumber := descriptorBound descriptor descriptor.defaultNumber
  stepNumber := descriptorBound descriptor descriptor.stepNumber
  choices := choices
  defaultChoiceValue := descriptor.defaultChoiceValue
  defaultBool := descriptor.defaultBool

theorem ChoicesRead.values {kind : OperationKind} {choices : List DescriptorChoice} {found : Option (List ChoiceOption)}
    (read : ChoicesRead kind choices found) :
    (found.getD []).map (·.choiceValue) = choices.map (·.choiceValue) := by
  simpa [Function.comp_def] using congrArg (List.map (·.1)) read.entries

theorem ChoicesRead.ids {kind : OperationKind} {choices : List DescriptorChoice} {found : Option (List ChoiceOption)}
    (read : ChoicesRead kind choices found) : (found.getD []).map (·.choiceId) = choices.map (·.choiceId) := by
  simpa [Function.comp_def] using congrArg (List.map (·.2.1)) read.entries

/-- The value-shape rules hold for whatever the catalog describes. -/
theorem capabilityRead_shape (shape : ValueShape descriptor) {choices : Option (List ChoiceOption)}
    (read : ChoicesRead descriptor.operationKind descriptor.choices choices) :
    (capabilityRead descriptor choices).validateValueShape = .ok () := by
  have settable := shape.settable
  have delta := shape.delta
  have defaultBool := shape.defaultBool
  have defaultChoice := shape.defaultChoice
  have listed := read.listed
  unfold CapabilityMembers.validateValueShape
  rw [rejectIf_ok]
  cases kind : descriptor.operationKind with
  | setFloat =>
    obtain ⟨lower, upper, step⟩ := shape.range kind
    simp only [kind, reduceCtorEq, iff_false, iff_true] at delta defaultBool defaultChoice listed
    have ordered := lower.trans upper
    simp [capabilityRead, descriptorModes, descriptorBound, kind, settable, delta, exceeds, ordered, lower, upper, step,
      defaultBool, defaultChoice, listed]
  | setChoice =>
    obtain ⟨value, member, defaulted⟩ := shape.default kind
    have values := read.values
    have ids := read.ids
    have present : choices.getD [] ≠ [] := by
      intro none
      rw [← values, none] at member
      cases member
    simp only [kind, reduceCtorEq, iff_false] at delta defaultBool
    simpa [capabilityRead, descriptorModes, descriptorBound, kind, settable, delta, defaultBool, defaulted, present,
      values, ids, shape.values kind, shape.ids kind] using member
  | setBool =>
    simp only [kind, reduceCtorEq, iff_false, iff_true] at delta defaultBool defaultChoice listed
    simp [capabilityRead, descriptorModes, descriptorBound, kind, settable, delta, defaultBool, defaultChoice, listed]

theorem descriptorModes_present (shape : ValueShape descriptor) : descriptorModes descriptor ≠ [] := by
  simp [descriptorModes, shape.settable]

include exact

theorem readCapability_json {choices : Option (List ChoiceOption)}
    (read : ∀ object : JsonObject,
      object.lookup "choices" = some (serializeChoiceOptions (choiceArray descriptor.operationKind descriptor.choices)) →
        optionalMember (listOf (validateChoiceOption library)) object "choices" = some choices) :
    readCapability library (capabilityOfDescriptor descriptor).json = some (capabilityRead descriptor choices) := by
  unfold readCapability
  exact read_then ((requiredMember_found rfl).trans rfl) <| read_then (str_found rfl) <|
    read_then (str_found rfl) <| read_then (str_found rfl) <|
    read_then (str_found rfl) <| read_then (kind_found rfl) <| read_then (str_found rfl) <|
    read_then (modes_found rfl) <| read_then (bound_found exact rfl) <| read_then (bound_found exact rfl) <|
    read_then (bound_found exact rfl) <| read_then (bound_found exact rfl) <| read_then (read _ rfl) <|
    read_then (optionalMember_orNull exact.readable_int rfl) <|
    read_then (optionalMember_orNull exact.readable_bool rfl) <| rfl

theorem validateCapability_json (wellFormed : WellFormed descriptor) {choices : Option (List ChoiceOption)}
    (options : ChoicesRead descriptor.operationKind descriptor.choices choices)
    (read : ∀ object : JsonObject,
      object.lookup "choices" = some (serializeChoiceOptions (choiceArray descriptor.operationKind descriptor.choices)) →
        optionalMember (listOf (validateChoiceOption library)) object "choices" = some choices) :
    ∃ capability, validateCapability library (.obj (capabilityOfDescriptor descriptor).json) = some capability ∧
      capability.toCapabilityMembers = capabilityRead descriptor choices := by
  have texts : ∀ text ∈ [descriptor.moduleId, descriptor.moduleLabel, descriptor.capabilityId, descriptor.label,
      descriptor.actionPath], text ≠ "" := by
    have given := wellFormed.texts
    simp only [List.forall_mem_cons] at given ⊢
    exact ⟨given.1, given.2.1, wellFormed.capabilityId ▸ buildCapabilityId_ne_empty _, given.2.2⟩
  have accepted := And.intro texts <| And.intro (descriptorModes_present wellFormed.toValueShape) <|
    capabilityRead_shape wellFormed.toValueShape options
  refine ⟨⟨capabilityRead descriptor choices, accepted.1, accepted.2.1, accepted.2.2⟩, ?_, rfl⟩
  rw [validateCapability, objectOf_obj rfl]
  exact read_then (readCapability_json exact read) (dif_pos accepted)

end Descriptors

section Settings

variable {library : SchemaLibrary} (exact : Exact library) {σ W : Type} {darkroom : Darkroom σ ℚ W} {state : σ}
  {descriptor : ActionDescriptor ℚ W}

theorem settingTexts (wellFormed : WellFormed descriptor) : ∀ text ∈ [descriptor.moduleId, descriptor.moduleLabel,
    descriptor.settingId, descriptor.capabilityId, descriptor.label, descriptor.actionPath], text ≠ "" := by
  have given := wellFormed.texts
  simp only [List.forall_mem_cons] at given ⊢
  exact ⟨given.1, given.2.1, wellFormed.name.ne_empty, wellFormed.capabilityId ▸ buildCapabilityId_ne_empty _,
    given.2.2⟩

/-- The setting that the server reads, given the options it has read. -/
def settingRead (darkroom : Darkroom σ ℚ W) (state : σ) (wellFormed : WellFormed descriptor)
    (choices : Option (List ChoiceOption)) : EditableSetting :=
  let control := controlOfDescriptor darkroom state descriptor
  { moduleId := descriptor.moduleId
    moduleLabel := descriptor.moduleLabel
    settingId := descriptor.settingId
    capabilityId := descriptor.capabilityId
    label := descriptor.label
    actionPath := descriptor.actionPath
    kind := descriptor.operationKind
    supportedModes := descriptorModes descriptor
    currentNumber := control.currentNumber
    minNumber := descriptorBound descriptor descriptor.minNumber
    maxNumber := descriptorBound descriptor descriptor.maxNumber
    defaultNumber := descriptorBound descriptor descriptor.defaultNumber
    stepNumber := descriptorBound descriptor descriptor.stepNumber
    currentChoiceValue := control.currentChoiceValue
    currentChoiceId := control.currentChoiceId
    choices := choices
    defaultChoiceValue := descriptor.defaultChoiceValue
    currentBool := control.currentBool
    defaultBool := descriptor.defaultBool
    present := settingTexts wellFormed
    supportedModesPresent := descriptorModes_present wellFormed.toValueShape }

theorem settingRead_serialized (wellFormed : WellFormed descriptor) {choices : Option (List ChoiceOption)}
    (options : ChoicesRead descriptor.operationKind descriptor.choices choices) :
    SerializedAs (controlOfDescriptor darkroom state descriptor) (settingRead darkroom state wellFormed choices) where
  moduleId := rfl
  moduleLabel := rfl
  settingId := rfl
  capabilityId := rfl
  label := rfl
  kind := rfl
  actionPath := rfl
  supportedModes := rfl
  minNumber := rfl
  maxNumber := rfl
  defaultNumber := rfl
  stepNumber := rfl
  currentNumber := rfl
  choices := options.entries
  defaultChoiceValue := rfl
  currentChoiceValue := rfl
  currentChoiceId := rfl
  defaultBool := rfl
  currentBool := rfl

/-- The current value that the server asks for: every float is read, and a flag always can be. -/
theorem current_present (wellFormed : WellFormed descriptor)
    (readable : descriptor.operationKind = .setFloat →
      (catalogReadCurrentNumber darkroom state descriptor).toOption.isSome) :
    (descriptor.operationKind = .setFloat → (controlOfDescriptor darkroom state descriptor).currentNumber.isSome) ∧
      (descriptor.operationKind = .setBool → (controlOfDescriptor darkroom state descriptor).currentBool.isSome) := by
  constructor
  · intro kind
    simpa [controlOfDescriptor, kind] using readable kind
  · intro kind
    obtain ⟨widget, attached⟩ := Option.isSome_iff_exists.mp (wellFormed.attached kind)
    simp only [controlOfDescriptor, kind, catalogReadCurrentBool, attached]
    split_ifs <;> simp_all [Except.toOption]

/-- A setting agrees with the capability of its own descriptor. -/
theorem settingRead_consistent (wellFormed : WellFormed descriptor) {choices : Option (List ChoiceOption)}
    (options : ChoicesRead descriptor.operationKind descriptor.choices choices)
    (readable : descriptor.operationKind = .setFloat →
      (catalogReadCurrentNumber darkroom state descriptor).toOption.isSome)
    {capabilities : List Capability} {capability : Capability}
    (found : capabilities.find? (·.capabilityId = descriptor.capabilityId) = some capability)
    (same : capability.toCapabilityMembers = capabilityRead descriptor choices) :
    settingConsistency capabilities (settingRead darkroom state wellFormed choices) = .ok () := by
  obtain ⟨number, flag⟩ := current_present wellFormed readable
  have listed := options.listed
  have known : capabilities.find? (·.capabilityId = (settingRead darkroom state wellFormed choices).capabilityId) =
      some capability := found
  unfold settingConsistency
  rw [known]
  dsimp only
  rw [rejectIf_ok, same]
  simp only [settingRead]
  cases kind : descriptor.operationKind with
  | setFloat => simp [capabilityRead, kind, number kind]
  | setChoice =>
    simp only [kind, iff_true] at listed
    obtain ⟨entries, rfl⟩ := Option.isSome_iff_exists.mp listed
    simp [capabilityRead, kind]
  | setBool => simp [capabilityRead, kind, flag kind]

include exact

theorem validateEditableSetting_json (wellFormed : WellFormed descriptor) {choices : Option (List ChoiceOption)}
    (read : ∀ object : JsonObject,
      object.lookup "choices" = some (serializeChoiceOptions (choiceArray descriptor.operationKind descriptor.choices)) →
        optionalMember (listOf (validateChoiceOption library)) object "choices" = some choices) :
    validateEditableSetting library (.obj (controlOfDescriptor darkroom state descriptor).json) =
      some (settingRead darkroom state wellFormed choices) := by
  have accepted := And.intro (settingTexts wellFormed) (descriptorModes_present wellFormed.toValueShape)
  rw [validateEditableSetting, objectOf_obj rfl]
  exact read_then (str_found rfl) <| read_then (str_found rfl) <| read_then (str_found rfl) <|
    read_then (str_found rfl) <| read_then (str_found rfl) <| read_then (str_found rfl) <|
    read_then (kind_found rfl) <| read_then (modes_found rfl) <|
    read_then (optionalMember_orNull exact.readable_real rfl) <| read_then (bound_found exact rfl) <|
    read_then (bound_found exact rfl) <| read_then (bound_found exact rfl) <| read_then (bound_found exact rfl) <|
    read_then (optionalMember_orNull exact.readable_int rfl) <| read_then (optionalMember_orNull readable_str rfl) <|
    read_then (read _ rfl) <| read_then (optionalMember_orNull exact.readable_int rfl) <|
    read_then (optionalMember_orNull exact.readable_bool rfl) <|
    read_then (optionalMember_orNull exact.readable_bool rfl) <| dif_pos accepted

/-- Both collections of the catalog are accepted, and agree. -/
theorem catalog_accepted {descriptors : List (ActionDescriptor ℚ W)}
    (wellFormed : ∀ descriptor ∈ descriptors, WellFormed descriptor)
    (distinct : (descriptors.map (·.capabilityId)).Nodup)
    (readable : ∀ descriptor ∈ descriptors, descriptor.operationKind = .setFloat →
      (catalogReadCurrentNumber darkroom state descriptor).toOption.isSome) :
    ∃ capabilities settings,
      listOf (validateCapability library)
        (.arr ((descriptors.map capabilityOfDescriptor).map fun capability => .obj capability.json)) = some capabilities ∧
      listOf (validateEditableSetting library)
        (.arr ((descriptors.map (controlOfDescriptor darkroom state)).map fun control => .obj control.json)) =
          some settings ∧
      capabilities.map (·.capabilityId) = descriptors.map (·.capabilityId) ∧
      (∀ setting ∈ settings, settingConsistency capabilities setting = .ok ()) ∧
      List.Forall₂ SerializedAs (descriptors.map (controlOfDescriptor darkroom state)) settings := by
  have options (descriptor) (member : descriptor ∈ descriptors) :=
    choices_found exact (wellFormed descriptor member).options (wellFormed descriptor member).noChoices
  choose! choices optionsRead read using options
  obtain ⟨capabilities, capabilitiesRead, sameCapabilities⟩ := mapM_read
    (fun descriptor : ActionDescriptor ℚ W => .obj (capabilityOfDescriptor descriptor).json) (validateCapability library)
    (fun descriptor capability => capability.toCapabilityMembers = capabilityRead descriptor (choices descriptor))
    fun descriptor member =>
      validateCapability_json exact (wellFormed descriptor member) (optionsRead descriptor member) (read descriptor member)
  obtain ⟨settings, settingsRead, sameSettings⟩ := mapM_read
    (fun descriptor => .obj (controlOfDescriptor darkroom state descriptor).json) (validateEditableSetting library)
    (fun descriptor setting => ∃ member : descriptor ∈ descriptors,
      setting = settingRead darkroom state (wellFormed descriptor member) (choices descriptor))
    fun descriptor member => ⟨_, validateEditableSetting_json exact (wellFormed descriptor member) (read descriptor member),
      member, rfl⟩
  have ids : capabilities.map (·.capabilityId) = descriptors.map (·.capabilityId) := by
    rw [← List.forall₂_eq_eq_eq, List.forall₂_map_left_iff, List.forall₂_map_right_iff]
    exact (sameCapabilities.imp fun descriptor capability same => congrArg CapabilityMembers.capabilityId same).flip
  refine ⟨capabilities, settings, ?_, ?_, ids, fun setting inSettings => ?_, ?_⟩
  · simpa [listOf, Function.comp_def] using capabilitiesRead
  · simpa [listOf, Function.comp_def] using settingsRead
  · obtain ⟨descriptor, -, member, rfl⟩ := exists_related sameSettings.flip setting inSettings
    obtain ⟨capability, listed, same⟩ := exists_related sameCapabilities descriptor member
    have sameId : capability.capabilityId = descriptor.capabilityId := congrArg CapabilityMembers.capabilityId same
    have found := find?_by_key (fun capability : Capability => capability.capabilityId) (ids ▸ distinct) listed
    rw [sameId] at found
    exact settingRead_consistent (wellFormed descriptor member) (optionsRead descriptor member)
      (readable descriptor member) found same
  · rw [List.forall₂_map_left_iff]
    refine sameSettings.imp fun descriptor setting same => ?_
    obtain ⟨member, rfl⟩ := same
    exact settingRead_serialized (wellFormed descriptor member) (optionsRead descriptor member)

end Settings

section Requests

variable {library : SchemaLibrary} (exact : Exact library)

theorem validateSession_json {appSessionId imageSessionId conversationId turnId : String}
    (present : ∀ text ∈ [appSessionId, imageSessionId, conversationId, turnId], text ≠ "") :
    validateSession (.obj [("appSessionId", .str appSessionId), ("imageSessionId", .str imageSessionId),
      ("conversationId", .str conversationId), ("turnId", .str turnId)]) =
      some ⟨appSessionId, imageSessionId, conversationId, turnId, present⟩ := by
  rw [validateSession, objectOf_obj rfl]
  exact read_then (str_found rfl) <| read_then (str_found rfl) <| read_then (str_found rfl) <|
    read_then (str_found rfl) <| dif_pos present

theorem serializePasses_eq {passes : Nat} (positive : passes ≠ 0) (fits : passes < 2 ^ 31) :
    serializePasses passes = .int passes := by
  rw [serializePasses, toGint_of_fits (by omega) (by omega)]
  congr 1
  omega

theorem buildImageRevisionId_ne_empty (request : ChatRequest) : buildImageRevisionId request ≠ "" := by
  unfold buildImageRevisionId
  dsimp only
  split_ifs with given
  · exact given
  · split
    · simp [String.append_eq_empty_iff]
    · decide

theorem validateManifest_json {capabilities : List AgentCapability} {targets : List Capability}
    (read : listOf (validateCapability library) (.arr (capabilities.map fun capability => .obj capability.json)) =
      some targets)
    (accepted : targets ≠ [] ∧ (targets.map (·.capabilityId)).Nodup) :
    validateManifest library (.obj [("manifestVersion", .str "darktable-agent-live"),
      ("targets", .arr (capabilities.map fun capability => .obj capability.json))]) = some ⟨targets, accepted⟩ := by
  rw [validateManifest, objectOf_obj rfl]
  exact read_then (textMember_found rfl (by decide)) <| read_then ((requiredMember_found rfl).trans read) <|
    dif_pos accepted

include exact

theorem validateUiContext_json {view : String} (present : view ≠ "") (context : UiContext) :
    validateUiContext library (.obj [("view", .str view), ("imageId", orNull .int context.imageId),
      ("imageName", orNull .str context.imageName)]) = some () := by
  rw [validateUiContext, objectOf_obj rfl]
  exact read_then (textMember_found rfl present) <| read_then (nullableMember_orNull exact.readable_int rfl) <|
    read_then (nullableMember_orNull readable_str rfl) <| rfl

/-- A refinement setting that the serializer lets through is one that the server accepts. -/
theorem validateRefinement_json {mode : RefinementMode} {enabled : Bool} {passIndex maxPasses : Nat} {goalText : String}
    (agrees : enabled = decide (mode = .multiTurn)) (started : passIndex ≠ 0) (planned : maxPasses ≠ 0)
    (within : passIndex ≤ maxPasses) (single : enabled = false → passIndex = 1 ∧ maxPasses = 1)
    (fits : maxPasses < 2 ^ 31) (goal : goalText ≠ "") :
    ∃ refinement, validateRefinement library (.obj [("mode", .str mode.name), ("enabled", .bool enabled),
      ("passIndex", serializePasses passIndex), ("maxPasses", serializePasses maxPasses), ("goalText", .str goalText)]) =
      some refinement := by
  have accepted : (1 : Int) ≤ maxPasses ∧ (1 : Int) ≤ passIndex ∧ rejectIf [
      (mode != (if enabled then .multiTurn else .singleTurn), "refinement mode does not match enabled flag"),
      (decide ((maxPasses : Int) < passIndex), "refinement passIndex must be <= maxPasses"),
      (!enabled && (maxPasses : Int) != 1, "single-turn refinement must use maxPasses=1"),
      (!enabled && (passIndex : Int) != 1, "single-turn refinement must use passIndex=1")] = .ok () := by
    refine ⟨by omega, by omega, rejectIf_ok.mpr ?_⟩
    cases mode with
    | singleTurn =>
      obtain rfl : enabled = false := agrees
      obtain ⟨rfl, rfl⟩ := single rfl
      simp
    | multiTurn =>
      obtain rfl : enabled = true := agrees
      simpa using within
  have named : literalOf refinementModes (.str mode.name) = some mode := by cases mode <;> rfl
  rw [validateRefinement, objectOf_obj rfl, serializePasses_eq started (by omega), serializePasses_eq planned fits]
  exact ⟨_, read_then ((requiredMember_found rfl).trans named) <| read_then (exact.boolean_found rfl) <|
    read_then (exact.integer_found rfl) <| read_then (exact.integer_found rfl) <|
    read_then (textMember_found rfl goal) <| dif_pos accepted⟩

theorem validateImageSnapshot_json {σ W : Type} {darkroom : Darkroom σ ℚ W} {state : σ} {dev : Develop}
    {request : ChatRequest} (reported : request.imageState = imageStateCollectFromDev darkroom state dev)
    {settings : List EditableSetting}
    (read : listOf (validateEditableSetting library)
      (.arr (request.imageState.controls.map fun control => .obj control.json)) = some settings) :
    validateImageSnapshot library (.obj (serializeImageSnapshot request)) =
      some ⟨buildImageRevisionId request, settings, buildImageRevisionId_ne_empty request⟩ := by
  have history : listOf (validateHistoryItem library)
      (.arr (request.imageState.history.map fun item => .obj item.json)) =
        some (request.imageState.history.map fun _ => ()) := by
    obtain ⟨found, itemsRead, same⟩ := mapM_read (fun item : HistoryItem => .obj item.json) (validateHistoryItem library)
      (fun _ _ => True) fun item (_ : item ∈ request.imageState.history) =>
        ⟨(), validateHistoryItem_json exact item, trivial⟩
    refine Eq.trans itemsRead (congrArg some ?_)
    exact List.ext_getElem (by simpa using same.length_eq.symm) fun _ _ _ => rfl
  have preview : ∃ found, nullableMember (validatePreview library) (serializeImageSnapshot request) "preview" =
      some found := by
    cases taken : request.imageState.preview with
    | none =>
      refine ⟨none, ?_⟩
      rw [nullableMember]
      simp [requiredMember, serializeImageSnapshot, lookup_cons_if, taken, orNull]
    | some preview =>
      refine ⟨some (), nullableMember_some (show _ = some preview.json from ?_) nofun ?_⟩
      · simp [serializeImageSnapshot, lookup_cons_if, taken, orNull]
      · rw [reported] at taken
        simp only [imageStateCollectFromDev, Option.bind_eq_bind, Option.bind_eq_some_iff] at taken
        obtain ⟨imageId, -, jpeg, -, same⟩ := taken
        rw [← Option.some.inj same]
        exact validatePreview_json exact jpeg
  obtain ⟨previewFound, preview⟩ := preview
  have histogram : Readable (validateHistogram library) HistogramBins.json fun _ => () :=
    ⟨validateHistogram_json exact, nofun⟩
  rw [validateImageSnapshot, objectOf_obj rfl]
  exact read_then (textMember_found rfl (buildImageRevisionId_ne_empty request)) <|
    read_then ((requiredMember_found rfl).trans (validateMetadata_json exact _)) <|
    read_then (exact.integer_found rfl) <| read_then (exact.integer_found rfl) <|
    read_then ((requiredMember_found rfl).trans read) <| read_then ((requiredMember_found rfl).trans history) <|
    read_then preview <| read_then (nullableMember_orNull histogram rfl) <| rfl

end Requests

section Built

variable {σ W : Type} {darkroom : Darkroom σ ℚ W} {state : σ} {dev : Develop} {ids : ChatIds} {messageText : String}
  {request : ChatRequest}

/-- What the client has put into a request that it built. -/
structure BuiltFor (darkroom : Darkroom σ ℚ W) (state : σ) (dev : Develop) (ids : ChatIds) (messageText : String)
    (maxPasses : Nat) (descriptors : List (ActionDescriptor ℚ W)) (request : ChatRequest) : Prop where
  schemaVersion : request.schemaVersion = some "3.0"
  requestId : request.requestId = some ids.requestId
  appSessionId : request.appSessionId = some ids.appSessionId
  imageSessionId : request.imageSessionId = ids.imageSessionId
  conversationId : request.conversationId = ids.conversationId
  turnId : request.turnId = some ids.requestId
  messageText : request.messageText = some messageText
  view : request.uiContext.view = some "darkroom"
  maxPasses : request.refinementMaxPasses = maxPasses
  capabilities : request.capabilities = descriptors.map capabilityOfDescriptor
  imageState : request.imageState = imageStateCollectFromDev darkroom state dev

theorem buildRequest_ok {goalText : Option String} {fastMode : Bool} {refinementMode : Option RefinementMode}
    {passIndex maxPasses : Nat}
    (built : buildRequest darkroom state dev ids messageText goalText fastMode refinementMode passIndex maxPasses =
      .ok request) :
    ∃ descriptors, catalogCollectDescriptors darkroom state = .ok descriptors ∧
      BuiltFor darkroom state dev ids messageText maxPasses descriptors request := by
  unfold buildRequest capabilitiesCollect at built
  cases collected : catalogCollectDescriptors darkroom state with
  | error text => simp [collected, bind, Except.bind] at built
  | ok descriptors =>
    simp only [collected, bind, Except.bind] at built
    refine ⟨descriptors, rfl, ?_⟩
    split_ifs at built <;>
      obtain rfl := Except.ok.inj built <;>
      exact ⟨rfl, rfl, rfl, rfl, rfl, rfl, rfl, rfl, rfl, rfl, rfl⟩

/-- What the serializer has found present and checked. -/
structure Complete (request : ChatRequest) (texts : RequestTexts) : Prop where
  requestId : request.requestId = some texts.requestId
  appSessionId : request.appSessionId = some texts.appSessionId
  imageSessionId : request.imageSessionId = some texts.imageSessionId
  conversationId : request.conversationId = some texts.conversationId
  turnId : request.turnId = some texts.turnId
  messageText : request.messageText = some texts.messageText
  view : request.uiContext.view = some texts.view
  capabilities : request.capabilities ≠ []
  goalText : texts.goalText ≠ ""
  enabled : request.refinementEnabled = decide (texts.mode = .multiTurn)
  started : request.refinementPassIndex ≠ 0
  planned : request.refinementMaxPasses ≠ 0
  within : request.refinementPassIndex ≤ request.refinementMaxPasses
  single : request.refinementEnabled = false → request.refinementPassIndex = 1 ∧ request.refinementMaxPasses = 1

theorem chatRequestSerialize_ok {document : Json} (serialized : chatRequestSerialize request = .ok document) :
    ∃ texts, Complete request texts ∧ document = .obj (requestDocument request texts) := by
  unfold chatRequestSerialize at serialized
  cases present : requestTexts request with
  | none => simp [present] at serialized
  | some texts =>
    simp only [present] at serialized
    split_ifs at serialized with incomplete
    simp only [not_or, not_and, not_not, ne_eq, not_lt, Bool.not_eq_true] at incomplete
    obtain ⟨capabilities, goalText, enabled, started, planned, within, single⟩ := incomplete
    have given := requestTexts_of present
    exact ⟨texts, ⟨given.requestId, given.appSessionId, given.imageSessionId, given.conversationId, given.turnId,
      given.messageText, given.view, capabilities, goalText, enabled, started, planned, within, single⟩,
      (Except.ok.inj serialized).symm⟩

end Built

/-- Every request that the client builds and writes is accepted, and reports the controls of the catalog. -/
theorem built_request_accepted {library : SchemaLibrary} (exact : Exact library) {σ W : Type} [DecidableEq W]
    (workbench : Workbench σ W) (state : σ) (dev : Develop) (ids : ChatIds) (messageText : String)
    (goalText : Option String) (fastMode : Bool) (refinementMode : Option RefinementMode) (passIndex maxPasses : Nat)
    (provided : ∀ modules, workbench.modules state = some modules →
      ∀ module ∈ modules, ModuleProvided workbench.widgets state module)
    (readable : ∀ descriptors, catalogCollectDescriptors workbench.toDarkroom state = .ok descriptors →
      ∀ descriptor ∈ descriptors, descriptor.operationKind = .setFloat →
        (catalogReadCurrentNumber workbench.toDarkroom state descriptor).toOption.isSome)
    (identified : ids.appSessionId ≠ "" ∧ ids.requestId ≠ "" ∧ ids.imageSessionId ≠ some "" ∧
      ids.conversationId ≠ some "")
    (messagePresent : messageText ≠ "") (fits : maxPasses < 2 ^ 31) {request : ChatRequest} {document : Json}
    (built : buildRequest workbench.toDarkroom state dev ids messageText goalText fastMode refinementMode passIndex
      maxPasses = .ok request)
    (serialized : chatRequestSerialize request = .ok document) :
    ∃ envelope, validateRequest library document = some envelope ∧
      List.Forall₂ SerializedAs (collectControls workbench.toDarkroom state) envelope.imageSnapshot.editableSettings := by
  obtain ⟨appPresent, idPresent, imagePresent, conversationPresent⟩ := identified
  obtain ⟨descriptors, collected, builtFor⟩ := buildRequest_ok built
  obtain ⟨texts, complete, rfl⟩ := chatRequestSerialize_ok serialized
  obtain ⟨wellFormed, distinct⟩ := catalogCollectDescriptors_wellFormed workbench provided collected
  obtain ⟨capabilities, settings, capabilitiesRead, settingsRead, sameIds, consistent, reported⟩ :=
    catalog_accepted exact wellFormed distinct (readable descriptors collected)
  have controls : request.imageState.controls = collectControls workbench.toDarkroom state := by
    rw [builtFor.imageState]
    rfl
  have controlled : collectControls workbench.toDarkroom state =
      descriptors.map (controlOfDescriptor workbench.toDarkroom state) := by
    rw [collectControls, collected]
    rfl
  -- every id and text that the document names is present
  have requestId : texts.requestId = ids.requestId :=
    Option.some.inj (complete.requestId.symm.trans builtFor.requestId)
  have turnId : texts.turnId = ids.requestId := Option.some.inj (complete.turnId.symm.trans builtFor.turnId)
  have appSessionId : texts.appSessionId = ids.appSessionId :=
    Option.some.inj (complete.appSessionId.symm.trans builtFor.appSessionId)
  have message : texts.messageText = messageText :=
    Option.some.inj (complete.messageText.symm.trans builtFor.messageText)
  have idText : texts.requestId ≠ "" := requestId ▸ idPresent
  have messageText : texts.messageText ≠ "" := message ▸ messagePresent
  have view : texts.view = "darkroom" := Option.some.inj (complete.view.symm.trans builtFor.view)
  have imageSession : texts.imageSessionId ≠ "" := fun empty =>
    imagePresent (by rw [← builtFor.imageSessionId, complete.imageSessionId, empty])
  have conversation : texts.conversationId ≠ "" := fun empty =>
    conversationPresent (by rw [← builtFor.conversationId, complete.conversationId, empty])
  have session : ∀ text ∈ [texts.appSessionId, texts.imageSessionId, texts.conversationId, texts.turnId], text ≠ "" := by
    simp [appSessionId, turnId, appPresent, idPresent, imageSession, conversation]
  have listed : capabilities ≠ [] ∧ (capabilities.map (·.capabilityId)).Nodup := by
    refine ⟨?_, sameIds ▸ distinct⟩
    rintro rfl
    have none : descriptors = [] := by simpa using sameIds.symm
    exact complete.capabilities (by rw [builtFor.capabilities, none]; rfl)
  obtain ⟨refinement, refinementRead⟩ := validateRefinement_json exact complete.enabled complete.started complete.planned
    complete.within complete.single (builtFor.maxPasses ▸ fits) complete.goalText
  have targetsRead : listOf (validateCapability library)
      (.arr (request.capabilities.map fun capability => .obj capability.json)) = some capabilities := by
    rw [builtFor.capabilities]
    exact capabilitiesRead
  have manifest := validateManifest_json targetsRead listed
  have snapshot := validateImageSnapshot_json exact builtFor.imageState
    (by rw [controls, controlled]; exact settingsRead)
  have version : literalOf [("3.0", ())] (.str (request.schemaVersion.getD "3.0")) = some () := by
    rw [builtFor.schemaVersion]
    rfl
  let read : RequestEnvelope := {
    requestId := texts.requestId
    session := ⟨texts.appSessionId, texts.imageSessionId, texts.conversationId, texts.turnId, session⟩
    refinement := refinement
    capabilities := capabilities
    imageSnapshot := ⟨buildImageRevisionId request, settings, buildImageRevisionId_ne_empty request⟩
    requestIdPresent := idText
    capabilitiesPresent := listed.1
    capabilityIdsUnique := listed.2
    consistent := consistent }
  refine ⟨read, ?_, controlled ▸ reported⟩
  rw [validateRequest, objectOf_obj rfl]
  exact read_then ((requiredMember_found rfl).trans version) <|
    read_then (textMember_found rfl idText) <|
    read_then ((requiredMember_found rfl).trans (validateSession_json session)) <|
    read_then ((requiredMember_found rfl).trans (validateMessage_json messageText)) <|
    read_then (exact.boolean_found rfl) <| read_then ((requiredMember_found rfl).trans refinementRead) <|
    read_then ((requiredMember_found rfl).trans
      (validateUiContext_json exact (by rw [view]; decide) request.uiContext)) <|
    read_then ((requiredMember_found rfl).trans manifest) <| read_then ((requiredMember_found rfl).trans snapshot) <|
    dif_pos consistent

/-! A module with a slider that reports no bounds, a list of modes and an on-off button. -/

def readoutField (widget : Nat) : Option IntrospectionField :=
  match widget with
  | 0 => some ⟨"exposure", .float, none, 0, false⟩
  | 1 => some ⟨"mode", .enum,
      some [⟨"EXPOSURE_MODE_MANUAL", 0, some "manual"⟩, ⟨"EXPOSURE_MODE_DEFLICKER", 1, none⟩], 0, false⟩
  | _ => none

def readoutWidgets : Widgets Unit Nat where
  field _ _ := readoutField
  sliderGetHardMin _ _ := none
  sliderGetHardMax _ _ := some (-4)
  sliderGetDefault _ _ := none
  sliderGet _ _ := some (1 / 2)
  sliderGetStep _ _ := some 0
  comboboxGet _ _ := 0
  comboboxEntries _ _ := []
  comboboxGetDefault _ _ := 0
  isToggleButton _ widget := widget = 2
  toggleGetActive _ _ := true
  nearest := id
  nearestMonotone := monotone_id
  nearestInt := nearestInt_id
  drawCurveCalcValue _ _ _ := 1 / 2
  drawCurveBounded _ _ _ := by norm_num

def readoutModule : IopModule Nat where
  op := "exposure"
  name := "exposure"
  multiPriority := 0
  off := some 2
  defaultEnabled := true
  widgetList := [⟨⟨["iop", "exposure"], "exposure", some "exposure"⟩, some 0⟩,
    ⟨⟨["iop", "exposure"], "mode", none⟩, some 1⟩,
    ⟨⟨["iop", "exposure"], "enable", some "on-off"⟩, some 2⟩]
  defaultLevels := none
  defaultCurves := none
  levelsInitialised := noLevels
  curvesInitialised := noCurves

def readoutWorkbench : Workbench Unit Nat where
  isCurrentView _ := true
  chromaAdaptation _ := false
  candidates _ := some (moduleDescriptors readoutWidgets () readoutModule ++ [])
  sliderGet _ _ := 1 / 2
  sliderSet state _ _ := state
  comboboxGetData _ _ := 0
  comboboxSetFromValue state _ _ := some state
  isToggleButton _ widget := widget = 2
  toggleGetActive _ _ := true
  toggleSetActive state _ _ := state
  readRgblevels _ _ := none
  writeRgblevels state _ _ := (state, none)
  readColorzones _ _ := none
  writeColorzones state _ _ := (state, none)
  widgets := readoutWidgets
  modules _ := some [readoutModule]
  collected _ := flatMap_moduleDescriptors_single ..
  sliderRead _ _ _ read := Option.some.inj read
  toggleKnown _ _ := rfl

def readoutDevelop : Develop where
  image := ⟨7, "DSC_0007.NEF", "", "", 6000, 4000, 1 / 125, 8, 100, 35⟩
  historyEnd := 1
  history := [⟨0, "exposure", true, 0, "", 17⟩]
  rendering := ⟨some ⟨1000, 667, "/9j/", by decide, by decide, by decide⟩, none⟩

theorem readoutModule_provided : ModuleProvided readoutWidgets () readoutModule where
  fields widget field known := by
    match widget, known with
    | 0, known =>
      obtain rfl := Option.some.inj known
      exact ⟨by decide, nofun⟩
    | 1, known =>
      obtain rfl := Option.some.inj known
      exact ⟨by decide, fun _ => ⟨_, rfl, by decide⟩⟩
    | _ + 2, known => cases known
  labels := by decide

theorem plainSchemaLibrary_exact : Exact plainSchemaLibrary := ⟨fun _ => rfl, fun _ => rfl, fun _ => rfl⟩

theorem built_request_accepted_readout : ∃ request document,
    buildRequest readoutWorkbench.toDarkroom () readoutDevelop ⟨"app-1", "req-1", some "image-1", some "conversation-1"⟩
      "brighten" none false (some .multiTurn) 1 2 = .ok request ∧
    chatRequestSerialize request = .ok document ∧
    ∃ envelope, validateRequest plainSchemaLibrary document = some envelope ∧
      List.Forall₂ SerializedAs (collectControls readoutWorkbench.toDarkroom ())
        envelope.imageSnapshot.editableSettings := by
  refine ⟨_, _, rfl, rfl, built_request_accepted plainSchemaLibrary_exact readoutWorkbench () readoutDevelop
    ⟨"app-1", "req-1", some "image-1", some "conversation-1"⟩ "brighten" none false (some .multiTurn) 1 2 ?_ ?_ (by decide)
    (by decide) (by decide) rfl rfl⟩
  · intro modules known module member
    obtain rfl := Option.some.inj known
    rw [List.mem_singleton.mp member]
    exact readoutModule_provided
  · intro descriptors collected descriptor member float
    obtain rfl := Except.ok.inj collected
    have read : ∀ descriptor ∈ (catalogCollectDescriptors readoutWorkbench.toDarkroom ()).toOption.getD [],
        (catalogReadCurrentNumber readoutWorkbench.toDarkroom () descriptor).toOption.isSome ∨
          descriptor.operationKind ≠ .setFloat := by decide +kernel
    exact (read descriptor member).resolve_right fun discrete => discrete float

end DarktableAgent.Refinement
