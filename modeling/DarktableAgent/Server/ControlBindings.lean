import DarktableAgent.Server.ControlSearch

/-! The channels of a canonical action.

Every action comes down to a list of bindings, each a control to look for and a value
for it. They are bound one after the other, and none depends on another.
-/

set_option autoImplicit false

namespace DarktableAgent.Server

open Foundation Protocol

/-- What is written to a control that was found. -/
inductive ControlValue where
  | relative (amount : ℚ)
  | absolute (number : ℚ)
  | choice (choiceId : String)
  deriving DecidableEq

def ControlValue.operation (rationale : Option String) (setting : EditableSetting) :
    ControlValue → Except String OperationDict
  | .relative amount => .ok (floatOperation setting amount false rationale)
  | .absolute number => .ok (floatOperation setting number true rationale)
  | .choice choiceId =>
    match choiceOperation setting choiceId rationale with
    | some operation => .ok operation
    | none => .error ("adjust-white-balance could not bind preset " ++ choiceId)

/-- One channel of an action: the control, what is written there, and the report when there is none. -/
structure ControlBinding where
  control : Control
  value : ControlValue
  missing : String
  deriving DecidableEq

def missingWhiteBalance (control : String) : String :=
  "adjust-white-balance could not find a " ++ control ++ " control"

def noiseBindings (amount : ℚ) (noiseType : CanonicalNoiseType) : List ControlBinding :=
  let chroma := ⟨.chroma, .relative amount, "reduce-noise could not find a chroma noise control"⟩
  let luma := ⟨.luma, .relative amount, "reduce-noise could not find a luma noise control"⟩
  match noiseType with
  | .chroma => [chroma]
  | .luma => [luma]
  | .both => [chroma, luma]

def cropBindings (edges : CropEdge → ℚ) (failurePrefix : String) : List ControlBinding :=
  [CropEdge.left, .top, .right, .bottom].map fun edge =>
    ⟨.crop edge, .absolute (edges edge), failurePrefix ++ " could not find a " ++ edge.axis ++ " control"⟩

/-- The edges of a crop to a box, before they are written. -/
def boxEdges (boxLeft boxTop boxWidth boxHeight paddingRatio : ℚ) : CropEdge → ℚ
  | .left => clampUnit (clampUnit boxLeft - boxWidth * paddingRatio)
  | .top => clampUnit (clampUnit boxTop - boxHeight * paddingRatio)
  | .right => clampUnit (clampUnit (boxLeft + boxWidth) + boxWidth * paddingRatio)
  | .bottom => clampUnit (clampUnit (boxTop + boxHeight) + boxHeight * paddingRatio)

def normalizedEdges (left top right bottom : ℚ) : CropEdge → ℚ
  | .left => left
  | .top => top
  | .right => right
  | .bottom => bottom

/-- The channels an action asks for, in the order in which they are bound. -/
def controlBindings (action : CanonicalActionMembers) : List ControlBinding :=
  match action.action with
  | .adjustExposure => action.exposureEv.toList.map fun amount =>
    ⟨.exposure, .relative amount, "adjust-exposure could not find an exposure control"⟩
  | .adjustWhiteBalance =>
    (action.presetChoiceId.toList.map fun choiceId => ⟨.preset, .choice choiceId, missingWhiteBalance "preset"⟩)
      ++ (action.temperatureDelta.toList.map fun amount =>
        ⟨.temperature, .relative amount, missingWhiteBalance "temperature"⟩)
      ++ action.tintDelta.toList.map fun amount => ⟨.tint, .relative amount, missingWhiteBalance "tint"⟩
  | .recoverHighlights => action.strength.toList.map fun strength =>
    ⟨.highlights, .relative (highlightDelta strength), "recover-highlights could not find a highlight control"⟩
  | .reduceNoise => action.strength.toList.flatMap fun strength =>
    noiseBindings (noiseDelta strength) (action.noiseType.getD .both)
  | .gradeColor => action.target.toList.flatMap fun target => action.amount.toList.map fun amount =>
    ⟨.grade target, .relative amount, "grade-color could not find a control for " ++ target.name⟩
  | .rotate => action.angleDegrees.toList.map fun angle =>
    ⟨.rotation, .relative angle, "rotate could not find a rotation control"⟩
  | .cropNormalized =>
    match action.left, action.top, action.right, action.bottom with
    | some left, some top, some right, some bottom =>
      cropBindings (normalizedEdges left top right bottom) "crop-normalized"
    | _, _, _, _ => []
  | .cropToBoundingBox =>
    match action.boxLeft, action.boxTop, action.boxWidth, action.boxHeight with
    | some boxLeft, some boxTop, some boxWidth, some boxHeight =>
      cropBindings (boxEdges boxLeft boxTop boxWidth boxHeight (action.paddingRatio.getD 0)) "crop-to-bounding-box"
    | _, _, _, _ => []

def BindingResult.ofOutcome : Except String OperationDict → BindingResult
  | .ok operation => ⟨[operation], []⟩
  | .error text => .failed text

section Bindings

variable (lower : String → String) (settings : List EditableSetting)

/-- Bind one channel: nothing is found, or what is found takes the value or does not. -/
def ControlBinding.bind (rationale : Option String) (binding : ControlBinding) : Except String OperationDict :=
  match findSetting lower settings binding.control.query with
  | none => .error binding.missing
  | some setting => binding.value.operation rationale setting

/-- The outcome of each channel of an action. -/
def outcomes (action : CanonicalEditAction) : List (Except String OperationDict) :=
  (controlBindings action.toCanonicalActionMembers).map (·.bind lower settings action.rationale)

theorem append_nothing (result : BindingResult) : result ++ BindingResult.nothing = result := by
  show BindingResult.mk (result.operations ++ []) (result.failures ++ []) = result
  rw [List.append_nil, List.append_nil]

theorem nothing_append (result : BindingResult) : BindingResult.nothing ++ result = result := rfl

theorem append_result_assoc (first second third : BindingResult) :
    first ++ second ++ third = first ++ (second ++ third) := by
  show BindingResult.mk (first.operations ++ second.operations ++ third.operations)
    (first.failures ++ second.failures ++ third.failures) = _
  rw [List.append_assoc, List.append_assoc]
  rfl

theorem concat_cons (result : BindingResult) (results : List BindingResult) :
    BindingResult.concat (result :: results) = result ++ BindingResult.concat results := by
  have shifted (start : BindingResult) :
      results.foldl (· ++ ·) start = start ++ results.foldl (· ++ ·) BindingResult.nothing := by
    induction results generalizing start with
    | nil => rw [List.foldl_nil, List.foldl_nil, append_nothing]
    | cons result rest ih =>
      rw [List.foldl_cons, List.foldl_cons, ih (start ++ result), ih (BindingResult.nothing ++ result),
        nothing_append, append_result_assoc]
  exact shifted (BindingResult.nothing ++ result)

theorem concat_append (first second : List BindingResult) :
    BindingResult.concat (first ++ second) = BindingResult.concat first ++ BindingResult.concat second := by
  induction first with
  | nil => rfl
  | cons result rest ih => rw [List.cons_append, concat_cons, concat_cons, ih, append_result_assoc]

/-- A float channel is bound to what is found. -/
theorem ofOutcome_float {binding : ControlBinding} {rationale : Option String} {amount : ℚ} {preferSet : Bool}
    (value : ∀ setting, binding.value.operation rationale setting =
      .ok (floatOperation setting amount preferSet rationale)) :
    BindingResult.ofOutcome (binding.bind lower settings rationale) =
      .ofOption ((findSetting lower settings binding.control.query).map fun setting =>
        floatOperation setting amount preferSet rationale) binding.missing := by
  unfold ControlBinding.bind
  cases findSetting lower settings binding.control.query with
  | none => rfl
  | some setting =>
    simp only [value]
    rfl

section Outcomes

variable {members : CanonicalActionMembers}

theorem bindExposure_outcome {amount : ℚ} (given : members.exposureEv = some amount) :
    bindExposure lower settings members = .ofOutcome (ControlBinding.bind lower settings members.rationale
      ⟨.exposure, .relative amount, "adjust-exposure could not find an exposure control"⟩) := by
  rw [ofOutcome_float lower settings fun _ => rfl]
  simp only [bindExposure, given]
  have search : findFloat lower settings ["iop/exposure/exposure"] [] [] ["exposure"] =
      findSetting lower settings Control.exposure.query := rfl
  rw [search]
  cases findSetting lower settings Control.exposure.query <;> rfl

theorem bindPreset_outcome (choiceId : String) (rationale : Option String) :
    bindPreset lower settings choiceId rationale = .ofOutcome (ControlBinding.bind lower settings rationale
      ⟨.preset, .choice choiceId, missingWhiteBalance "preset"⟩) := by
  have search : findSetting lower settings
      { kind := .setChoice, exactActionPaths := ["iop/temperature/preset"], labelKeywords := ["preset"] } =
      findSetting lower settings Control.preset.query := rfl
  unfold bindPreset ControlBinding.bind
  rw [search]
  cases findSetting lower settings Control.preset.query with
  | none => rfl
  | some setting =>
    simp only [ControlValue.operation]
    cases choiceOperation setting choiceId rationale <;> rfl

theorem bindWhiteBalanceDelta_outcome {control : Control} {name : String}
    (isNamed : control.query = whiteBalanceQuery name) (amount : ℚ) (rationale : Option String) :
    bindWhiteBalanceDelta lower settings name amount rationale =
      .ofOutcome (ControlBinding.bind lower settings rationale
        ⟨control, .relative amount, missingWhiteBalance name⟩) := by
  rw [ofOutcome_float lower settings fun _ => rfl, isNamed]
  rfl

theorem bindHighlights_outcome {strength : CanonicalStrength} (given : members.strength = some strength) :
    bindHighlights lower settings members = .ofOutcome (ControlBinding.bind lower settings members.rationale
      ⟨.highlights, .relative (highlightDelta strength), "recover-highlights could not find a highlight control"⟩) := by
  rw [ofOutcome_float lower settings fun _ => rfl]
  simp only [bindHighlights, given]
  have search : findFloat lower settings
      ["iop/filmicrgb/white_relative_exposure", "iop/toneequalizer/highlights"] ["filmicrgb", "toneequalizer"]
      ["highlight", "white_relative_exposure"] ["highlight", "white relative exposure"] =
      findSetting lower settings Control.highlights.query := rfl
  rw [search]
  cases findSetting lower settings Control.highlights.query <;> rfl

theorem bindNoise_outcomes {strength : CanonicalStrength} (given : members.strength = some strength) :
    bindNoise lower settings members =
      .concat ((noiseBindings (noiseDelta strength) (members.noiseType.getD .both)).map fun binding =>
        .ofOutcome (binding.bind lower settings members.rationale)) := by
  have channel (control : Control) (name missing : String) (isNamed : control.query = noiseQuery name) :
      BindingResult.ofOutcome (ControlBinding.bind lower settings members.rationale
        ⟨control, .relative (noiseDelta strength), missing⟩) =
      .ofOption ((findFloat lower settings ["iop/denoiseprofile/" ++ name] ["denoiseprofile"]
        [name, "denoise"] [name, "noise"]).map fun setting =>
          floatOperation setting (noiseDelta strength) false members.rationale) missing := by
    rw [ofOutcome_float lower settings fun _ => rfl, isNamed]
    rfl
  simp only [bindNoise, given]
  cases members.noiseType.getD .both <;>
    simp only [noiseChannels, noiseBindings, List.map_cons, List.map_nil,
      channel .chroma "chroma" _ rfl, channel .luma "luma" _ rfl] <;> rfl

theorem bindGrade_outcome {target : CanonicalGradeTarget} {amount : ℚ} (given : members.target = some target)
    (by' : members.amount = some amount) :
    bindGrade lower settings members = .ofOutcome (ControlBinding.bind lower settings members.rationale
      ⟨.grade target, .relative amount, "grade-color could not find a control for " ++ target.name⟩) := by
  have search : findGradeSetting lower settings target = findSetting lower settings (gradeQuery target) := by
    cases target <;> rfl
  rw [ofOutcome_float lower settings fun _ => rfl]
  simp only [bindGrade, given, by', search]
  rfl

theorem bindRotate_outcome {angle : ℚ} (given : members.angleDegrees = some angle) :
    bindRotate lower settings members = .ofOutcome (ControlBinding.bind lower settings members.rationale
      ⟨.rotation, .relative angle, "rotate could not find a rotation control"⟩) := by
  rw [ofOutcome_float lower settings fun _ => rfl]
  simp only [bindRotate, given]
  have search : findFloat lower settings ["iop/clipping/angle", "iop/crop/angle"] ["clipping", "crop"]
      ["angle", "rotate"] ["angle", "rotation"] = findSetting lower settings Control.rotation.query := rfl
  rw [search]
  cases findSetting lower settings Control.rotation.query <;> rfl

theorem bindCropAxisValues_outcomes (edges : CropEdge → ℚ) (rationale : Option String) (failurePrefix : String) :
    bindCropAxisValues lower settings
        [("cx", edges .left), ("cy", edges .top), ("cw", edges .right), ("ch", edges .bottom)] rationale failurePrefix =
      .concat ((cropBindings edges failurePrefix).map fun binding =>
        .ofOutcome (binding.bind lower settings rationale)) := by
  have axis (edge : CropEdge) (missing : String) : BindingResult.ofOutcome (ControlBinding.bind lower settings rationale
        ⟨.crop edge, .absolute (edges edge), missing⟩) =
      .ofOption ((findFloat lower settings ["iop/clipping/" ++ edge.axis, "iop/crop/" ++ edge.axis]
        ["clipping", "crop"] [edge.axis] [edge.axis]).map fun setting =>
          floatOperation setting (edges edge) true rationale) missing := by
    rw [ofOutcome_float lower settings fun _ => rfl]
    rfl
  simp only [bindCropAxisValues, cropBindings, List.map_cons, List.map_nil, axis]
  rfl

end Outcomes

def failure? : Except String OperationDict → Option String
  | .ok _ => none
  | .error text => some text

/-- The channels of an action that the validator admits are bound one after the other, each on its own. -/
theorem bindAction_outcomes (action : CanonicalEditAction) :
    bindAction lower settings action = .concat ((outcomes lower settings action).map .ofOutcome) := by
  obtain ⟨members, valid⟩ := action
  simp only [bindAction, outcomes, controlBindings, List.map_map, Function.comp_def]
  rw [validateActionShape, if_neg (validateActionShape_preset valid)] at valid
  -- the validator has seen to it that the members of the action are there
  cases kind : members.action <;> simp only [kind] at valid ⊢
  case adjustExposure =>
    cases given : members.exposureEv with
    | none => simp [given] at valid
    | some amount => exact bindExposure_outcome lower settings given
  case adjustWhiteBalance =>
    simp only [bindWhiteBalance, List.map_append, concat_append]
    congr 1
    · congr 1
      · cases members.presetChoiceId with
        | none => rfl
        | some choiceId => exact bindPreset_outcome lower settings choiceId members.rationale
      · cases members.temperatureDelta with
        | none => rfl
        | some amount => exact bindWhiteBalanceDelta_outcome lower settings rfl amount members.rationale
    · cases members.tintDelta with
      | none => rfl
      | some amount => exact bindWhiteBalanceDelta_outcome lower settings rfl amount members.rationale
  case recoverHighlights =>
    cases given : members.strength with
    | none => simp [given] at valid
    | some strength => exact bindHighlights_outcome lower settings given
  case reduceNoise =>
    cases given : members.strength with
    | none => simp [given] at valid
    | some strength =>
      rw [bindNoise_outcomes lower settings given]
      simp only [Option.toList, List.flatMap_cons, List.flatMap_nil, List.append_nil]
  case gradeColor =>
    cases target : members.target with
    | none => simp [target] at valid
    | some gradeTarget =>
      cases amount : members.amount with
      | none => simp [target, amount] at valid
      | some number => exact bindGrade_outcome lower settings target amount
  case rotate =>
    cases given : members.angleDegrees with
    | none => simp [given] at valid
    | some angle => exact bindRotate_outcome lower settings given
  case cropNormalized =>
    clear valid
    unfold bindCrop
    rcases members.left with _ | left
    · rfl
    rcases members.top with _ | top
    · rfl
    rcases members.right with _ | right
    · rfl
    rcases members.bottom with _ | bottom
    · rfl
    exact bindCropAxisValues_outcomes lower settings (normalizedEdges left top right bottom) members.rationale
      "crop-normalized"
  case cropToBoundingBox =>
    clear valid
    unfold bindCropBox
    rcases members.boxLeft with _ | boxLeft
    · rfl
    rcases members.boxTop with _ | boxTop
    · rfl
    rcases members.boxWidth with _ | boxWidth
    · rfl
    rcases members.boxHeight with _ | boxHeight
    · rfl
    exact bindCropAxisValues_outcomes lower settings
      (boxEdges boxLeft boxTop boxWidth boxHeight (members.paddingRatio.getD 0)) members.rationale
      "crop-to-bounding-box"

/-- The operations and failures of an action are those of its channels, in order. -/
theorem bindAction_results (action : CanonicalEditAction) :
    bindAction lower settings action =
      ⟨(outcomes lower settings action).filterMap Except.toOption,
        (outcomes lower settings action).filterMap failure?⟩ := by
  rw [bindAction_outcomes]
  induction outcomes lower settings action with
  | nil => rfl
  | cons outcome rest ih =>
    rw [List.map_cons, concat_cons, ih]
    cases outcome <;> rfl

/-- The channels of a list of actions, each with its action. -/
def channelsOf (actions : List CanonicalEditAction) : List (CanonicalEditAction × ControlBinding) :=
  actions.flatMap fun action => (controlBindings action.toCanonicalActionMembers).map (action, ·)

def bindChannel (channel : CanonicalEditAction × ControlBinding) : Except String OperationDict :=
  channel.2.bind lower settings channel.1.rationale

/-- The channels that get an operation. -/
def servedChannels (actions : List CanonicalEditAction) : List (CanonicalEditAction × ControlBinding) :=
  (channelsOf actions).filter fun channel => (bindChannel lower settings channel).toOption.isSome

theorem concat_results (actions : List CanonicalEditAction) :
    BindingResult.concat (actions.map (bindAction lower settings)) =
      ⟨((channelsOf actions).map (bindChannel lower settings)).filterMap Except.toOption,
        ((channelsOf actions).map (bindChannel lower settings)).filterMap failure?⟩ := by
  induction actions with
  | nil => rfl
  | cons action rest ih =>
    have here : outcomes lower settings action = ((controlBindings action.toCanonicalActionMembers).map
        (action, ·)).map (bindChannel lower settings) := by
      rw [List.map_map]
      rfl
    rw [List.map_cons, concat_cons, ih, bindAction_results, here]
    simp only [channelsOf, List.flatMap_cons, List.map_append, List.filterMap_append]
    rfl

theorem served_of_edits {channels : List (CanonicalEditAction × ControlBinding)} {operations : List OperationDict}
    (edits : operations.map editOf =
      ((channels.map (bindChannel lower settings)).filterMap Except.toOption).map editOf) :
    List.Forall₂ (fun channel operation => ∃ bound, bindChannel lower settings channel = .ok bound ∧
        editOf operation = editOf bound)
      (channels.filter fun channel => (bindChannel lower settings channel).toOption.isSome) operations := by
  induction channels generalizing operations with
  | nil =>
    obtain rfl := List.map_eq_nil_iff.mp edits
    exact .nil
  | cons channel rest ih =>
    cases outcome : bindChannel lower settings channel with
    | error text =>
      rw [List.filter_cons_of_neg (by simp [outcome, Except.toOption])]
      rw [List.map_cons, List.filterMap_cons_none (by rw [outcome]; rfl)] at edits
      exact ih edits
    | ok bound =>
      rw [List.filter_cons_of_pos (by simp [outcome, Except.toOption])]
      rw [List.map_cons, List.filterMap_cons_some (by rw [outcome]; rfl), List.map_cons] at edits
      obtain ⟨operation, others, rfl, same, later⟩ := List.map_eq_cons_iff.mp edits
      exact .cons ⟨bound, outcome, same⟩ (ih later)

/-- Every emitted operation is the edit of its channel. -/
theorem bindCanonicalActions_served (actions : List CanonicalEditAction) :
    List.Forall₂ (fun channel operation => ∃ bound, bindChannel lower settings channel = .ok bound ∧
        editOf operation = editOf bound)
      (servedChannels lower settings actions) (bindCanonicalActions lower settings actions).operations := by
  apply served_of_edits
  rw [bindCanonicalActions, concat_results]
  exact normalizeOperationsWithUniqueIds_edits _

theorem bindCanonicalActions_failures (actions : List CanonicalEditAction) :
    (bindCanonicalActions lower settings actions).failures =
      ((channelsOf actions).map (bindChannel lower settings)).filterMap failure? := by
  rw [bindCanonicalActions, concat_results]

end Bindings

end DarktableAgent.Server
