import DarktableAgent.Server.ControlBindings

/-! Channels of one action and the controls they are bound to.

A channel has its own control when the list has one at an exact path of its search. A
channel without one goes to whatever shares a module or a keyword, so channels stay
apart only when nothing of that sort is listed.
-/

set_option autoImplicit false

namespace DarktableAgent.Server

open Foundation Protocol

/-- The control that an exact path belongs to. -/
def pathOwner (actionPath : String) : Option Control :=
  [("iop/exposure/exposure", Control.exposure), ("iop/temperature/preset", .preset),
    ("iop/temperature/temperature", .temperature), ("iop/temperature/tint", .tint),
    ("iop/filmicrgb/white_relative_exposure", .highlights), ("iop/toneequalizer/highlights", .highlights),
    ("iop/denoiseprofile/chroma", .chroma), ("iop/denoiseprofile/luma", .luma),
    ("iop/colorbalancergb/global_saturation", .grade .globalSaturation),
    ("iop/colorequal/sat_global", .grade .globalSaturation), ("iop/colorequal/sat_blue", .grade .blueSaturation),
    ("iop/primaries/red_hue", .grade .redHue), ("iop/colorbalancergb/global_contrast", .grade .globalContrast),
    ("iop/clipping/angle", .rotation), ("iop/crop/angle", .rotation),
    ("iop/clipping/cx", .crop .left), ("iop/crop/cx", .crop .left),
    ("iop/clipping/cy", .crop .top), ("iop/crop/cy", .crop .top),
    ("iop/clipping/cw", .crop .right), ("iop/crop/cw", .crop .right),
    ("iop/clipping/ch", .crop .bottom), ("iop/crop/ch", .crop .bottom)].lookup actionPath

theorem pathOwner_exact (control : Control) :
    ∀ actionPath ∈ control.query.exactActionPaths, pathOwner actionPath = some control := by
  cases control with
  | grade target => cases target <;> decide
  | crop edge => cases edge <;> decide
  | _ => decide

theorem cropBindings_distinct (edges : CropEdge → ℚ) (failurePrefix : String) :
    ((cropBindings edges failurePrefix).map (·.control)).Nodup := by
  simp [cropBindings]

/-- The channels of an action look for different controls. -/
theorem controlBindings_distinct (action : CanonicalActionMembers) :
    ((controlBindings action).map (·.control)).Nodup := by
  unfold controlBindings
  cases action.action with
  | adjustExposure => cases action.exposureEv <;> simp
  | adjustWhiteBalance =>
    cases action.presetChoiceId <;> cases action.temperatureDelta <;> cases action.tintDelta <;> simp
  | recoverHighlights => cases action.strength <;> simp
  | reduceNoise =>
    cases action.strength with
    | none => simp
    | some strength => cases action.noiseType.getD .both <;> simp [noiseBindings]
  | gradeColor => cases action.target <;> cases action.amount <;> simp
  | rotate => cases action.angleDegrees <;> simp
  | cropNormalized =>
    simp only
    split
    · exact cropBindings_distinct _ _
    · exact List.nodup_nil
  | cropToBoundingBox =>
    simp only
    split
    · exact cropBindings_distinct _ _
    · exact List.nodup_nil

section Apart

variable (lower : String → String) (settings : List EditableSetting)

/-- Some setting of the list is the control of the channel itself. -/
def HasOwnControl (binding : ControlBinding) : Prop :=
  ∃ setting ∈ settings, binding.control.query.Exact setting

/-- Nothing in the list would be given the value: no setting meets the search, or the one that comes first
does not offer the wanted choice. -/
def NothingTakes (binding : ControlBinding) : Prop :=
  match binding.value with
  | .choice choiceId => ∀ setting, binding.control.query.First lower settings setting →
    choiceId ∉ (setting.choices.getD []).map (·.choiceId)
  | _ => ∀ setting, ¬ binding.control.query.Candidate lower settings setting

/-- The operations of an action target the controls of their own channels, which are different ones, and a
channel that has none is reported. -/
structure ChannelsApart (action : CanonicalEditAction) : Prop where
  own : List.Forall₂ (fun channel operation => ∃ setting ∈ settings, channel.2.control.query.Exact setting ∧
      operation.operation.target = settingTarget setting)
    (servedChannels lower settings [action]) (bindCanonicalActions lower settings [action]).operations
  distinct : ((bindCanonicalActions lower settings [action]).operations.map (·.operation.target)).Nodup
  missing : ∀ channel ∈ channelsOf [action], ¬ HasOwnControl settings channel.2 →
    channel ∉ servedChannels lower settings [action] ∧
      ∃ text ∈ (bindCanonicalActions lower settings [action]).failures,
        bindChannel lower settings channel = .error text

variable {lower settings}

/-- What a served channel was given. -/
theorem bindChannel_ok {channel : CanonicalEditAction × ControlBinding} {bound : OperationDict}
    (served : bindChannel lower settings channel = .ok bound) :
    ∃ setting, findSetting lower settings channel.2.control.query = some setting ∧
      bound.operation.target = settingTarget setting := by
  simp only [bindChannel, ControlBinding.bind] at served
  cases found : findSetting lower settings channel.2.control.query with
  | none => simp [found] at served
  | some setting =>
    refine ⟨setting, rfl, ?_⟩
    simp only [found] at served
    cases value : channel.2.value with
    | relative amount =>
      rw [value] at served
      cases served
      rfl
    | absolute number =>
      rw [value] at served
      cases served
      rfl
    | choice choiceId =>
      simp only [value, ControlValue.operation] at served
      cases chosen : choiceOperation setting choiceId channel.1.rationale with
      | none => simp [chosen] at served
      | some operation =>
        simp only [chosen] at served
        cases served
        obtain ⟨choice, -, rfl⟩ := Option.map_eq_some_iff.mp chosen
        rfl

theorem choiceOperation_none {setting : EditableSetting} {choiceId : String} {rationale : Option String} :
    choiceOperation setting choiceId rationale = none ↔
      choiceId ∉ (setting.choices.getD []).map (·.choiceId) := by
  simp [choiceOperation]

/-- A channel is refused exactly when nothing takes its value. -/
theorem bindChannel_error (channel : CanonicalEditAction × ControlBinding) :
    (∃ text, bindChannel lower settings channel = .error text) ↔ NothingTakes lower settings channel.2 := by
  simp only [bindChannel, ControlBinding.bind]
  cases found : findSetting lower settings channel.2.control.query with
  | none =>
    have none := (findSetting_none lower).mp found
    refine iff_of_true ⟨_, rfl⟩ ?_
    unfold NothingTakes
    cases channel.2.value with
    | choice choiceId => exact fun setting isFirst => absurd isFirst.toCandidate (none setting)
    | relative amount => exact none
    | absolute number => exact none
  | some setting =>
    have isFirst := (findSetting_some lower).mp found
    unfold NothingTakes
    cases channel.2.value with
    | relative amount => simpa [ControlValue.operation] using ⟨setting, isFirst.toCandidate⟩
    | absolute number => simpa [ControlValue.operation] using ⟨setting, isFirst.toCandidate⟩
    | choice choiceId =>
      simp only [ControlValue.operation]
      constructor
      · rintro ⟨text, refused⟩ other isOther
        rw [SettingQuery.First.unique lower isOther isFirst, ← choiceOperation_none]
        cases chosen : choiceOperation setting choiceId channel.1.rationale with
        | none => rfl
        | some operation => simp [chosen] at refused
      · intro notOffered
        rw [choiceOperation_none.mpr (notOffered setting isFirst)]
        exact ⟨_, rfl⟩

theorem mem_channelsOf_single {action : CanonicalEditAction} {channel : CanonicalEditAction × ControlBinding} :
    channel ∈ channelsOf [action] ↔
      channel.1 = action ∧ channel.2 ∈ controlBindings action.toCanonicalActionMembers := by
  simp only [channelsOf, List.flatMap_cons, List.flatMap_nil, List.append_nil, List.mem_map]
  constructor
  · rintro ⟨binding, member, rfl⟩
    exact ⟨rfl, member⟩
  · rintro ⟨rfl, member⟩
    exact ⟨channel.2, member, rfl⟩

theorem mem_servedChannels {actions : List CanonicalEditAction} {channel : CanonicalEditAction × ControlBinding} :
    channel ∈ servedChannels lower settings actions ↔
      channel ∈ channelsOf actions ∧ ∃ bound, bindChannel lower settings channel = .ok bound := by
  simp only [servedChannels, List.mem_filter, and_congr_right_iff]
  intro _
  cases bindChannel lower settings channel <;> simp [Except.toOption]

/-- The controls of the served channels are different ones. -/
theorem servedChannels_distinct (action : CanonicalEditAction) :
    ((servedChannels lower settings [action]).map fun channel => channel.2.control).Nodup := by
  have all : ((channelsOf [action]).map fun channel => channel.2.control).Nodup := by
    simp only [channelsOf, List.flatMap_cons, List.flatMap_nil, List.append_nil, List.map_map]
    exact controlBindings_distinct action.toCanonicalActionMembers
  exact all.sublist (List.filter_sublist.map _)

/-- Operations at exact paths of different controls have different targets. -/
theorem targets_distinct {channels : List (CanonicalEditAction × ControlBinding)} {operations : List OperationDict}
    (own : List.Forall₂ (fun channel operation => ∃ setting ∈ settings, channel.2.control.query.Exact setting ∧
      operation.operation.target = settingTarget setting) channels operations)
    (distinct : (channels.map fun channel => channel.2.control).Nodup) :
    (operations.map (·.operation.target)).Nodup := by
  -- an exact path tells the control that owns it, so equal targets have equal owners
  have owners : operations.map (fun operation => pathOwner operation.operation.target.actionPath) =
      (channels.map fun channel => channel.2.control).map some := by
    clear distinct
    induction own with
    | nil => rfl
    | cons here later ih =>
      obtain ⟨setting, -, exactPath, target⟩ := here
      rw [List.map_cons, List.map_cons, List.map_cons, ih, target]
      congr 1
      exact pathOwner_exact _ _ exactPath.2
  have apart : (operations.map fun operation => pathOwner operation.operation.target.actionPath).Nodup := by
    rw [owners]
    exact distinct.map (Option.some_injective _)
  apply List.Nodup.of_map fun target : OperationTarget => pathOwner target.actionPath
  rw [List.map_map]
  exact apart

/-- The channels of an action are kept apart exactly when each of them has its own control in the list, or
nothing there would take its value. -/
theorem channels_apart_iff (lower : String → String) (settings : List EditableSetting) (action : CanonicalEditAction) :
    ChannelsApart lower settings action ↔
      ∀ binding ∈ controlBindings action.toCanonicalActionMembers,
        HasOwnControl settings binding ∨ NothingTakes lower settings binding := by
  have emitted := bindCanonicalActions_served lower settings [action]
  constructor
  · intro apart binding member
    let channel := (action, binding)
    have isChannel : channel ∈ channelsOf [action] := mem_channelsOf_single.mpr ⟨rfl, member⟩
    cases outcome : bindChannel lower settings channel with
    | error text => exact .inr ((bindChannel_error channel).mp ⟨text, outcome⟩)
    | ok bound =>
      -- a served channel without a control of its own would take that of another
      by_contra neither
      push Not at neither
      exact (apart.missing channel isChannel neither.1).1 (mem_servedChannels.mpr ⟨isChannel, bound, outcome⟩)
  · intro condition
    have own : List.Forall₂ (fun channel operation => ∃ setting ∈ settings,
        channel.2.control.query.Exact setting ∧ operation.operation.target = settingTarget setting)
        (servedChannels lower settings [action]) (bindCanonicalActions lower settings [action]).operations := by
      rw [List.forall₂_iff_zip] at emitted ⊢
      refine ⟨emitted.1, fun {channel operation} paired => ?_⟩
      obtain ⟨bound, served, edit⟩ := emitted.2 paired
      obtain ⟨isChannel, -⟩ := mem_servedChannels.mp (List.of_mem_zip paired).1
      obtain ⟨setting, found, target⟩ := bindChannel_ok served
      have best := findSetting_best lower found
      refine ⟨setting, best.member, ?_, (congrArg Edit.target edit).trans target⟩
      -- with an exact path in the list, every best setting is at that path
      rcases condition channel.2 (mem_channelsOf_single.mp isChannel).2 with ⟨other, member, exactPath⟩ | nothing
      · exact Best.exact lower best member exactPath
      · obtain ⟨text, refused⟩ := (bindChannel_error channel).mpr nothing
        rw [served] at refused
        cases refused
    refine ⟨own, targets_distinct own (servedChannels_distinct action), fun channel isChannel noControl => ?_⟩
    have nothing := (condition channel.2 (mem_channelsOf_single.mp isChannel).2).resolve_left noControl
    obtain ⟨text, refused⟩ := (bindChannel_error channel).mpr nothing
    constructor
    · intro served
      obtain ⟨-, bound, ok⟩ := mem_servedChannels.mp served
      rw [refused] at ok
      cases ok
    · refine ⟨text, ?_, refused⟩
      rw [bindCanonicalActions_failures, List.mem_filterMap]
      exact ⟨.error text, List.mem_map.mpr ⟨channel, isChannel, refused⟩, rfl⟩

end Apart

/-- A slider of the denoise module that is neither for chroma nor for luma. -/
def denoiseStrengthSetting : EditableSetting :=
  { exposureSetting with
    moduleId := "denoiseprofile"
    moduleLabel := "denoise"
    settingId := "setting.denoise"
    label := "strength"
    actionPath := "iop/denoiseprofile/strength"
    present := by decide }

def reduceBothNoises : CanonicalEditAction where
  action := .reduceNoise
  strength := some .medium
  noiseType := some .both
  valid := by decide +kernel

/-- Both channels are given to the one slider of the module. -/
theorem reduceBothNoises_aliased : ¬ ChannelsApart id [denoiseStrengthSetting] reduceBothNoises := by
  intro apart
  let chroma : CanonicalEditAction × ControlBinding :=
    (reduceBothNoises, ⟨.chroma, .relative (1 / 5), "reduce-noise could not find a chroma noise control"⟩)
  have isChannel : chroma ∈ channelsOf [reduceBothNoises] :=
    mem_channelsOf_single.mpr ⟨rfl, List.mem_cons_self⟩
  have noControl : ¬ HasOwnControl [denoiseStrengthSetting] chroma.2 := by
    rintro ⟨setting, member, -, path⟩
    obtain rfl := List.mem_singleton.mp member
    exact absurd path (by decide)
  have isCandidate : chroma.2.control.query.Candidate id [denoiseStrengthSetting] denoiseStrengthSetting :=
    ⟨List.mem_cons_self, rfl, .inr (.inl (by decide))⟩
  obtain ⟨-, text, -, refused⟩ := apart.missing chroma isChannel noControl
  exact (bindChannel_error chroma).mp ⟨text, refused⟩ denoiseStrengthSetting isCandidate

end DarktableAgent.Server
