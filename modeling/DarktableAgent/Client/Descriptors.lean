import Mathlib.Tactic.Linarith
import Mathlib.Tactic.NormNum
import DarktableAgent.Foundation.Reading
import DarktableAgent.Client.Identifiers

/-! What every collected descriptor satisfies.

Sliders may report anything; the introspection provides enumerations as tables of
distinct entries with their default among them, and actions have labels.
-/

set_option autoImplicit false

namespace DarktableAgent.Client

open Foundation Protocol

/-- A field as the introspection of darktable provides it. -/
structure FieldProvided (field : IntrospectionField) : Prop where
  named : field.fieldName ≠ ""
  table : field.type = .enum → ∃ table, field.enumValues = some table ∧ (table.map (·.value)).Nodup ∧
    (table.map (·.name)).Nodup ∧ (∀ entry ∈ table, entry.name ≠ "") ∧ field.enumDefault ∈ table.map (·.value)

structure ModuleProvided {σ W : Type} (widgets : Widgets σ W) (state : σ) (module : IopModule W) : Prop where
  fields : ∀ widget field, widgets.field state module widget = some field → FieldProvided field
  labels : ∀ referral ∈ module.widgetList, referral.action.label ≠ some ""

/-- The shape of the values that the kind of a descriptor calls for. -/
structure ValueShape {W : Type} (descriptor : ActionDescriptor ℚ W) : Prop where
  settable : descriptor.supportsSet = true
  delta : descriptor.supportsDelta = true ↔ descriptor.operationKind = .setFloat
  range : descriptor.operationKind = .setFloat → descriptor.minNumber ≤ descriptor.defaultNumber ∧
    descriptor.defaultNumber ≤ descriptor.maxNumber ∧ 0 < descriptor.stepNumber
  values : descriptor.operationKind = .setChoice → (descriptor.choices.map (·.choiceValue)).Nodup
  ids : descriptor.operationKind = .setChoice → (descriptor.choices.map (·.choiceId)).Nodup
  options : ∀ choice ∈ descriptor.choices, choice.choiceId ≠ "" ∧ choice.label ≠ ""
  default : descriptor.operationKind = .setChoice →
    ∃ value ∈ descriptor.choices.map (·.choiceValue), descriptor.defaultChoiceValue = some value
  noChoices : descriptor.operationKind ≠ .setChoice → descriptor.choices = []
  defaultBool : descriptor.defaultBool.isSome ↔ descriptor.operationKind = .setBool
  defaultChoice : descriptor.defaultChoiceValue.isSome ↔ descriptor.operationKind = .setChoice

structure WellFormed {W : Type} (descriptor : ActionDescriptor ℚ W) : Prop extends ValueShape descriptor where
  texts : ∀ text ∈ [descriptor.moduleId, descriptor.moduleLabel, descriptor.label, descriptor.actionPath], text ≠ ""
  name : SettingName descriptor.settingId
  capabilityId : descriptor.capabilityId = buildCapabilityId descriptor.settingId
  attached : descriptor.operationKind = .setBool → descriptor.widget.isSome

section Texts

theorem append_ne_empty {left : String} (present : left ≠ "") (right : String) : left ++ right ≠ "" := by
  simp [String.append_eq_empty_iff, present]

theorem SettingName.ne_empty {settingId : String} (name : SettingName settingId) : settingId ≠ "" := by
  obtain ⟨parts⟩ := name.parts
  rintro rfl
  simpa using congrArg List.length parts.spelled

theorem buildCapabilityId_ne_empty (settingId : String) : buildCapabilityId settingId ≠ "" :=
  append_ne_empty (by decide) _

variable {W : Type} (module : IopModule W)

theorem buildModuleId_ne_empty : buildModuleId module ≠ "" := by
  unfold buildModuleId
  split_ifs with known
  · exact known
  · decide

theorem buildModuleLabel_ne_empty : buildModuleLabel module ≠ "" := by
  unfold buildModuleLabel
  split_ifs with named known
  · exact named
  · exact known
  · decide

end Texts

section Ranges

theorem clamp_between {low high : ℚ} (ordered : low ≤ high) (x : ℚ) :
    low ≤ clamp x low high ∧ clamp x low high ≤ high := by
  unfold clamp
  simp only [Numeric.less, decide_eq_true_eq]
  split_ifs with above below
  · exact ⟨ordered, le_refl _⟩
  · exact ⟨le_refl _, ordered⟩
  · exact ⟨not_lt.mp below, not_lt.mp above⟩

variable {σ W : Type} {widgets : Widgets σ W} {state : σ}

/-- Whatever a slider reports, its range is ordered, holds the default, and has a positive step. -/
theorem initializeFloatDescriptor_range {widget : W} {range : FloatRange}
    (initialized : initializeFloatDescriptor widgets state widget = some range) :
    range.minNumber ≤ range.defaultNumber ∧ range.defaultNumber ≤ range.maxNumber ∧ 0 < range.stepNumber := by
  unfold initializeFloatDescriptor at initialized
  cases reading : widgets.sliderGet state widget with
  | none => simp [reading] at initialized
  | some current =>
    simp only [reading, Option.bind_eq_bind, Option.bind_some, Option.pure_def, Option.some.injEq] at initialized
    obtain ⟨min, max, bounds, ordered⟩ : ∃ min max : ℚ,
        (if (widgets.sliderGetHardMax state widget).getD current < (widgets.sliderGetHardMin state widget).getD current
          then ((widgets.sliderGetHardMax state widget).getD current, (widgets.sliderGetHardMin state widget).getD current)
          else ((widgets.sliderGetHardMin state widget).getD current,
            (widgets.sliderGetHardMax state widget).getD current)) = (min, max) ∧ min ≤ max := by
      split_ifs with swapped
      · exact ⟨_, _, rfl, le_of_lt swapped⟩
      · exact ⟨_, _, rfl, not_lt.mp swapped⟩
    rw [bounds] at initialized
    subst initialized
    refine ⟨(clamp_between ordered _).1, (clamp_between ordered _).2, ?_⟩
    -- the fallback is at least a ten-thousandth, and a reported step is taken only when it is positive
    have fallback (range thousandth : ℚ) :
        0 < if 0 < range then (if 1 / 10000 < thousandth then thousandth else 1 / 10000) else (1 / 10000 : ℚ) := by
      split_ifs with _ above
      · exact lt_trans (by norm_num) above
      · norm_num
      · norm_num
    cases sliderStep : widgets.sliderGetStep state widget with
    | none => exact fallback _ _
    | some step =>
      dsimp only
      by_cases negative : step ≤ 0
      · rw [if_pos negative]
        exact fallback _ _
      · rw [if_neg negative]
        exact not_le.mp negative

/-- A curve height becomes a number of the range from -1 to 1, rounded or not. -/
theorem nearest_between (widgets : Widgets σ W) {height : ℚ} (lower : 0 ≤ height) (upper : height ≤ 1) :
    -1 ≤ widgets.nearest (height * 2 - 1) ∧ widgets.nearest (height * 2 - 1) ≤ 1 := by
  have low : widgets.nearest (-1) = -1 := by simpa using widgets.nearestInt (-1) (by norm_num)
  have high : widgets.nearest 1 = 1 := by simpa using widgets.nearestInt 1 (by norm_num)
  constructor
  · calc
      -1 = widgets.nearest (-1) := low.symm
      _ ≤ widgets.nearest (height * 2 - 1) := widgets.nearestMonotone (by linarith)
  · calc
      widgets.nearest (height * 2 - 1) ≤ widgets.nearest 1 := widgets.nearestMonotone (by linarith)
      _ = 1 := high

theorem colorzonesCurrentValue_between {channel : Fin 3} {band : Nat} {value : ℚ}
    (read : colorzonesCurrentValue widgets colorzonesInit channel band = some value) : -1 ≤ value ∧ value ≤ 1 := by
  unfold colorzonesCurrentValue at read
  dsimp only at read
  split_ifs at read
  split at read
  next node found =>
    have flat : node.2 = 1 / 2 := by
      have member := List.mem_of_find?_eq_some found
      simp only [colorzonesInit, List.mem_cons, List.not_mem_nil, or_false] at member
      rcases member with rfl | rfl <;> rfl
    rw [← Option.some.inj read]
    exact nearest_between widgets (by rw [flat]; norm_num) (by rw [flat]; norm_num)
  next =>
    obtain ⟨lower, upper⟩ := widgets.drawCurveBounded (colorzonesInit.curveType channel)
      (colorzonesCurve colorzonesInit (colorzonesInit.curve channel)) (band / 8)
    rw [← Option.some.inj read]
    exact nearest_between widgets lower upper

theorem rgblevelsInit_between (channel handle : Fin 3) :
    0 ≤ rgblevelsInit channel handle ∧ rgblevelsInit channel handle ≤ 1 := by
  unfold rgblevelsInit
  split <;> constructor <;> norm_num

end Ranges

section Collected

variable {σ W : Type} {widgets : Widgets σ W} {state : σ} {module : IopModule W}

/-- A provided enumeration becomes a list of options that holds its default. -/
theorem populateChoiceOptions_table {widget : W} {field : IntrospectionField} (enumeration : field.type = .enum)
    (provided : FieldProvided field) {choices : List DescriptorChoice} {default : Option Int}
    (populated : populateChoiceOptions widgets state widget field = (choices, default)) :
    (choices.map (·.choiceValue)).Nodup ∧ (choices.map (·.choiceId)).Nodup ∧
      (∀ choice ∈ choices, choice.choiceId ≠ "" ∧ choice.label ≠ "") ∧
      ∃ value ∈ choices.map (·.choiceValue), default = some value := by
  obtain ⟨table, listed, values, names, named, defaulted⟩ := provided.table enumeration
  rw [populateChoiceOptions, enumeration, listed] at populated
  obtain ⟨rfl, rfl⟩ := Prod.mk.inj populated
  refine ⟨by simpa [Function.comp_def] using values, by simpa [Function.comp_def] using names, ?_, ?_⟩
  · intro choice member
    obtain ⟨entry, inTable, rfl⟩ := List.mem_map.mp member
    refine ⟨named entry inTable, ?_⟩
    dsimp only
    split_ifs with described
    · exact described
    · exact named entry inTable
  · exact ⟨field.enumDefault, by simpa [Function.comp_def] using defaulted, rfl⟩

theorem widgetDescriptor_texts (module : IopModule W) {actionPath label : String} (kind : OperationKind) (widget : W)
    (allowed : isActionPathAllowed actionPath = true) (labelled : label ≠ "") :
    let descriptor := widgetDescriptor module actionPath label kind widget
    ∀ text ∈ [descriptor.moduleId, descriptor.moduleLabel, descriptor.label, descriptor.actionPath], text ≠ "" := by
  have path : actionPath ≠ "" := by simpa [isActionPathAllowed] using allowed
  simp only [List.forall_mem_cons]
  exact ⟨buildModuleId_ne_empty module, buildModuleLabel_ne_empty module, labelled, path, by simp⟩

theorem descriptorForWidget_wellFormed (provided : ModuleProvided widgets state module) {referral : ActionTarget W}
    (attached : referral ∈ module.widgetList) {descriptor : ActionDescriptor ℚ W}
    (built : descriptorForWidget widgets state module referral = some descriptor) : WellFormed descriptor := by
  simp only [descriptorForWidget, Option.bind_eq_bind, Option.bind_eq_some_iff, guard_eq_some_iff] at built
  obtain ⟨widget, -, field, known, kind, isKind, -, allowed, built⟩ := built
  have fieldProvided := provided.fields widget field known
  have labelled : referral.action.label.getD field.fieldName ≠ "" := by
    cases label : referral.action.label with
    | none => exact fieldProvided.named
    | some text => exact fun empty => provided.labels referral attached (label.trans (congrArg some empty))
  have texts := widgetDescriptor_texts module kind widget allowed labelled
  cases kind with
  | setFloat =>
    obtain ⟨range, initialized, built⟩ := Option.bind_eq_some_iff.mp built
    obtain rfl := Option.some.inj built
    have ordered := initializeFloatDescriptor_range initialized
    exact ⟨⟨rfl, by simp [widgetDescriptor], fun _ => ordered, nofun, nofun, nofun, nofun, fun _ => rfl,
      by simp [widgetDescriptor], by simp [widgetDescriptor]⟩, texts, .widget _ _, rfl, fun _ => rfl⟩
  | setChoice =>
    have enumeration : field.type = .enum := by
      by_contra other
      simp only [fieldOperationKind, if_neg other] at isKind
      split_ifs at isKind <;> cases isKind
    cases populated : populateChoiceOptions widgets state widget field with
    | mk choices default =>
      obtain ⟨values, ids, options, value, listed, defaulted⟩ :=
        populateChoiceOptions_table enumeration fieldProvided populated
      simp only [populated] at built
      obtain rfl := Option.some.inj built
      exact ⟨⟨rfl, by simp [widgetDescriptor], nofun, fun _ => values, fun _ => ids, options,
        fun _ => ⟨value, listed, defaulted⟩, fun other => absurd rfl other, by simp [widgetDescriptor],
        by simp [widgetDescriptor, defaulted]⟩, texts, .widget _ _, rfl, fun _ => rfl⟩
  | setBool =>
    obtain rfl := Option.some.inj built
    exact ⟨⟨rfl, by simp [widgetDescriptor], nofun, nofun, nofun, nofun, nofun, fun _ => rfl,
      by simp [widgetDescriptor], by simp [widgetDescriptor]⟩, texts, .widget _ _, rfl, fun _ => rfl⟩

theorem descriptorForModuleToggle_wellFormed [DecidableEq W] {descriptor : ActionDescriptor ℚ W}
    (built : descriptorForModuleToggle module = some descriptor) : WellFormed descriptor := by
  simp only [descriptorForModuleToggle, Option.bind_eq_bind, Option.bind_eq_some_iff, guard_eq_some_iff] at built
  obtain ⟨off, -, referral, -, -, allowed, built⟩ := built
  obtain rfl := Option.some.inj built
  have labelled : module.name ++ " enabled" ≠ "" := by simp [String.append_eq_empty_iff]
  have texts := widgetDescriptor_texts module .setBool off allowed labelled
  exact ⟨⟨rfl, by simp [widgetDescriptor], nofun, nofun, nofun, nofun, nofun, fun _ => rfl,
    by simp [widgetDescriptor], by simp [widgetDescriptor]⟩, texts, .widget _ _, rfl, fun _ => rfl⟩

/-- A graph element is well formed when its default lies within the bounds of its graph. -/
theorem newFloatDescriptor_wellFormed {widget : Option W} {actionPath suffix label elementName : String}
    {range : FloatRange} {binding : DescriptorBinding} {channel element : Nat}
    (allowed : isActionPathAllowed actionPath = true) (labelled : label ≠ "") (known : suffix ∈ graphSuffixes)
    (lower : range.minNumber ≤ range.defaultNumber) (upper : range.defaultNumber ≤ range.maxNumber)
    (step : 0 < range.stepNumber) :
    WellFormed (newFloatDescriptor module widget actionPath suffix label range binding elementName channel element) := by
  have path : actionPath ≠ "" := by simpa [isActionPathAllowed] using allowed
  have texts : ∀ text ∈ [buildModuleId module, buildModuleLabel module, label, actionPath], text ≠ "" := by
    simp only [List.forall_mem_cons]
    exact ⟨buildModuleId_ne_empty module, buildModuleLabel_ne_empty module, labelled, path, by simp⟩
  exact ⟨⟨rfl, by simp [newFloatDescriptor], fun _ => ⟨lower, upper, step⟩, nofun, nofun, nofun, nofun,
    fun _ => rfl, by simp [newFloatDescriptor], by simp [newFloatDescriptor]⟩, texts, .element _ _ known, rfl, nofun⟩

theorem collectRgblevelsDescriptors_wellFormed {referral : ActionTarget W} {descriptor : ActionDescriptor ℚ W}
    (member : descriptor ∈ collectRgblevelsDescriptors module referral) : WellFormed descriptor := by
  obtain ⟨allowed, channel, isChannel, handle, isHandle, levels, initialised, rfl⟩ :=
    mem_collectRgblevelsDescriptors member
  obtain rfl := module.levelsInitialised levels initialised
  obtain ⟨lower, upper⟩ := rgblevelsInit_between channel.1 handle.1
  have labelled : channel.2.2 ++ " " ++ handle.2.2 ≠ "" := by simp [String.append_eq_empty_iff]
  exact newFloatDescriptor_wellFormed allowed labelled (rgblevels_mem_graphSuffixes isChannel isHandle) lower upper
    (by norm_num)

theorem collectColorzonesDescriptors_wellFormed {referral : ActionTarget W} {descriptor : ActionDescriptor ℚ W}
    (member : descriptor ∈ collectColorzonesDescriptors widgets module referral) : WellFormed descriptor := by
  obtain ⟨allowed, channel, isChannel, band, isBand, curves, initialised, default, read, rfl⟩ :=
    mem_collectColorzonesDescriptors member
  obtain rfl := module.curvesInitialised curves initialised
  obtain ⟨lower, upper⟩ := colorzonesCurrentValue_between read
  have labelled : channel.2.2 ++ " " ++ band.2.2 ≠ "" := by simp [String.append_eq_empty_iff]
  exact newFloatDescriptor_wellFormed allowed labelled (colorzones_mem_graphSuffixes isChannel isBand) lower upper
    (by norm_num)

theorem moduleDescriptors_wellFormed [DecidableEq W] (provided : ModuleProvided widgets state module) :
    ∀ descriptor ∈ moduleDescriptors widgets state module, WellFormed descriptor := by
  intro descriptor member
  rcases mem_moduleDescriptors member with toggle | ⟨referral, inList, widget | levels | curves⟩
  · exact descriptorForModuleToggle_wellFormed toggle
  · exact descriptorForWidget_wellFormed provided inList widget
  · exact collectRgblevelsDescriptors_wellFormed levels
  · exact collectColorzonesDescriptors_wellFormed curves

end Collected

/-- The catalog lists well-formed descriptors under distinct capability ids. -/
theorem catalogCollectDescriptors_wellFormed {σ W : Type} [DecidableEq W] (workbench : Workbench σ W) {state : σ}
    (provided : ∀ modules, workbench.modules state = some modules →
      ∀ module ∈ modules, ModuleProvided workbench.widgets state module)
    {descriptors : List (ActionDescriptor ℚ W)}
    (collected : catalogCollectDescriptors workbench.toDarkroom state = .ok descriptors) :
    (∀ descriptor ∈ descriptors, WellFormed descriptor) ∧ (descriptors.map (·.capabilityId)).Nodup := by
  unfold catalogCollectDescriptors at collected
  rw [workbench.collected] at collected
  cases known : workbench.modules state with
  | none => simp [known] at collected
  | some modules =>
    simp only [known, Option.map_some, Except.ok.injEq] at collected
    subst collected
    have wellFormed : ∀ descriptor ∈ addDescriptorsUnique []
        (modules.flatMap (moduleDescriptors workbench.widgets state)), WellFormed descriptor := by
      intro descriptor member
      obtain ⟨module, inModules, collected⟩ := List.mem_flatMap.mp ((addDescriptorsUnique_sublist _ _).subset member)
      exact moduleDescriptors_wellFormed (provided modules known module inModules) descriptor collected
    refine ⟨wellFormed, ?_⟩
    -- setting ids are distinct by construction, and so are the capability ids built from them
    have settingIds := (addDescriptorsUnique_spec []
      (modules.flatMap (moduleDescriptors workbench.widgets state))).1
    rw [List.Nodup, List.pairwise_map] at settingIds ⊢
    refine settingIds.imp_of_mem fun {first second} firstListed secondListed distinct same => distinct ?_
    rw [(wellFormed first firstListed).capabilityId, (wellFormed second secondListed).capabilityId] at same
    exact buildCapabilityId_injective (wellFormed first firstListed).name (wellFormed second secondListed).name same

end DarktableAgent.Client
