import DarktableAgent.Foundation.Reading
import DarktableAgent.Client.Identifiers

/-! Which controls their setting ids tell apart.

An instance number and a channel suffix can be read back from a setting id, an action
path only up to its letters and digits. Where two paths agree in these, the collection
keeps the first control and drops the other.
-/

set_option autoImplicit false

namespace DarktableAgent.Client

open Foundation Protocol

section Spelling

/-- The characters that a channel suffix adds to a setting id. -/
def suffixTail (suffix : String) : List Char := if suffix = "" then [] else '.' :: suffix.toList

theorem suffixTail_free : ∀ suffix ∈ "" :: graphSuffixes, ∀ c ∈ suffixTail suffix, c.isDigit = false := by
  intro suffix known
  unfold suffixTail
  split_ifs with empty
  · simp
  · obtain ⟨-, words⟩ := graphSuffixes_words ((List.mem_cons.mp known).resolve_left empty)
    exact List.forall_mem_cons.mpr ⟨rfl, fun c member => (words c member).2⟩

theorem suffixTail_injective {left right : String} (same : suffixTail left = suffixTail right) : left = right := by
  unfold suffixTail at same
  split_ifs at same with leftEmpty rightEmpty
  · rw [leftEmpty, rightEmpty]
  · exact String.toList_inj.mp (List.cons.inj same).2

theorem buildSettingIdWithSuffix_toList (actionPath : String) (multiPriority : Int) {suffix : String}
    (known : suffix ∈ "" :: graphSuffixes) :
    (buildSettingIdWithSuffix actionPath multiPriority suffix).toList =
      "setting.".toList ++ (sanitizeIdSegment actionPath).toList ++ ".instance.".toList ++
        (toString multiPriority).toList ++ suffixTail suffix := by
  unfold buildSettingIdWithSuffix suffixTail
  split_ifs with empty
  · simp only [buildSettingId, String.toList_append, List.append_nil]
  · have graph := (List.mem_cons.mp known).resolve_left empty
    rw [sanitizeIdSegment_of_graph graph]
    simp only [buildSettingId, String.toList_append, List.append_assoc]
    rfl

/-- What stands before the digits of the instance ends in its minus sign or in a dot. -/
theorem sign_ends {sign : List Char} (signed : sign = [] ∨ sign = ['-']) (segment : List Char) :
    ∃ front last, "setting.".toList ++ segment ++ ".instance.".toList ++ sign = front ++ [last] ∧
      last.isDigit = false ∧ (last = '.' ∧ sign = [] ∨ last = '-' ∧ sign = ['-']) := by
  rcases signed with rfl | rfl
  · have dotted : ".instance.".toList = ".instance".toList ++ ['.'] := by decide
    refine ⟨"setting.".toList ++ segment ++ ".instance".toList, '.', ?_, by decide, Or.inl ⟨rfl, rfl⟩⟩
    rw [dotted, List.append_nil, ← List.append_assoc]
  · exact ⟨_, '-', rfl, by decide, Or.inr ⟨rfl, rfl⟩⟩

theorem spelled_unique {segment other : List Char} {first second : Int} {tail rest : List Char}
    (free : ∀ c ∈ tail, c.isDigit = false) (clear : ∀ c ∈ rest, c.isDigit = false)
    (same : "setting.".toList ++ segment ++ ".instance.".toList ++ (toString first).toList ++ tail =
      "setting.".toList ++ other ++ ".instance.".toList ++ (toString second).toList ++ rest) :
    segment = other ∧ first = second ∧ tail = rest := by
  obtain ⟨sign, init, last, signed, digits, numeral⟩ := numeral_parts first
  obtain ⟨sign', init', last', signed', digits', numeral'⟩ := numeral_parts second
  rw [numeral, numeral'] at same
  simp only [← List.append_assoc] at same
  -- no digit follows the instance, so its last digit is where the tail begins
  obtain ⟨numbered, tails⟩ := cut_after_injective Char.isDigit (digits last (by simp)) (digits' last' (by simp))
    free clear same
  obtain ⟨front, mark, spelled, isMark, marks⟩ := sign_ends signed segment
  obtain ⟨front', mark', spelled', isMark', marks'⟩ := sign_ends signed' other
  rw [spelled, spelled', List.append_assoc, List.append_assoc _ _ [last']] at numbered
  -- and its first digit is where the last sign or dot ends
  obtain ⟨fronts, sameDigits⟩ := cut_after_injective (fun c => !c.isDigit) (by simp [isMark]) (by simp [isMark'])
    (fun c member => by simp [digits c member]) (fun c member => by simp [digits' c member]) numbered
  have sameMark : mark = mark' := by simpa using (List.append_inj' fronts rfl).2
  have sameSign : sign = sign' := by
    rcases marks with ⟨rfl, rfl⟩ | ⟨rfl, rfl⟩ <;> rcases marks' with ⟨rfl, rfl⟩ | ⟨rfl, rfl⟩
    · rfl
    · exact absurd sameMark (by decide)
    · exact absurd sameMark (by decide)
    · rfl
  subst sameSign
  have words := spelled.trans (fronts.trans spelled'.symm)
  constructor
  · exact List.append_cancel_left (List.append_cancel_right (List.append_cancel_right words))
  constructor
  · apply toString_int_injective
    apply String.toList_inj.mp
    rw [numeral, numeral', List.append_assoc, sameDigits, ← List.append_assoc]
  · exact tails

/-- Setting ids agree exactly when the instances, the suffixes and the sanitised paths do. -/
theorem buildSettingIdWithSuffix_eq_iff {left right : String} {first second : Int} {suffix other : String}
    (known : suffix ∈ "" :: graphSuffixes) (otherKnown : other ∈ "" :: graphSuffixes) :
    buildSettingIdWithSuffix left first suffix = buildSettingIdWithSuffix right second other ↔
      sanitizeIdSegment left = sanitizeIdSegment right ∧ first = second ∧ suffix = other := by
  constructor
  · intro same
    have chars := congrArg String.toList same
    rw [buildSettingIdWithSuffix_toList left first known,
      buildSettingIdWithSuffix_toList right second otherKnown] at chars
    obtain ⟨segments, instances, tails⟩ := spelled_unique (suffixTail_free suffix known)
      (suffixTail_free other otherKnown) chars
    exact ⟨String.toList_inj.mp segments, instances, suffixTail_injective tails⟩
  · rintro ⟨segments, rfl, rfl⟩
    simp only [buildSettingIdWithSuffix, buildSettingId, segments]

end Spelling

/-- What tells two controls apart: the module, by its place in the pipeline, the path and the suffix. -/
structure ControlKey where
  module : Nat
  actionPath : String
  suffix : String
  deriving DecidableEq, Repr

section Collected

variable {σ W : Type}

/-- The channel and the element of a graph that a descriptor is bound to, and nothing for a widget. -/
def ActionDescriptor.channelSuffix (descriptor : ActionDescriptor ℚ W) : String :=
  match descriptor.binding with
  | .widget => ""
  | .rgblevelsHandle =>
    (rgblevelsChannels.map (·.2.1)).getD descriptor.channelIndex "" ++ "." ++ descriptor.elementName
  | .colorzonesBand =>
    (colorzonesChannels.map (·.2.1)).getD descriptor.channelIndex "" ++ "." ++ descriptor.elementName

/-- A descriptor in the order of collection, with the module that it is collected from. -/
structure MetControl (W : Type) where
  position : Nat
  multiPriority : Int
  descriptor : ActionDescriptor ℚ W
  deriving DecidableEq, Repr

def MetControl.key (control : MetControl W) : ControlKey where
  module := control.position
  actionPath := control.descriptor.actionPath
  suffix := control.descriptor.channelSuffix

/-- How a control of a module is spelled. -/
structure Spelled (multiPriority : Int) (descriptor : ActionDescriptor ℚ W) : Prop where
  allowed : isActionPathAllowed descriptor.actionPath = true
  known : descriptor.channelSuffix ∈ "" :: graphSuffixes
  settingId : descriptor.settingId =
    buildSettingIdWithSuffix descriptor.actionPath multiPriority descriptor.channelSuffix

theorem Spelled.settingId_ne_empty {multiPriority : Int} {descriptor : ActionDescriptor ℚ W}
    (spelled : Spelled multiPriority descriptor) : descriptor.settingId ≠ "" := by
  intro empty
  have chars := buildSettingIdWithSuffix_toList descriptor.actionPath multiPriority spelled.known
  rw [← spelled.settingId, empty] at chars
  simp at chars

variable {widgets : Widgets σ W} {state : σ} {module : IopModule W}

theorem descriptorForWidget_spelled {referral : ActionTarget W} {descriptor : ActionDescriptor ℚ W}
    (built : descriptorForWidget widgets state module referral = some descriptor) :
    Spelled module.multiPriority descriptor := by
  simp only [descriptorForWidget, Option.bind_eq_bind, Option.bind_eq_some_iff, guard_eq_some_iff] at built
  obtain ⟨widget, -, field, -, kind, -, -, allowed, built⟩ := built
  cases kind with
  | setFloat =>
    obtain ⟨range, -, built⟩ := Option.bind_eq_some_iff.mp built
    obtain rfl := Option.some.inj built
    exact ⟨allowed, List.mem_cons_self, rfl⟩
  | setChoice =>
    obtain rfl := Option.some.inj built
    exact ⟨allowed, List.mem_cons_self, rfl⟩
  | setBool =>
    obtain rfl := Option.some.inj built
    exact ⟨allowed, List.mem_cons_self, rfl⟩

theorem descriptorForModuleToggle_spelled [DecidableEq W] {descriptor : ActionDescriptor ℚ W}
    (built : descriptorForModuleToggle module = some descriptor) : Spelled module.multiPriority descriptor := by
  simp only [descriptorForModuleToggle, Option.bind_eq_bind, Option.bind_eq_some_iff, guard_eq_some_iff] at built
  obtain ⟨off, -, referral, -, -, allowed, built⟩ := built
  obtain rfl := Option.some.inj built
  exact ⟨allowed, List.mem_cons_self, rfl⟩

theorem rgblevelsChannel_getD : ∀ channel ∈ rgblevelsChannels,
    (rgblevelsChannels.map (·.2.1)).getD channel.1 "" = channel.2.1 := by decide

theorem colorzonesChannel_getD : ∀ channel ∈ colorzonesChannels,
    (colorzonesChannels.map (·.2.1)).getD channel.1 "" = channel.2.1 := by decide

theorem newFloatDescriptor_spelled {widget : Option W} {actionPath suffix label elementName : String}
    {range : FloatRange} {binding : DescriptorBinding} {channel element : Nat}
    (allowed : isActionPathAllowed actionPath = true) (known : suffix ∈ graphSuffixes)
    (named : (newFloatDescriptor module widget actionPath suffix label range binding elementName channel
      element).channelSuffix = suffix) :
    Spelled module.multiPriority
      (newFloatDescriptor module widget actionPath suffix label range binding elementName channel element) where
  allowed := allowed
  known := by
    rw [named]
    exact List.mem_cons_of_mem _ known
  settingId := by
    rw [named]
    rfl

theorem collectRgblevelsDescriptors_spelled {referral : ActionTarget W} {descriptor : ActionDescriptor ℚ W}
    (member : descriptor ∈ collectRgblevelsDescriptors module referral) :
    Spelled module.multiPriority descriptor := by
  obtain ⟨allowed, channel, isChannel, handle, isHandle, levels, -, rfl⟩ := mem_collectRgblevelsDescriptors member
  apply newFloatDescriptor_spelled allowed (rgblevels_mem_graphSuffixes isChannel isHandle)
  simp only [ActionDescriptor.channelSuffix, newFloatDescriptor, rgblevelsChannel_getD channel isChannel]

theorem collectColorzonesDescriptors_spelled {referral : ActionTarget W} {descriptor : ActionDescriptor ℚ W}
    (member : descriptor ∈ collectColorzonesDescriptors widgets module referral) :
    Spelled module.multiPriority descriptor := by
  obtain ⟨allowed, channel, isChannel, band, isBand, curves, -, default, -, rfl⟩ :=
    mem_collectColorzonesDescriptors member
  apply newFloatDescriptor_spelled allowed (colorzones_mem_graphSuffixes isChannel isBand)
  simp only [ActionDescriptor.channelSuffix, newFloatDescriptor, colorzonesChannel_getD channel isChannel]

theorem moduleDescriptors_spelled [DecidableEq W] :
    ∀ descriptor ∈ moduleDescriptors widgets state module, Spelled module.multiPriority descriptor := by
  intro descriptor member
  rcases mem_moduleDescriptors member with toggle | ⟨referral, -, widget | levels | curves⟩
  · exact descriptorForModuleToggle_spelled toggle
  · exact descriptorForWidget_spelled widget
  · exact collectRgblevelsDescriptors_spelled levels
  · exact collectColorzonesDescriptors_spelled curves

variable [DecidableEq W] (workbench : Workbench σ W)

/-- The controls that the collection meets, before any is dropped. -/
def metControls (state : σ) : List (MetControl W) :=
  ((workbench.modules state).getD []).zipIdx.flatMap fun (module, position) =>
    (moduleDescriptors workbench.widgets state module).map fun descriptor =>
      ⟨position, module.multiPriority, descriptor⟩

/-- What is collected holds every control, and a lookup by its own path and id returns it. -/
def OffersEach (state : σ) : Prop :=
  ∀ descriptors, catalogCollectDescriptors workbench.toDarkroom state = .ok descriptors →
    ∃ kept : List (MetControl W), kept.Sublist (metControls workbench state) ∧
      kept.map (·.descriptor) = descriptors ∧
      ∀ control ∈ metControls workbench state, ∃ same ∈ kept, same.key = control.key ∧
        catalogFindDescriptor workbench.toDarkroom state control.descriptor.actionPath
          control.descriptor.settingId = .ok same.descriptor

/-- Different controls have different setting ids, so that none is dropped or mistaken for another. -/
structure SettingIdsIdentify (state : σ) : Prop where
  apart : ∀ first ∈ metControls workbench state, ∀ second ∈ metControls workbench state,
    first.key ≠ second.key → first.descriptor.settingId ≠ second.descriptor.settingId
  offers : OffersEach workbench state

/-- No two controls of one instance number and one suffix have paths that agree in letters and digits. -/
def PathsApart (state : σ) : Prop :=
  ∀ first ∈ metControls workbench state, ∀ second ∈ metControls workbench state,
    first.multiPriority = second.multiPriority →
      first.descriptor.channelSuffix = second.descriptor.channelSuffix →
        sanitizeIdSegment first.descriptor.actionPath = sanitizeIdSegment second.descriptor.actionPath →
          first.key = second.key

variable {workbench}

theorem metControls_spelled {control : MetControl W} (met : control ∈ metControls workbench state) :
    Spelled control.multiPriority control.descriptor := by
  obtain ⟨⟨module, position⟩, -, listed⟩ := List.mem_flatMap.mp met
  obtain ⟨descriptor, member, rfl⟩ := List.mem_map.mp listed
  exact moduleDescriptors_spelled descriptor member

/-- A place in the pipeline has one instance number. -/
theorem multiPriority_of_position {first second : MetControl W} (firstMet : first ∈ metControls workbench state)
    (secondMet : second ∈ metControls workbench state) (same : first.position = second.position) :
    first.multiPriority = second.multiPriority := by
  obtain ⟨⟨module, position⟩, inModules, listed⟩ := List.mem_flatMap.mp firstMet
  obtain ⟨⟨other, place⟩, inModules', listed'⟩ := List.mem_flatMap.mp secondMet
  obtain ⟨descriptor, -, rfl⟩ := List.mem_map.mp listed
  obtain ⟨descriptor', -, rfl⟩ := List.mem_map.mp listed'
  dsimp only at same
  subst same
  have here := List.mem_zipIdx_iff_getElem?.mp inModules
  have there := List.mem_zipIdx_iff_getElem?.mp inModules'
  have sameModule : module = other := Option.some.inj (here.symm.trans there)
  rw [sameModule]

/-- The controls with one setting id are those of one instance, suffix and sanitised path. -/
theorem settingId_eq_iff {first second : MetControl W} (firstMet : first ∈ metControls workbench state)
    (secondMet : second ∈ metControls workbench state) :
    first.descriptor.settingId = second.descriptor.settingId ↔
      first.multiPriority = second.multiPriority ∧
        first.descriptor.channelSuffix = second.descriptor.channelSuffix ∧
          sanitizeIdSegment first.descriptor.actionPath = sanitizeIdSegment second.descriptor.actionPath := by
  have left := metControls_spelled firstMet
  have right := metControls_spelled secondMet
  rw [left.settingId, right.settingId, buildSettingIdWithSuffix_eq_iff left.known right.known]
  constructor
  · rintro ⟨segments, instances, suffixes⟩
    exact ⟨instances, suffixes, segments⟩
  · rintro ⟨instances, suffixes, segments⟩
    exact ⟨segments, instances, suffixes⟩

theorem settingId_of_key {first second : MetControl W} (firstMet : first ∈ metControls workbench state)
    (secondMet : second ∈ metControls workbench state) (same : first.key = second.key) :
    first.descriptor.settingId = second.descriptor.settingId := by
  obtain ⟨places, paths, suffixes⟩ := ControlKey.mk.inj same
  apply (settingId_eq_iff firstMet secondMet).mpr
  exact ⟨multiPriority_of_position firstMet secondMet places, suffixes, by rw [paths]⟩

theorem metControls_descriptors (state : σ) {modules : List (IopModule W)}
    (present : workbench.modules state = some modules) :
    (metControls workbench state).map (·.descriptor) =
      modules.flatMap (moduleDescriptors workbench.widgets state) := by
  have modulesOnly : modules = modules.zipIdx.map Prod.fst := by simp
  rw [metControls, present, Option.getD_some, List.map_flatMap]
  conv_rhs => rw [modulesOnly, List.flatMap_map]
  apply List.flatMap_congr
  intro numbered _
  simp [Function.comp_def]

/-- What is listed are the first controls of each setting id. -/
theorem catalogCollectDescriptors_kept {state : σ} {descriptors : List (ActionDescriptor ℚ W)}
    (collected : catalogCollectDescriptors workbench.toDarkroom state = .ok descriptors) :
    (firstOfKey (·.descriptor.settingId) [] (metControls workbench state)).map (·.descriptor) = descriptors := by
  unfold catalogCollectDescriptors at collected
  rw [workbench.collected] at collected
  cases present : workbench.modules state with
  | none => simp [present] at collected
  | some modules =>
    simp only [present, Option.map_some, Except.ok.injEq] at collected
    have allowed : ∀ descriptor ∈ (metControls workbench state).map (·.descriptor),
        isActionPathAllowed descriptor.actionPath = true := by
      intro descriptor member
      obtain ⟨control, met, rfl⟩ := List.mem_map.mp member
      exact (metControls_spelled met).allowed
    calc
      (firstOfKey (·.descriptor.settingId) [] (metControls workbench state)).map (·.descriptor) =
          firstOfKey (·.settingId) [] ((metControls workbench state).map (·.descriptor)) :=
        (firstOfKey_map (fun descriptor : ActionDescriptor ℚ W => descriptor.settingId) _ _ _).symm
      _ = addDescriptorsUnique [] ((metControls workbench state).map (·.descriptor)) := by
        rw [addDescriptorsUnique_eq, List.filter_eq_self.mpr allowed]
      _ = descriptors := by rw [metControls_descriptors state present, collected]

/-- A control is dropped exactly where two paths agree. -/
theorem offersEach_iff (workbench : Workbench σ W) (state : σ) :
    OffersEach workbench state ↔ PathsApart workbench state := by
  constructor
  · intro offers first firstMet second secondMet instances suffixes segments
    cases present : workbench.modules state with
    | none => simp [metControls, present] at firstMet
    | some modules =>
      have met : workbench.candidates state = some (modules.flatMap (moduleDescriptors workbench.widgets state)) := by
        rw [workbench.collected, present]
        rfl
      obtain ⟨kept, sublist, listed, covers⟩ := offers _ (by rw [catalogCollectDescriptors, met])
      have distinct : (kept.map (·.descriptor.settingId)).Nodup := by
        have ids := (addDescriptorsUnique_spec [] (modules.flatMap (moduleDescriptors workbench.widgets state))).1
        rwa [← listed, List.map_map] at ids
      -- the kept ids are distinct and every control is kept under its own name
      apply name_eq_of_key_eq _ sublist distinct
      · intro left leftMet right rightMet same
        exact settingId_of_key leftMet rightMet same
      · intro control inMet
        obtain ⟨same, inKept, sameKey, -⟩ := covers control inMet
        exact ⟨same, inKept, sameKey⟩
      · exact firstMet
      · exact secondMet
      · exact (settingId_eq_iff firstMet secondMet).mpr ⟨instances, suffixes, segments⟩
  · intro apart descriptors collected
    have listed := catalogCollectDescriptors_kept collected
    refine ⟨_, firstOfKey_sublist _ [] _, listed, ?_⟩
    intro control met
    obtain ⟨same, inKept, sameId⟩ := firstOfKey_covers (·.descriptor.settingId) met List.not_mem_nil
    have sameMet := (firstOfKey_sublist _ _ _).subset inKept
    obtain ⟨instances, suffixes, segments⟩ := (settingId_eq_iff sameMet met).mp sameId
    have sameKey := apart same sameMet control met instances suffixes segments
    have samePath : same.descriptor.actionPath = control.descriptor.actionPath := congrArg ControlKey.actionPath sameKey
    refine ⟨same, inKept, sameKey, ?_⟩
    rw [← samePath, ← sameId]
    apply catalogFindDescriptor_of_listed _ _ collected
    · rw [← listed]
      exact List.mem_map_of_mem inKept
    · exact (metControls_spelled sameMet).settingId_ne_empty

/-- Setting ids identify the controls exactly where the paths keep apart when only their letters and
digits are read. -/
theorem settingIds_identify_iff (workbench : Workbench σ W) (state : σ) :
    SettingIdsIdentify workbench state ↔ PathsApart workbench state := by
  constructor
  · exact fun identify => (offersEach_iff workbench state).mp identify.offers
  · intro apart
    constructor
    · intro first firstMet second secondMet different sameId
      obtain ⟨instances, suffixes, segments⟩ := (settingId_eq_iff firstMet secondMet).mp sameId
      exact different (apart first firstMet second secondMet instances suffixes segments)
    · exact (offersEach_iff workbench state).mpr apart

end Collected

/-! A module with two sliders, and with the ids of their actions left open. -/

def sliderWidgets : Widgets Unit Nat where
  field _ _ _ := some ⟨"point", .float, none, 0, false⟩
  sliderGetHardMin _ _ := some 0
  sliderGetHardMax _ _ := some 1
  sliderGetDefault _ _ := some 0
  sliderGet _ _ := some 0
  sliderGetStep _ _ := some (1 / 100)
  comboboxGet _ _ := 0
  comboboxEntries _ _ := []
  comboboxGetDefault _ _ := 0
  isToggleButton _ _ := false
  toggleGetActive _ _ := false
  nearest := id
  nearestMonotone := monotone_id
  nearestInt := nearestInt_id
  drawCurveCalcValue _ _ _ := 0
  drawCurveBounded _ _ _ := ⟨le_refl 0, zero_le_one⟩

def sliderModule (first second : String) : IopModule Nat where
  op := "negadoctor"
  name := "negadoctor"
  multiPriority := 0
  off := none
  defaultEnabled := false
  widgetList := [⟨⟨["iop", "negadoctor"], first, some first⟩, some 0⟩,
    ⟨⟨["iop", "negadoctor"], second, some second⟩, some 1⟩]
  defaultLevels := none
  defaultCurves := none
  levelsInitialised := noLevels
  curvesInitialised := noCurves

def sliderWorkbench (first second : String) : Workbench Unit Nat where
  isCurrentView _ := true
  chromaAdaptation _ := false
  candidates _ := some (moduleDescriptors sliderWidgets () (sliderModule first second) ++ [])
  sliderGet _ _ := 0
  sliderSet state _ _ := state
  comboboxGetData _ _ := 0
  comboboxSetFromValue state _ _ := some state
  isToggleButton _ _ := false
  toggleGetActive _ _ := false
  toggleSetActive state _ _ := state
  readRgblevels _ _ := none
  writeRgblevels state _ _ := (state, none)
  readColorzones _ _ := none
  writeColorzones state _ _ := (state, none)
  widgets := sliderWidgets
  modules _ := some [sliderModule first second]
  collected _ := flatMap_moduleDescriptors_single ..
  sliderRead _ _ _ read := Option.some.inj read
  toggleKnown _ _ := rfl

/-- Of two sliders whose ids differ in a hyphen the second is dropped. -/
theorem whitePoints_confused : ¬ SettingIdsIdentify (sliderWorkbench "white point" "white-point") () := by
  intro identify
  have confused : ∃ first ∈ metControls (sliderWorkbench "white point" "white-point") (),
      ∃ second ∈ metControls (sliderWorkbench "white point" "white-point") (),
        first.key ≠ second.key ∧ first.descriptor.settingId = second.descriptor.settingId := by decide +kernel
  obtain ⟨first, firstMet, second, secondMet, different, same⟩ := confused
  exact identify.apart first firstMet second secondMet different same

example : PathsApart (sliderWorkbench "white point" "black point") () := by
  unfold PathsApart
  decide +kernel

end DarktableAgent.Client
