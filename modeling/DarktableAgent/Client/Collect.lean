import DarktableAgent.Client.ImageState

/-! The descriptors of the catalog, as they are collected from the modules of the darkroom.

A module contributes its on-off button, the widgets bound to a parameter that the
introspection knows, and the handles of the two graphs that have no widgets of their own.
-/

set_option autoImplicit false

namespace DarktableAgent.Client

open Protocol

/-- An action, under the ids of its owners, the outermost first. -/
structure Action where
  owners : List String
  id : String
  label : Option String
  deriving DecidableEq, Repr

def escapeActionId (id : String) : List Char :=
  id.toList.flatMap fun c =>
    if c = '@' then ['@', '@']
    else if c = ';' then ['@', ':']
    else if c = '/' then ['@', '<']
    else if c = '\\' then ['@', '>']
    else [c]

/-- `_action_full_id`. The slash is left out while the path is empty. -/
def actionFullId (action : Action) : String :=
  String.ofList <| (action.owners ++ [action.id]).foldl
    (fun path id => path ++ (if path.isEmpty then [] else ['/']) ++ escapeActionId id) []

section Identifiers

/-- One character of an id segment. The source replaces bytes, of which a character may have several. -/
def sanitizeChar (c : Char) : List Char := if c.isAlphanum then [c] else List.replicate c.utf8Size '.'

def sanitizeChars (text : List Char) : List Char := text.flatMap sanitizeChar

def sanitizeIdSegment (value : String) : String :=
  if value = "" then "unknown" else String.ofList (sanitizeChars value.toList)

def buildSettingId (actionPath : String) (multiPriority : Int) : String :=
  "setting." ++ sanitizeIdSegment actionPath ++ ".instance." ++ toString multiPriority

def buildSettingIdWithSuffix (actionPath : String) (multiPriority : Int) (suffix : String) : String :=
  if suffix = "" then buildSettingId actionPath multiPriority
  else buildSettingId actionPath multiPriority ++ "." ++ sanitizeIdSegment suffix

def buildCapabilityId (settingId : String) : String := "capability." ++ sanitizeIdSegment settingId

end Identifiers

inductive IntrospectionType where
  | opaqueBytes | float | double | floatcomplex | char | int8 | uint8 | short | ushort | int | uint | long | ulong
  | bool | array | enum | struct | union
  deriving DecidableEq, Repr

structure EnumTuple where
  name : String
  value : Int
  description : Option String
  deriving DecidableEq, Repr

/-- A parameter of a module. The table and the defaults are read for enumerations and flags only. -/
structure IntrospectionField where
  fieldName : String
  type : IntrospectionType
  enumValues : Option (List EnumTuple)
  enumDefault : Int
  boolDefault : Bool
  deriving DecidableEq, Repr

def isNumericField (field : IntrospectionField) : Bool :=
  field.type ∈ [.float, .double, .int, .uint, .short, .ushort, .int8, .uint8, .char]

/-- The handles of the levels graph, by channel. -/
abbrev RgblevelsParams := Fin 3 → Fin 3 → ℚ

/-- `init` of the levels module: black, gray and white of every channel. -/
def rgblevelsInit : RgblevelsParams := fun _ handle => match handle with
  | 0 => 0
  | 1 => 1 / 2
  | 2 => 1

structure ColorzonesParams where
  /-- The nodes in use, by channel. -/
  curve : Fin 3 → List (ℚ × ℚ)
  curveType : Fin 3 → Int
  selectBy : Int
  splinesVersion : Int

/-- `init` of the color zones: two flat nodes a channel, away from the edges, since hue selects. -/
def colorzonesInit : ColorzonesParams where
  curve _ := [(1 / 4, 1 / 2), (3 / 4, 1 / 2)]
  curveType _ := 1
  selectBy := 2
  splinesVersion := 1

/-- Without defaults of a graph there is nothing to check. -/
theorem noLevels (params : RgblevelsParams) (none : (none : Option RgblevelsParams) = some params) :
    params = rgblevelsInit := nomatch none

theorem noCurves (params : ColorzonesParams) (none : (none : Option ColorzonesParams) = some params) :
    params = colorzonesInit := nomatch none

/-- A widget or another object that an action is attached to. -/
structure ActionTarget (W : Type) where
  action : Action
  target : Option W

/-- A module of the pipeline, with the defaults that its `init` has set for a graph. -/
structure IopModule (W : Type) where
  op : String
  name : String
  multiPriority : Int
  off : Option W
  defaultEnabled : Bool
  widgetList : List (ActionTarget W)
  defaultLevels : Option RgblevelsParams
  defaultCurves : Option ColorzonesParams
  levelsInitialised : ∀ params, defaultLevels = some params → params = rgblevelsInit
  curvesInitialised : ∀ params, defaultCurves = some params → params = colorzonesInit

/-- What the collection reads of a widget. A slider reading that is not finite is `none`. -/
structure Widgets (σ W : Type) where
  field : σ → IopModule W → W → Option IntrospectionField
  sliderGetHardMin : σ → W → Option ℚ
  sliderGetHardMax : σ → W → Option ℚ
  sliderGetDefault : σ → W → Option ℚ
  sliderGet : σ → W → Option ℚ
  sliderGetStep : σ → W → Option ℚ
  comboboxGet : σ → W → Int
  comboboxEntries : σ → W → List String
  comboboxGetDefault : σ → W → Int
  isToggleButton : σ → W → Bool
  toggleGetActive : σ → W → Bool
  /-- The double nearest to a result. -/
  nearest : ℚ → ℚ
  nearestMonotone : Monotone nearest
  nearestInt : ∀ value : Int, |value| ≤ 2 ^ 53 → nearest value = value
  /-- `dt_draw_curve_calc_value` on a curve drawn between the heights 0 and 1. -/
  drawCurveCalcValue : Int → List (ℚ × ℚ) → ℚ → ℚ
  drawCurveBounded : ∀ type points x, 0 ≤ drawCurveCalcValue type points x ∧ drawCurveCalcValue type points x ≤ 1

/-- Exact arithmetic rounds nothing. -/
theorem nearestInt_id (value : Int) (_ : |value| ≤ 2 ^ 53) : id (value : ℚ) = value := rfl

def rgblevelsChannels : List (Fin 3 × String × String) := [(0, "red", "R"), (1, "green", "G"), (2, "blue", "B")]

def rgblevelsHandles : List (Fin 3 × String × String) :=
  [(0, "black", "black"), (1, "gray", "gray"), (2, "white", "white")]

def colorzonesChannels : List (Fin 3 × String × String) :=
  [(0, "lightness", "lightness"), (1, "chroma", "chroma"), (2, "hue", "hue")]

def colorzonesBands : List (Fin 8 × String × String) :=
  [(0, "red", "red"), (1, "orange", "orange"), (2, "yellow", "yellow"), (3, "green", "green"), (4, "aqua", "aqua"),
    (5, "blue", "blue"), (6, "purple", "purple"), (7, "magenta", "magenta")]

section Collect

variable {σ W : Type}

def buildModuleId (module : IopModule W) : String := if module.op ≠ "" then module.op else "unknown"

def buildModuleLabel (module : IopModule W) : String :=
  if module.name ≠ "" then module.name else if module.op ≠ "" then module.op else "unknown"

structure FloatRange where
  minNumber : ℚ
  maxNumber : ℚ
  defaultNumber : ℚ
  stepNumber : ℚ
  deriving DecidableEq, Repr

variable (widgets : Widgets σ W) (state : σ)

/-- `_initialize_float_descriptor` -/
def initializeFloatDescriptor (widget : W) : Option FloatRange := do
  let current ← widgets.sliderGet state widget
  let min := (widgets.sliderGetHardMin state widget).getD current
  let max := (widgets.sliderGetHardMax state widget).getD current
  -- a slider may have its bounds the other way round
  let (min, max) := if max < min then (max, min) else (min, max)
  let default := clamp ((widgets.sliderGetDefault state widget).getD current) min max
  let fallback :=
    let range := |widgets.nearest (max - min)|
    let thousandth := widgets.nearest (range / 1000)
    if 0 < range then (if 1 / 10000 < thousandth then thousandth else 1 / 10000) else 1 / 10000
  let step := match widgets.sliderGetStep state widget with
    | some step => if step ≤ 0 then fallback else step
    | none => fallback
  return ⟨min, max, default, step⟩

/-- `_populate_choice_options`: the options and the default, when there is one. -/
def populateChoiceOptions (widget : W) (field : IntrospectionField) : List DescriptorChoice × Option Int :=
  match field.type, field.enumValues with
  | .enum, some table =>
    (table.map fun entry =>
      let described := entry.description.getD ""
      ⟨entry.value, entry.name, if described ≠ "" then described else entry.name⟩, some field.enumDefault)
  | _, _ =>
    ((widgets.comboboxEntries state widget).zipIdx.map fun (entry, pos) =>
      ⟨pos, "choice." ++ toString pos, entry⟩,
      -- without a selection there is no default
      if 0 ≤ widgets.comboboxGet state widget then some (widgets.comboboxGetDefault state widget) else none)

/-- A descriptor that is bound to a widget, before its kind fills in the values. -/
def widgetDescriptor (module : IopModule W) (actionPath label : String) (kind : OperationKind) (widget : W) :
    ActionDescriptor ℚ W where
  moduleId := buildModuleId module
  moduleLabel := buildModuleLabel module
  settingId := buildSettingId actionPath module.multiPriority
  capabilityId := buildCapabilityId (buildSettingId actionPath module.multiPriority)
  label := label
  actionPath := actionPath
  operationKind := kind
  supportsSet := true
  supportsDelta := false
  binding := .widget
  widget := some widget
  elementName := ""
  channelIndex := 0
  elementIndex := 0
  hasNumberRange := false
  minNumber := 0
  maxNumber := 0
  defaultNumber := 0
  stepNumber := 0
  choices := []
  defaultChoiceValue := none
  defaultBool := none

def fieldOperationKind (field : IntrospectionField) : Option OperationKind :=
  if isNumericField field then some .setFloat
  else if field.type = .enum then some .setChoice
  else if field.type = .bool then some .setBool
  else none

def descriptorForWidget (module : IopModule W) (referral : ActionTarget W) : Option (ActionDescriptor ℚ W) := do
  let widget ← referral.target
  let field ← widgets.field state module widget
  let kind ← fieldOperationKind field
  let actionPath := actionFullId referral.action
  guard (isActionPathAllowed actionPath)
  let descriptor := widgetDescriptor module actionPath (referral.action.label.getD field.fieldName) kind widget
  match kind with
  | .setFloat =>
    let range ← initializeFloatDescriptor widgets state widget
    return { descriptor with
      supportsDelta := true
      hasNumberRange := true
      minNumber := range.minNumber
      maxNumber := range.maxNumber
      defaultNumber := range.defaultNumber
      stepNumber := range.stepNumber }
  | .setChoice =>
    let (choices, default) := populateChoiceOptions widgets state widget field
    return { descriptor with choices := choices, defaultChoiceValue := default }
  | .setBool =>
    return { descriptor with
      defaultBool := some (if widgets.isToggleButton state widget then widgets.toggleGetActive state widget
        else field.boolDefault) }

def descriptorForModuleToggle [DecidableEq W] (module : IopModule W) : Option (ActionDescriptor ℚ W) := do
  let off ← module.off
  let referral ← module.widgetList.find? (·.target = some off)
  let actionPath := actionFullId referral.action
  guard (isActionPathAllowed actionPath)
  return { widgetDescriptor module actionPath (module.name ++ " enabled") .setBool off with
    defaultBool := some module.defaultEnabled }

/-- `_new_float_descriptor` for an element of a graph. -/
def newFloatDescriptor (module : IopModule W) (widget : Option W) (actionPath suffix label : String)
    (range : FloatRange) (binding : DescriptorBinding) (elementName : String) (channel element : Nat) :
    ActionDescriptor ℚ W where
  moduleId := buildModuleId module
  moduleLabel := buildModuleLabel module
  settingId := buildSettingIdWithSuffix actionPath module.multiPriority suffix
  capabilityId := buildCapabilityId (buildSettingIdWithSuffix actionPath module.multiPriority suffix)
  label := label
  actionPath := actionPath
  operationKind := .setFloat
  supportsSet := true
  supportsDelta := true
  binding := binding
  widget := widget
  elementName := elementName
  channelIndex := channel
  elementIndex := element
  hasNumberRange := true
  minNumber := range.minNumber
  maxNumber := range.maxNumber
  defaultNumber := range.defaultNumber
  stepNumber := range.stepNumber
  choices := []
  defaultChoiceValue := none
  defaultBool := none

def collectRgblevelsDescriptors (module : IopModule W) (referral : ActionTarget W) :
    List (ActionDescriptor ℚ W) :=
  let actionPath := actionFullId referral.action
  if module.op ≠ "rgblevels" ∨ referral.action.id ≠ "levels" ∨ ¬ isActionPathAllowed actionPath then []
  else
    rgblevelsChannels.flatMap fun (channel, channelId, channelLabel) =>
      rgblevelsHandles.filterMap fun (handle, handleId, handleLabel) =>
        module.defaultLevels.map fun levels =>
          newFloatDescriptor module referral.target actionPath (channelId ++ "." ++ handleId)
            (channelLabel ++ " " ++ handleLabel) ⟨0, 1, levels channel handle, 1 / 1000⟩ .rgblevelsHandle handleId
            channel handle

/-- The points of `_colorzones_curve`: the first spline version adds one beyond each edge. -/
def colorzonesCurve (params : ColorzonesParams) (nodes : List (ℚ × ℚ)) : List (ℚ × ℚ) :=
  if params.splinesVersion = 0 then
    match nodes, nodes.getLast?, nodes.dropLast.getLast? with
    | first :: second :: _, some last, some beforeLast =>
      let periodic := params.selectBy = 2
      (beforeLast.1 - 1, if periodic then beforeLast.2 else first.2) :: nodes ++
        [(second.1 + 1, if periodic then second.2 else last.2)]
    | _, _, _ => nodes
  else nodes

/-- `_colorzones_current_value`: the height of a band, from a node that is near or from the drawn curve. -/
def colorzonesCurrentValue (params : ColorzonesParams) (channel : Fin 3) (band : Nat) : Option ℚ :=
  let nodes := params.curve channel
  let x : ℚ := band / 8
  if nodes.length < 2 then none
  else
    match nodes.find? fun node => |node.1 - x| ≤ 1 / 16 with
    | some node => some (widgets.nearest (node.2 * 2 - 1))
    | none =>
      let value := widgets.drawCurveCalcValue (params.curveType channel) (colorzonesCurve params nodes) x
      some (widgets.nearest (value * 2 - 1))

def collectColorzonesDescriptors (module : IopModule W) (referral : ActionTarget W) :
    List (ActionDescriptor ℚ W) :=
  let actionPath := actionFullId referral.action
  if module.op ≠ "colorzones" ∨ referral.action.id ≠ "graph" ∨ ¬ isActionPathAllowed actionPath then []
  else
    colorzonesChannels.flatMap fun (channel, channelId, channelLabel) =>
      colorzonesBands.filterMap fun (band, bandId, bandLabel) => do
        let curves ← module.defaultCurves
        let default ← colorzonesCurrentValue widgets curves channel band
        return newFloatDescriptor module referral.target actionPath (channelId ++ "." ++ bandId)
          (channelLabel ++ " " ++ bandLabel) ⟨-1, 1, default, 1 / 100⟩ .colorzonesBand bandId channel band

/-- The descriptors of one attached widget. Those of a graph are taken from the end. -/
def referralDescriptors (module : IopModule W) (referral : ActionTarget W) : List (ActionDescriptor ℚ W) :=
  (descriptorForWidget widgets state module referral).toList ++
    (collectRgblevelsDescriptors module referral ++ collectColorzonesDescriptors widgets module referral).reverse

def moduleDescriptors [DecidableEq W] (module : IopModule W) : List (ActionDescriptor ℚ W) :=
  (descriptorForModuleToggle module).toList ++ module.widgetList.flatMap (referralDescriptors widgets state module)

variable {widgets state} {module : IopModule W} {referral : ActionTarget W} {descriptor : ActionDescriptor ℚ W}

theorem mem_collectRgblevelsDescriptors (member : descriptor ∈ collectRgblevelsDescriptors module referral) :
    isActionPathAllowed (actionFullId referral.action) = true ∧
      ∃ channel ∈ rgblevelsChannels, ∃ handle ∈ rgblevelsHandles, ∃ levels, module.defaultLevels = some levels ∧
        descriptor = newFloatDescriptor module referral.target (actionFullId referral.action)
          (channel.2.1 ++ "." ++ handle.2.1) (channel.2.2 ++ " " ++ handle.2.2)
          ⟨0, 1, levels channel.1 handle.1, 1 / 1000⟩ .rgblevelsHandle handle.2.1 channel.1 handle.1 := by
  unfold collectRgblevelsDescriptors at member
  dsimp only at member
  split_ifs at member with excluded
  · cases member
  · simp only [List.mem_flatMap, List.mem_filterMap, Option.map_eq_some_iff] at member
    obtain ⟨channel, isChannel, handle, isHandle, levels, initialised, rfl⟩ := member
    constructor
    · simpa using fun disallowed => excluded (Or.inr (Or.inr disallowed))
    · exact ⟨channel, isChannel, handle, isHandle, levels, initialised, rfl⟩

theorem mem_collectColorzonesDescriptors
    (member : descriptor ∈ collectColorzonesDescriptors widgets module referral) :
    isActionPathAllowed (actionFullId referral.action) = true ∧
      ∃ channel ∈ colorzonesChannels, ∃ band ∈ colorzonesBands, ∃ curves, module.defaultCurves = some curves ∧
        ∃ default, colorzonesCurrentValue widgets curves channel.1 band.1 = some default ∧
          descriptor = newFloatDescriptor module referral.target (actionFullId referral.action)
            (channel.2.1 ++ "." ++ band.2.1) (channel.2.2 ++ " " ++ band.2.2)
            ⟨-1, 1, default, 1 / 100⟩ .colorzonesBand band.2.1 channel.1 band.1 := by
  unfold collectColorzonesDescriptors at member
  dsimp only at member
  split_ifs at member with excluded
  · cases member
  · simp only [List.mem_flatMap, List.mem_filterMap, Option.bind_eq_bind, Option.bind_eq_some_iff] at member
    obtain ⟨channel, isChannel, band, isBand, curves, initialised, default, read, built⟩ := member
    constructor
    · simpa using fun disallowed => excluded (Or.inr (Or.inr disallowed))
    · exact ⟨channel, isChannel, band, isBand, curves, initialised, default, read, (Option.some.inj built).symm⟩

/-- What a module contributes comes from its button, a widget or a graph. -/
theorem mem_moduleDescriptors [DecidableEq W] (member : descriptor ∈ moduleDescriptors widgets state module) :
    descriptorForModuleToggle module = some descriptor ∨
      ∃ referral ∈ module.widgetList, descriptorForWidget widgets state module referral = some descriptor ∨
        descriptor ∈ collectRgblevelsDescriptors module referral ∨
        descriptor ∈ collectColorzonesDescriptors widgets module referral := by
  rcases List.mem_append.mp member with toggle | attached
  · exact Or.inl (Option.mem_toList.mp toggle)
  · obtain ⟨referral, inList, member⟩ := List.mem_flatMap.mp attached
    refine Or.inr ⟨referral, inList, ?_⟩
    rcases List.mem_append.mp member with widget | graph
    · exact Or.inl (Option.mem_toList.mp widget)
    · exact Or.inr (List.mem_append.mp (List.mem_reverse.mp graph))

theorem flatMap_moduleDescriptors_single [DecidableEq W] (module : IopModule W) :
    some (moduleDescriptors widgets state module ++ []) =
      (some [module]).map (·.flatMap (moduleDescriptors widgets state)) := by
  rw [Option.map_some, List.flatMap_cons, List.flatMap_nil]

end Collect

/-- A darkroom whose descriptors are those of its modules. -/
structure Workbench (σ W : Type) [DecidableEq W] extends Darkroom σ ℚ W where
  widgets : Widgets σ W
  modules : σ → Option (List (IopModule W))
  collected : ∀ state, candidates state = (modules state).map (·.flatMap (moduleDescriptors widgets state))
  sliderRead : ∀ state widget value, widgets.sliderGet state widget = some value → sliderGet state widget = value
  toggleKnown : ∀ state widget, isToggleButton state widget = widgets.isToggleButton state widget

end DarktableAgent.Client
