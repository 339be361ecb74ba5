import Mathlib.Data.Finset.Card
import Mathlib.Data.Prod.Lex
import DarktableAgent.Foundation.Dict
import DarktableAgent.Foundation.LastOfKey
import DarktableAgent.Server.Envelope

/-! `_active_modules`: the modules a snapshot reports as active.

A history keeps the entries that later ones of the same module instance override.
-/

set_option autoImplicit false

namespace DarktableAgent.Server

open Foundation Protocol

structure ModuleInstance where
  moduleId : String
  multiPriority : Int
  deriving DecidableEq, Repr

structure ImageHistoryItem where
  num : Int
  module : Option String
  enabled : Bool
  multiPriority : Int
  instanceName : Option String
  iopOrder : Int
  deriving DecidableEq, Repr

namespace ImageHistoryItem

variable (item : ImageHistoryItem)

/-- `item.module` as a condition. -/
def named : Bool := item.module.any (· ≠ "")

def active : Bool := item.enabled && item.named

def sortKey : Int ×ₗ Int ×ₗ Int := toLex (item.iopOrder, toLex (item.multiPriority, item.num))

/-- The instance an entry is about, if it names a module. -/
def moduleInstance? : Option ModuleInstance :=
  (item.module.filter (· ≠ "")).map fun moduleId => ⟨moduleId, item.multiPriority⟩

end ImageHistoryItem

/-- What `validateHistoryItem` has read. -/
def readHistoryItem (library : SchemaLibrary) : Json → Option ImageHistoryItem :=
  objectOf ["num", "module", "enabled", "multiPriority", "instanceName", "iopOrder"] fun object => do
    return {
      num := ← requiredMember library.integer object "num"
      module := ← nullableMember Json.str? object "module"
      enabled := ← requiredMember library.boolean object "enabled"
      multiPriority := ← requiredMember library.integer object "multiPriority"
      instanceName := ← nullableMember Json.str? object "instanceName"
      iopOrder := ← requiredMember library.integer object "iopOrder" }

theorem validateHistoryItem_eq_read (library : SchemaLibrary) (document : Json) :
    validateHistoryItem library document = (readHistoryItem library document).map fun _ => () := by
  cases document with
  | obj object =>
    simp only [validateHistoryItem, readHistoryItem, objectOf, Option.bind_eq_bind, Option.map_bind, Function.comp_def]
    rfl
  | _ => rfl

structure ActiveModuleSignal where
  moduleId : String
  moduleLabel : String
  iopOrder : Int
  multiPriority : Int
  instanceName : Option String
  present : ∀ text ∈ [moduleId, moduleLabel], text ≠ ""
  deriving DecidableEq

def ActiveModuleSignal.moduleInstance (signal : ActiveModuleSignal) : ModuleInstance :=
  ⟨signal.moduleId, signal.multiPriority⟩

/-- The label of the first setting of every module. -/
def labelByModule (settings : List EditableSetting) : Dict String String :=
  settings.foldl (fun labels setting => if (labels.get? setting.moduleId).isSome then labels
    else labels.set setting.moduleId setting.moduleLabel) .empty

/-- The model of a signal, which refuses empty texts. -/
def activeModuleSignal (labels : Dict String String) (item : ImageHistoryItem) : Option ActiveModuleSignal :=
  let moduleId := item.module.getD "None"
  let moduleLabel := (labels.get? moduleId).getD moduleId
  if present : ∀ text ∈ [moduleId, moduleLabel], text ≠ "" then
    some ⟨moduleId, moduleLabel, item.iopOrder, item.multiPriority, item.instanceName, present⟩
  else none

def activeHistory (history : List ImageHistoryItem) : List ImageHistoryItem :=
  (history.filter (·.active)).mergeSort fun first second => first.sortKey ≤ second.sortKey

def maxActiveModules : Nat := 12

/-- `_active_modules`, of the two members of the snapshot that it reads. -/
def activeModules (settings : List EditableSetting) (history : List ImageHistoryItem) :
    Option (Nat × List ActiveModuleSignal) := do
  let signals ← ((activeHistory history).take maxActiveModules).mapM (activeModuleSignal (labelByModule settings))
  return ((activeHistory history).length, signals)

/-- The latest entry of an instance. -/
def latestEntry (history : List ImageHistoryItem) (moduleInstance : ModuleInstance) : Option ImageHistoryItem :=
  latest ImageHistoryItem.moduleInstance? (some moduleInstance) history

/-- The instances whose latest entry is enabled. -/
def activeInstances (history : List ImageHistoryItem) : Finset ModuleInstance :=
  (history.filterMap (·.moduleInstance?)).toFinset.filter fun moduleInstance =>
    (latestEntry history moduleInstance).any (·.enabled)

/-- The active instances by their places in the pipeline. -/
structure InPipelineOrder (history : List ImageHistoryItem) (ordered : List ModuleInstance) : Prop where
  once : ordered.Nodup
  all : ∀ moduleInstance, moduleInstance ∈ ordered ↔ moduleInstance ∈ activeInstances history
  sorted : ordered.Pairwise fun first second => ∀ left ∈ latestEntry history first,
    ∀ right ∈ latestEntry history second, left.iopOrder ≤ right.iopOrder

/-- The report is about the current edit. -/
structure ReflectsEdit (history : List ImageHistoryItem) (reported : Nat × List ActiveModuleSignal) : Prop where
  count : reported.1 = (activeInstances history).card
  named : ∃ ordered, InPipelineOrder history ordered ∧
    reported.2.map (·.moduleInstance) = ordered.take maxActiveModules

section Signals

theorem labelByModule_present {settings : List EditableSetting} {moduleId moduleLabel : String}
    (found : (labelByModule settings).get? moduleId = some moduleLabel) : moduleLabel ≠ "" := by
  suffices kept : ∀ labels : Dict String String, (∀ moduleId moduleLabel, labels.get? moduleId = some moduleLabel →
      moduleLabel ≠ "") → ∀ moduleId moduleLabel, (settings.foldl (fun labels setting =>
        if (labels.get? setting.moduleId).isSome then labels else labels.set setting.moduleId setting.moduleLabel)
          labels).get? moduleId = some moduleLabel → moduleLabel ≠ "" by
    exact kept .empty (by simp) moduleId moduleLabel found
  clear found
  induction settings with
  | nil => exact fun _ present => present
  | cons setting rest ih =>
    intro labels present
    rw [List.foldl_cons]
    apply ih
    intro moduleId moduleLabel found
    split_ifs at found with known
    · exact present moduleId moduleLabel found
    · rw [Dict.get?_set] at found
      split_ifs at found with same
      · obtain rfl := Option.some.inj found
        exact setting.present _ (by simp)
      · exact present moduleId moduleLabel found

variable {item : ImageHistoryItem} {settings : List EditableSetting} {items : List ImageHistoryItem}

theorem named_iff : item.named ↔ ∃ moduleId, item.module = some moduleId ∧ moduleId ≠ "" := by
  unfold ImageHistoryItem.named
  cases item.module <;> simp

theorem moduleInstance?_named {moduleInstance : ModuleInstance} (found : item.moduleInstance? = some moduleInstance) :
    item.named := by
  unfold ImageHistoryItem.moduleInstance? at found
  unfold ImageHistoryItem.named
  cases isModule : item.module with
  | none => simp [isModule] at found
  | some moduleId =>
    simp only [isModule, Option.map_eq_some_iff, Option.filter_eq_some_iff] at found
    obtain ⟨_, ⟨same, present⟩, -⟩ := found
    rw [Option.any_some, Option.some.inj same]
    exact present

/-- An active entry has a signal, and the signal names its instance. -/
theorem activeModuleSignal_of_active (active : item.active) :
    ∃ signal, activeModuleSignal (labelByModule settings) item = some signal ∧
      item.moduleInstance? = some signal.moduleInstance := by
  rw [ImageHistoryItem.active, Bool.and_eq_true, named_iff] at active
  obtain ⟨-, moduleId, isModule, named⟩ := active
  have present : ∀ text ∈ [moduleId, ((labelByModule settings).get? moduleId).getD moduleId], text ≠ "" := by
    rw [List.forall_mem_cons, List.forall_mem_singleton]
    refine ⟨named, ?_⟩
    cases found : (labelByModule settings).get? moduleId with
    | none => exact named
    | some moduleLabel => exact labelByModule_present found
  refine ⟨⟨moduleId, _, item.iopOrder, item.multiPriority, item.instanceName, present⟩, ?_, ?_⟩
  · simp only [activeModuleSignal, isModule, Option.getD_some]
    exact dif_pos present
  · simp [ImageHistoryItem.moduleInstance?, isModule, named, ActiveModuleSignal.moduleInstance]

/-- Every active entry gets its signal. -/
theorem signals_of_active (active : ∀ item ∈ items, item.active) :
    ∃ signals, items.mapM (activeModuleSignal (labelByModule settings)) = some signals ∧
      signals.map (·.moduleInstance) = items.filterMap (·.moduleInstance?) := by
  induction items with
  | nil => exact ⟨[], rfl, rfl⟩
  | cons item rest ih =>
    rw [List.forall_mem_cons] at active
    obtain ⟨signal, isSignal, isInstance⟩ := @activeModuleSignal_of_active item settings active.1
    obtain ⟨signals, areSignals, areInstances⟩ := ih active.2
    refine ⟨signal :: signals, ?_, ?_⟩
    · rw [List.mapM_cons, isSignal, areSignals]
      rfl
    · rw [List.map_cons, areInstances, List.filterMap_cons_some isInstance]

end Signals

section Reported

variable {history : List ImageHistoryItem}

theorem filter_active (items : List ImageHistoryItem) : ∀ item ∈ items.filter (·.active), item.active := by
  intro item member
  exact (List.mem_filter.mp member).2

theorem activeHistory_perm : (activeHistory history).Perm (history.filter (·.active)) := List.mergeSort_perm _ _

theorem activeHistory_active : ∀ item ∈ activeHistory history, item.active := by
  intro item member
  exact filter_active _ item (activeHistory_perm.mem_iff.mp member)

theorem activeHistory_sorted :
    (activeHistory history).Pairwise fun first second => first.iopOrder ≤ second.iopOrder := by
  have ordered : (activeHistory history).Pairwise fun first second => decide (first.sortKey ≤ second.sortKey) :=
    List.pairwise_mergeSort (by simpa using fun _ _ _ => le_trans) (by simpa using fun _ _ => le_total _ _) _
  refine ordered.imp fun {first second} below => ?_
  exact Prod.Lex.monotone_fst _ _ (of_decide_eq_true below)

/-- Active entries all have their instances. -/
theorem instances_map_some {items : List ImageHistoryItem} (active : ∀ item ∈ items, item.active) :
    (items.filterMap (·.moduleInstance?)).map some = items.map (·.moduleInstance?) := by
  induction items with
  | nil => rfl
  | cons item rest ih =>
    rw [List.forall_mem_cons] at active
    obtain ⟨signal, -, isInstance⟩ := @activeModuleSignal_of_active item [] active.1
    rw [List.filterMap_cons_some isInstance, List.map_cons, List.map_cons, ih active.2, isInstance]

theorem instances_take {items : List ImageHistoryItem} (active : ∀ item ∈ items, item.active) (taken : Nat) :
    (items.take taken).filterMap (·.moduleInstance?) = (items.filterMap (·.moduleInstance?)).take taken := by
  have activeTaken : ∀ item ∈ items.take taken, item.active :=
    fun item member => active item (List.mem_of_mem_take member)
  apply List.map_injective_iff.mpr (Option.some_injective _)
  rw [instances_map_some activeTaken, List.map_take, List.map_take, instances_map_some active]

theorem mem_activeInstances_iff_latest {moduleInstance : ModuleInstance} :
    moduleInstance ∈ activeInstances history ↔
      ∃ item, latestEntry history moduleInstance = some item ∧ item.enabled := by
  simp only [activeInstances, Finset.mem_filter, List.mem_toFinset, List.mem_filterMap, Option.any_eq_true]
  refine and_iff_right_of_imp ?_
  rintro ⟨item, isLatest, -⟩
  exact ⟨item, latest_some isLatest⟩

/-- The active entries that are not overridden are the latest ones of the active instances. -/
theorem mem_activeInstances {moduleInstance : ModuleInstance} : moduleInstance ∈ activeInstances history ↔
    moduleInstance ∈ ((lastOfKey ImageHistoryItem.moduleInstance? history).filter (·.active)).filterMap
      (·.moduleInstance?) := by
  simp only [mem_activeInstances_iff_latest, List.mem_filterMap, List.mem_filter]
  constructor
  · rintro ⟨item, isLatest, enabled⟩
    have isInstance := (latest_some isLatest).2
    refine ⟨item, ⟨latest_mem_lastOfKey isLatest, ?_⟩, isInstance⟩
    rw [ImageHistoryItem.active, enabled, moduleInstance?_named isInstance]
    rfl
  · rintro ⟨item, ⟨isLast, active⟩, isInstance⟩
    rw [ImageHistoryItem.active, Bool.and_eq_true] at active
    rw [mem_lastOfKey, isInstance] at isLast
    exact ⟨item, isLast, active.1⟩

theorem activeInstances_card : (activeInstances history).card =
    ((lastOfKey ImageHistoryItem.moduleInstance? history).filter (·.active)).length := by
  have distinct : (((lastOfKey ImageHistoryItem.moduleInstance? history).filter (·.active)).filterMap
      (·.moduleInstance?)).Nodup := by
    apply List.Nodup.of_map some
    rw [instances_map_some (filter_active _)]
    exact lastOfKey_nodup.sublist (List.filter_sublist.map _)
  have same : activeInstances history = (((lastOfKey ImageHistoryItem.moduleInstance? history).filter
      (·.active)).filterMap (·.moduleInstance?)).toFinset := by
    ext moduleInstance
    rw [mem_activeInstances, List.mem_toFinset]
  have lengths := congrArg List.length
    (instances_map_some (filter_active (lastOfKey ImageHistoryItem.moduleInstance? history)))
  rw [List.length_map, List.length_map] at lengths
  rw [same, List.toFinset_card_of_nodup distinct, lengths]

/-- With no active entry overridden, the active entries are those of the active instances. -/
theorem activeHistory_inPipelineOrder
    (latestOnly : NoneOverridden ImageHistoryItem.moduleInstance? ImageHistoryItem.active history) :
    InPipelineOrder history ((activeHistory history).filterMap (·.moduleInstance?)) := by
  have same := filter_eq_of_noneOverridden latestOnly
  have isLast : ∀ item ∈ activeHistory history, item ∈ lastOfKey ImageHistoryItem.moduleInstance? history := by
    intro item member
    rw [activeHistory_perm.mem_iff, same] at member
    exact (List.mem_filter.mp member).1
  refine ⟨?_, ?_, ?_⟩
  · apply List.Nodup.of_map some
    rw [instances_map_some activeHistory_active, (activeHistory_perm.map _).nodup_iff, same]
    exact lastOfKey_nodup.sublist (List.filter_sublist.map _)
  · intro moduleInstance
    rw [mem_activeInstances, ← same, (activeHistory_perm.filterMap _).mem_iff]
  · rw [List.pairwise_filterMap]
    refine activeHistory_sorted.imp_of_mem ?_
    intro first second firstIn secondIn below left leftInstance right rightInstance earlier isEarlier later isLater
    have isFirst := mem_lastOfKey.mp (isLast first firstIn)
    have isSecond := mem_lastOfKey.mp (isLast second secondIn)
    rw [leftInstance] at isFirst
    rw [rightInstance] at isSecond
    rw [Option.mem_def, latestEntry, isFirst] at isEarlier
    rw [Option.mem_def, latestEntry, isSecond] at isLater
    rwa [← Option.some.inj isEarlier, ← Option.some.inj isLater]

end Reported

/-- There is a report for every history, and it is about the current edit exactly when no active entry
is overridden by a later one of its instance. -/
theorem activeModules_reflect_iff (settings : List EditableSetting) (history : List ImageHistoryItem) :
    ∃ reported, activeModules settings history = some reported ∧ (ReflectsEdit history reported ↔
      NoneOverridden ImageHistoryItem.moduleInstance? ImageHistoryItem.active history) := by
  have allActive := @activeHistory_active history
  obtain ⟨signals, areSignals, areInstances⟩ := @signals_of_active settings
    ((activeHistory history).take maxActiveModules) fun item member => allActive item (List.mem_of_mem_take member)
  rw [instances_take allActive] at areInstances
  refine ⟨((activeHistory history).length, signals), by rw [activeModules, areSignals]; rfl, ?_, ?_⟩
  · intro reflects
    rw [← filter_length_eq_iff, ← activeInstances_card, ← reflects.count]
    exact activeHistory_perm.length_eq.symm
  · intro latestOnly
    refine ⟨?_, _, activeHistory_inPipelineOrder latestOnly, ?_⟩
    · rw [activeInstances_card, ← filter_length_eq_iff.mpr latestOnly]
      exact activeHistory_perm.length_eq
    · exact areInstances

def exposureEntry (num : Int) (enabled : Bool) : ImageHistoryItem := ⟨num, some "exposure", enabled, 0, none, 20⟩

/-- A module that was switched off again is still reported. -/
theorem switchedOff_reported : ¬ ∀ history reported, activeModules [] history = some reported →
    ReflectsEdit history reported := by
  intro always
  have reflects := always [exposureEntry 0 true, exposureEntry 1 false]
    (1, [⟨"exposure", "exposure", 20, 0, none, by simp⟩]) (by decide +kernel)
  exact absurd reflects.count (by decide +kernel)

end DarktableAgent.Server
