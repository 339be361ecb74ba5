import DarktableAgent.Refinement.Accepted
import DarktableAgent.Server.ActiveModules

/-! The current edit and the history that the client reports of it.

darktable brings its modules to a history by replaying the entries up to its end, so
the latest entry of an instance decides whether it is on.
-/

set_option autoImplicit false

namespace DarktableAgent.Refinement

open Foundation Protocol Client Server

/-- The module of an entry. -/
def historyInstance (item : DevHistoryItem) : ModuleInstance := ⟨item.opName, item.multiPriority⟩

/-- The enabled flags that `dt_dev_pop_history_items_ext` leaves, from those of a reset. -/
def popHistoryItems (defaultEnabled : ModuleInstance → Bool) (historyEnd : Int) (history : List DevHistoryItem) :
    ModuleInstance → Bool :=
  replay historyInstance (·.enabled) defaultEnabled (history.take historyEnd.toNat)

/-- An entry of the snapshot on the side of the server. -/
def imageHistoryItem (item : HistoryItem) : ImageHistoryItem :=
  ⟨item.num, item.module, item.enabled, item.multiPriority, item.instanceName, item.iopOrder⟩

theorem readHistoryItem_json {library : SchemaLibrary} (exact : Exact library) (item : HistoryItem) :
    readHistoryItem library (.obj item.json) = some (imageHistoryItem item) := by
  rw [readHistoryItem, objectOf_obj rfl]
  refine read_then (exact.integer_found rfl) <| read_then (nullableMember_orNull readable_str rfl) <|
    read_then (exact.boolean_found rfl) <| read_then (exact.integer_found rfl) <|
    read_then (nullableMember_orNull readable_str rfl) <| read_then (exact.integer_found rfl) ?_
  simp [imageHistoryItem]

/-- The history of the snapshot as the server has it. -/
def snapshotHistory (historyEnd : Int) (history : List DevHistoryItem) : List ImageHistoryItem :=
  (collectHistory historyEnd history).map imageHistoryItem

theorem readHistory_json {library : SchemaLibrary} (exact : Exact library) (historyEnd : Int)
    (history : List DevHistoryItem) :
    (((collectHistory historyEnd history).map fun item => .obj item.json).mapM (readHistoryItem library)) =
      some (snapshotHistory historyEnd history) := by
  rw [List.mapM_map, snapshotHistory]
  generalize collectHistory historyEnd history = items
  induction items with
  | nil => rfl
  | cons item rest ih =>
    rw [List.mapM_cons, ih, Function.comp_apply, readHistoryItem_json exact]
    rfl

section Replay

variable {historyEnd : Int} {history : List DevHistoryItem} {moduleInstance : ModuleInstance}

/-- Entries without a module name are about no instance, all others about that of their module. -/
theorem latestEntry_snapshotHistory (named : moduleInstance.moduleId ≠ "") :
    (latestEntry (snapshotHistory historyEnd history) moduleInstance).map (·.enabled) =
      (latest historyInstance moduleInstance (history.take historyEnd.toNat)).map (·.enabled) := by
  rw [latestEntry, snapshotHistory, collectHistory, List.map_map, latest_map, Option.map_map]
  refine congrArg (Option.map DevHistoryItem.enabled) (latest_congr fun item => ?_)
  obtain ⟨moduleId, multiPriority⟩ := moduleInstance
  by_cases unnamed : item.opName = ""
  · simp [imageHistoryItem, ImageHistoryItem.moduleInstance?, historyInstance, unlessEmpty, unnamed, Ne.symm named]
  · simp [imageHistoryItem, ImageHistoryItem.moduleInstance?, historyInstance, unlessEmpty, unnamed]

/-- The active instances of the snapshot are those that the history has brought in and left on. -/
theorem activeInstances_snapshotHistory (defaultEnabled : ModuleInstance → Bool)
    (named : moduleInstance.moduleId ≠ "") :
    moduleInstance ∈ activeInstances (snapshotHistory historyEnd history) ↔
      moduleInstance ∈ (history.take historyEnd.toNat).map historyInstance ∧
        popHistoryItems defaultEnabled historyEnd history moduleInstance := by
  have same := @latestEntry_snapshotHistory historyEnd history moduleInstance named
  rw [mem_activeInstances_iff_latest, popHistoryItems, replay_apply, ← same]
  cases isLatest : latest historyInstance moduleInstance (history.take historyEnd.toNat) with
  | none =>
    rw [isLatest, Option.map_none, Option.map_eq_none_iff] at same
    exact iff_of_false (by simp [same]) fun entered => latest_eq_none.mp isLatest entered.1
  | some item =>
    have member : moduleInstance ∈ (history.take historyEnd.toNat).map historyInstance :=
      List.mem_map.mpr ⟨item, latest_some isLatest⟩
    rw [isLatest, Option.map_some, Option.map_eq_some_iff] at same
    obtain ⟨reported, isReported, enabled⟩ := same
    rw [and_iff_right member]
    simp [isReported, enabled]

end Replay

end DarktableAgent.Refinement
