import DarktableAgent.Foundation.KeyedFold
import DarktableAgent.Protocol.Agreement
import DarktableAgent.Client.Execute
import DarktableAgent.Server.Settings

/-! The server and the client order one batch differently.

Both move white-balance operations only, and operations of one setting share
their path and kind, so neither moves two of them past each other. The outcome of
a batch is decided setting by setting, hence the orders are interchangeable.
-/

set_option autoImplicit false

namespace DarktableAgent.Refinement

open Foundation Protocol Server Client

def unknownSetting (operation : OperationDict) : String := "unknown settingId '" ++ operation.settingId ++ "'"

def updateSetting (setting : Setting) (operation : OperationDict) : Except String Setting :=
  (applyToSetting setting operation).map (·.1)

/-- One operation updates the entry of its setting. -/
def updateKeyed : SettingMap → OperationDict → Except String SettingMap :=
  applyKeyed OperationDict.settingId unknownSetting updateSetting

theorem applyOperationToSettings_keyed (settings : SettingMap) (operation : OperationDict) :
    (applyOperationToSettings settings operation).map (·.1) = updateKeyed settings operation := by
  unfold applyOperationToSettings updateKeyed applyKeyed updateSetting
  cases settings.get? operation.settingId with
  | none => rfl
  | some setting =>
    simp only
    cases applyToSetting setting operation <;> rfl

theorem applyBatch_keyed (settings : SettingMap) (operations : List OperationDict) :
    applyBatch settings operations = operations.foldlM updateKeyed settings := by
  unfold applyBatch
  congr 1
  funext settings operation
  exact applyOperationToSettings_keyed settings operation

theorem updateKeyed_ok {settings settings' : SettingMap} {operation : OperationDict} :
    updateKeyed settings operation = .ok settings' ↔
      ∃ setting setting' applied, settings.get? operation.settingId = some setting ∧
        applyToSetting setting operation = .ok (setting', applied) ∧
        settings' = settings.set operation.settingId setting' := by
  rw [updateKeyed, applyKeyed_ok]
  refine exists_congr fun setting => ⟨?_, ?_⟩
  · rintro ⟨setting', found, updated, rfl⟩
    cases written : applyToSetting setting operation with
    | error text => simp [updateSetting, written, Except.map] at updated
    | ok result =>
      simp only [updateSetting, written, Except.map, Except.ok.injEq] at updated
      exact ⟨setting', result.2, found, by rw [← updated], rfl⟩
  · rintro ⟨setting', applied, found, written, rfl⟩
    exact ⟨setting', found, by simp [updateSetting, written, Except.map], rfl⟩

/-- The setting an operation names exists and has the operation's path and kind. -/
def AddressesIn (settings : SettingMap) (operation : OperationDict) : Prop :=
  ∃ setting, settings.get? operation.settingId = some setting ∧ setting.actionPath = operation.actionPath ∧
    setting.kind = operation.kind

theorem AddressesIn.of_updateKeyed {settings settings' : SettingMap} {first operation : OperationDict}
    (updated : updateKeyed settings first = .ok settings') (addresses : AddressesIn settings' operation) :
    AddressesIn settings operation := by
  obtain ⟨setting, setting', applied, found, written, rfl⟩ := updateKeyed_ok.mp updated
  obtain ⟨target, lookup, path, kind⟩ := addresses
  rw [Dict.get?_set] at lookup
  split_ifs at lookup with same
  · obtain rfl : setting' = target := Option.some.inj lookup
    -- an update keeps the path and the kind of its setting
    have frame := applyToSetting_frame written
    simp only [Setting.frame, Setting.mk.injEq] at frame
    exact ⟨setting, same ▸ found, frame.2.2.2.2.1.symm.trans path, frame.2.2.2.1.symm.trans kind⟩
  · exact ⟨target, lookup, path, kind⟩

theorem addressesIn_of_accepted {settings settings' : SettingMap} {operations : List OperationDict}
    (accepted : operations.foldlM updateKeyed settings = .ok settings') :
    ∀ operation ∈ operations, AddressesIn settings operation := by
  induction operations generalizing settings with
  | nil => simp
  | cons first rest ih =>
    obtain ⟨middle, updated, others⟩ := foldlM_cons_ok.mp accepted
    intro operation member
    rcases List.mem_cons.mp member with rfl | inRest
    · obtain ⟨setting, setting', applied, found, written, -⟩ := updateKeyed_ok.mp updated
      obtain ⟨path, kind, -⟩ := applyToSetting_cases written
      exact ⟨setting, found, path, kind⟩
    · exact (ih others operation inRest).of_updateKeyed updated

/-- The operations of one setting agree in whatever depends on the path and the kind. -/
theorem AddressesIn.alike {settings : SettingMap} {first second : OperationDict}
    (left : AddressesIn settings first) (right : AddressesIn settings second)
    (same : first.settingId = second.settingId) :
    first.actionPath = second.actionPath ∧ first.kind = second.kind := by
  obtain ⟨setting, found, path, kind⟩ := left
  obtain ⟨setting', found', path', kind'⟩ := right
  rw [← same, found] at found'
  obtain rfl : setting = setting' := Option.some.inj found'
  exact ⟨path.symm.trans path', kind.symm.trans kind'⟩

/-- A sort that looks at the path and the kind only keeps the order within every setting. -/
theorem sortSelected_filter_setting {settings : SettingMap} {operations : List OperationDict}
    {selected : OperationDict → Bool} {le : OperationDict → OperationDict → Bool}
    (addressed : ∀ operation ∈ operations, AddressesIn settings operation)
    (selectedByPath : ∀ first second : OperationDict, first.actionPath = second.actionPath →
      selected first = selected second)
    (trans : ∀ first second third, le first second → le second third → le first third)
    (total : ∀ first second, le first second || le second first)
    (leOfSame : ∀ first second : OperationDict, first.actionPath = second.actionPath →
      first.kind = second.kind → le first second) (settingId : String) :
    (sortSelected selected le operations).filter (·.settingId = settingId) =
      operations.filter (·.settingId = settingId) := by
  have alike : ∀ first ∈ operations, ∀ second ∈ operations, first.settingId = settingId →
      second.settingId = settingId → first.actionPath = second.actionPath ∧ first.kind = second.kind :=
    fun first inFirst second inSecond own own' =>
      (addressed first inFirst).alike (addressed second inSecond) (own.trans own'.symm)
  refine sortSelected_filter trans total ?_ ?_
  · intro first inFirst second inSecond own own'
    obtain ⟨path, kind⟩ := alike first inFirst second inSecond (by simpa using own) (by simpa using own')
    exact leOfSame first second path kind
  · by_cases some : ∃ operation ∈ operations, operation.settingId = settingId ∧ selected operation
    · obtain ⟨chosen, member, own, isSelected⟩ := some
      refine .inl fun operation inOperations own' => ?_
      rw [selectedByPath operation chosen (alike _ inOperations _ member (by simpa using own') own).1]
      exact isSelected
    · refine .inr fun operation inOperations own' isSelected => some ?_
      exact ⟨operation, inOperations, by simpa using own', isSelected⟩

section ClientOrder

variable (operation : OperationDict)

@[simp] theorem clientOperation_actionPath (operation : PlannedOperationDraft) :
    (clientOperation operation).actionPath = operation.target.actionPath := by
  unfold clientOperation
  cases operation.kind <;> rfl

@[simp] theorem clientOperation_settingId (operation : PlannedOperationDraft) :
    (clientOperation operation).settingId = operation.target.settingId := by
  unfold clientOperation
  cases operation.kind <;> rfl

@[simp] theorem clientOperation_kind (operation : PlannedOperationDraft) :
    (clientOperation operation).kind = some operation.kind := by
  unfold clientOperation
  cases kind : operation.kind <;> simp [parsedHead, kind]

/-- The operation of the client that a server operation becomes. -/
def received : ChatOperation ℚ := clientOperation operation.operation

/-- The client's order of a batch, on the server's side of the wire. -/
def clientOrder (operations : List OperationDict) : List OperationDict :=
  sortSelected (fun operation => isWhiteBalanceOperation (received operation))
    (fun left right => decide (whiteBalanceRank (received left) ≤ whiteBalanceRank (received right))) operations

theorem orderedOperationsForExecution_received (operations : List OperationDict) :
    orderedOperationsForExecution (operations.map received) = (clientOrder operations).map received :=
  sortSelected_map received operations

theorem clientOrder_perm (operations : List OperationDict) : (clientOrder operations).Perm operations :=
  sortSelected_perm operations

theorem received_of_same {first second : OperationDict} (path : first.actionPath = second.actionPath)
    (kind : first.kind = second.kind) : whiteBalanceRank (received first) = whiteBalanceRank (received second) := by
  have samePath : first.operation.target.actionPath = second.operation.target.actionPath := path
  have sameKind : first.operation.kind = second.operation.kind := kind
  simp only [whiteBalanceRank, received, clientOperation_kind, clientOperation_actionPath, samePath, sameKind]

theorem clientOrder_filter {settings : SettingMap} {operations : List OperationDict}
    (addressed : ∀ operation ∈ operations, AddressesIn settings operation) (settingId : String) :
    (clientOrder operations).filter (·.settingId = settingId) = operations.filter (·.settingId = settingId) := by
  refine sortSelected_filter_setting addressed ?_ ?_ ?_ ?_ settingId
  · intro first second path
    have samePath : first.operation.target.actionPath = second.operation.target.actionPath := path
    simp only [isWhiteBalanceOperation, received, clientOperation_actionPath, samePath]
  · intro first second third below above
    simp only [decide_eq_true_eq] at below above ⊢
    exact below.trans above
  · intro first second
    simp only [Bool.or_eq_true, decide_eq_true_eq]
    exact le_total _ _
  · intro first second path kind
    simp only [decide_eq_true_eq]
    exact (received_of_same path kind).le

theorem orderOperationsForApply_filter (lower : String → String) {settings : SettingMap}
    {operations : List OperationDict} (addressed : ∀ operation ∈ operations, AddressesIn settings operation)
    (settingId : String) :
    (orderOperationsForApply lower operations).filter (·.settingId = settingId) =
      operations.filter (·.settingId = settingId) := by
  refine sortSelected_filter_setting addressed ?_ (rankLe_trans lower) (rankLe_total lower) ?_ settingId
  · intro first second path
    simp only [path]
  · intro first second path kind
    exact rankLe_of_same lower path kind

end ClientOrder

/-- What the server accepts in its own order it accepts in the client's, with the same settings. -/
theorem accepted_in_clientOrder {lower : String → String} {settings settings' : SettingMap}
    {operations : List OperationDict}
    (accepted : applyBatch settings (orderOperationsForApply lower operations) = .ok settings') :
    ∃ settings'', (clientOrder operations).foldlM updateKeyed settings = .ok settings'' ∧
      ∀ settingId, settings''.get? settingId = settings'.get? settingId := by
  rw [applyBatch_keyed] at accepted
  have addressed : ∀ operation ∈ operations, AddressesIn settings operation := fun operation member =>
    addressesIn_of_accepted accepted operation ((orderOperationsForApply_perm lower operations).mem_iff.mpr member)
  refine foldlM_applyKeyed_congr (fun settingId => ?_) accepted
  exact (orderOperationsForApply_filter lower addressed settingId).trans
    (clientOrder_filter addressed settingId).symm

end DarktableAgent.Refinement
