import DarktableAgent.Foundation.StableSort
import DarktableAgent.Refinement.Orders

/-! Where the two orders of a batch agree, and what neither of them changes.

The server breaks ties by the lower-cased leaf of the path, the client by the
position in the batch, and only the server looks a capitalised leaf up. Both
leave the outcome of the batch alone.
-/

set_option autoImplicit false

namespace DarktableAgent.Refinement

open Foundation Protocol Server Client

section Agreement

variable (lower : String → String)

/-- The server and the client compare an operation with a later one alike. -/
def ComparedAlike (first second : OperationDict) : Prop :=
  rankLe lower first second = decide (whiteBalanceRank (received first) ≤ whiteBalanceRank (received second))

theorem received_isWhiteBalanceOperation (operation : OperationDict) :
    isWhiteBalanceOperation (received operation) = isWhiteBalanceActionPath operation.actionPath := by
  rw [isWhiteBalanceOperation, received, clientOperation_actionPath]
  rfl

theorem clientOrder_eq (operations : List OperationDict) :
    clientOrder operations = sortSelected (fun operation => isWhiteBalanceActionPath operation.actionPath)
      (fun left right => decide (whiteBalanceRank (received left) ≤ whiteBalanceRank (received right)))
      operations := by
  simp only [clientOrder, received_isWhiteBalanceOperation]

/-- What the client received determines the path and the kind. -/
theorem path_kind_of_received {first second : OperationDict} (same : received first = received second) :
    first.actionPath = second.actionPath ∧ first.kind = second.kind := by
  constructor
  · have path := congrArg ChatOperation.actionPath same
    rwa [received, received, clientOperation_actionPath, clientOperation_actionPath] at path
  · have kind := congrArg ChatOperation.kind same
    rw [received, received, clientOperation_kind, clientOperation_kind] at kind
    exact Option.some.inj kind

/-- The client executes a batch in the order in which the server stages it exactly when the two
compare every white-balance operation alike with the later ones. -/
theorem orderOperationsForApply_executed_iff (operations : List OperationDict) :
    (orderOperationsForApply lower operations).map received = orderedOperationsForExecution (operations.map received) ↔
      (operations.filter fun operation => isWhiteBalanceActionPath operation.actionPath).Pairwise
        (ComparedAlike lower) := by
  rw [orderedOperationsForExecution_received, clientOrder_eq, orderOperationsForApply]
  refine map_sortSelected_eq_iff (rankLe_total lower) ?_ (rankLe_trans lower) ?_ ?_ ?_
  · intro first second
    simp only [Bool.or_eq_true, decide_eq_true_eq]
    exact le_total _ _
  · intro first second third below above
    simp only [decide_eq_true_eq] at below above ⊢
    exact below.trans above
  · intro first second first' second' same same'
    have rank := whiteBalanceOperationRank_of_same lower (path_kind_of_received same).1 (path_kind_of_received same).2
    have rank' := whiteBalanceOperationRank_of_same lower (path_kind_of_received same').1 (path_kind_of_received same').2
    simp only [rankLe, rank, rank']
  · intro first second first' second' same same'
    rw [same, same']

/-- The channels of both rank tables lie below the rank of unknown leaves. -/
theorem channelRank_lt {leaf : String} {rank : Nat}
    (named : [("finetune", 2), ("temperature", 3), ("tint", 4), ("red", 5), ("green", 6), ("blue", 7),
      ("emerald", 8), ("yellow", 9), ("various", 9)].lookup leaf = some rank) : rank < 10 := by
  obtain ⟨front, back, listed, -⟩ := List.lookup_eq_some_iff.mp named
  have below : ∀ channel ∈ front ++ (leaf, rank) :: back, channel.2 < 10 := by
    rw [← listed]
    decide
  exact below (leaf, rank) (by simp)

theorem whiteBalanceRank_received_le (operation : OperationDict) : whiteBalanceRank (received operation) ≤ 10 := by
  have kind : (received operation).kind = some operation.kind := clientOperation_kind _
  simp only [whiteBalanceRank, kind]
  cases operation.kind with
  | setBool => exact Nat.zero_le _
  | setChoice => exact Nat.succ_pos 9
  | setFloat =>
    dsimp only
    generalize named : List.lookup (pathLeaf (received operation).actionPath) _ = rank
    cases rank with
    | none => rfl
    | some rank => exact (channelRank_lt named).le

/-- On a leaf that lower-casing leaves alone the two ranks differ in the number for unknown leaves only. -/
theorem whiteBalanceOperationRank_plain {operation : OperationDict}
    (plain : lower (pathLeaf operation.actionPath) = pathLeaf operation.actionPath) :
    whiteBalanceOperationRank lower operation =
      (if whiteBalanceRank (received operation) = 10 then 99 else whiteBalanceRank (received operation),
        pathLeaf operation.actionPath) := by
  have path : (received operation).actionPath = operation.actionPath := clientOperation_actionPath _
  have kind : (received operation).kind = some operation.kind := clientOperation_kind _
  simp only [whiteBalanceOperationRank, whiteBalanceRank, plain, path, kind]
  cases operation.kind with
  | setBool => rfl
  | setChoice => rfl
  | setFloat =>
    dsimp only
    generalize named : List.lookup (pathLeaf operation.actionPath) _ = rank
    cases rank with
    | none => rfl
    | some rank => simp [(channelRank_lt named).ne]

/-- Lower-case leaves are compared alike unless the leaf breaks a tie the other way. -/
theorem comparedAlike_iff_of_plain {first second : OperationDict}
    (plain : lower (pathLeaf first.actionPath) = pathLeaf first.actionPath)
    (plain' : lower (pathLeaf second.actionPath) = pathLeaf second.actionPath) :
    ComparedAlike lower first second ↔
      (whiteBalanceRank (received first) = whiteBalanceRank (received second) →
        pathLeaf first.actionPath ≤ pathLeaf second.actionPath) := by
  have small := whiteBalanceRank_received_le first
  have small' := whiteBalanceRank_received_le second
  rw [ComparedAlike, rankLe, whiteBalanceOperationRank_plain lower plain, whiteBalanceOperationRank_plain lower plain',
    Bool.eq_iff_iff]
  simp only [Bool.or_eq_true, Bool.and_eq_true, decide_eq_true_eq, beq_iff_eq]
  generalize whiteBalanceRank (received first) = rank at small ⊢
  generalize whiteBalanceRank (received second) = rank' at small' ⊢
  -- both ranks agree up to the number for unknown leaves, which is the largest of either table
  by_cases tie : pathLeaf first.actionPath ≤ pathLeaf second.actionPath
  · simp only [tie, and_true, implies_true, iff_true]
    split_ifs <;> omega
  · simp only [tie, and_false, or_false, imp_false]
    split_ifs <;> omega

end Agreement

def yellowOperation : PlannedOperationDraft where
  operationId := "op-1"
  sequence := 1
  kind := .setFloat
  target := ⟨"iop/temperature/yellow", "setting.temperature.yellow", by decide, by decide⟩
  value := { mode := .set, number := some 1 }
  reason := none
  operationIdPresent := firstOperation_present
  sequencePositive := one_positive
  valid := rfl

def variousOperation : PlannedOperationDraft where
  operationId := "op-2"
  sequence := 2
  kind := .setFloat
  target := ⟨"iop/temperature/various", "setting.temperature.various", by decide, by decide⟩
  value := { mode := .set, number := some 1 }
  reason := none
  operationIdPresent := secondOperation_present
  sequencePositive := two_positive
  valid := rfl

/-- Two channels of one rank: the server puts `various` before `yellow`, the client keeps them. -/
theorem orderOperationsForApply_channels_reversed :
    let batch := [⟨yellowOperation, true⟩, ⟨variousOperation, true⟩]
    orderOperationsForApply String.toLower batch = batch.reverse ∧
      orderedOperationsForExecution (batch.map received) = batch.map received ∧
      (orderOperationsForApply String.toLower batch).map received ≠
        orderedOperationsForExecution (batch.map received) := by
  have staged : orderOperationsForApply String.toLower [⟨yellowOperation, true⟩, ⟨variousOperation, true⟩] =
      [⟨variousOperation, true⟩, ⟨yellowOperation, true⟩] := by
    rw [orderOperationsForApply, sortSelected_pair (by decide) (by decide), if_neg (by decide +kernel)]
  have executed : orderedOperationsForExecution ([⟨yellowOperation, true⟩, ⟨variousOperation, true⟩].map received) =
      [⟨yellowOperation, true⟩, ⟨variousOperation, true⟩].map received := by
    rw [orderedOperationsForExecution, List.map_cons, List.map_cons, List.map_nil,
      sortSelected_pair (by decide) (by decide), if_pos (by decide +kernel)]
  refine ⟨staged, executed, ?_⟩
  rw [staged, executed]
  decide +kernel

section Meaning

/-- Operations of one target and one kind, on the server. -/
def sameControl (first second : OperationDict) : Bool :=
  decide (first.operation.target = second.operation.target ∧ first.kind = second.kind)

/-- Operations of one target and one kind, on the client. -/
def sameClientControl {ν : Type} (first second : ChatOperation ν) : Bool :=
  decide (first.targetType = second.targetType ∧ first.actionPath = second.actionPath ∧
    first.settingId = second.settingId ∧ first.kind = second.kind)

theorem orderOperationsForApply_reordered (lower : String → String) (operations : List OperationDict) :
    Reordered (fun operation => isWhiteBalanceActionPath operation.actionPath) sameControl operations
      (orderOperationsForApply lower operations) := by
  refine sortSelected_reordered (rankLe_total lower) (rankLe_trans lower) ?_ ?_ operations
  · intro item first second alike alike'
    simp only [sameControl, decide_eq_true_eq] at alike alike'
    rw [OperationDict.actionPath, OperationDict.actionPath, ← alike.1, alike'.1]
  · intro item first second alike alike'
    simp only [sameControl, decide_eq_true_eq] at alike alike'
    refine rankLe_of_same lower ?_ (alike.2.symm.trans alike'.2)
    rw [OperationDict.actionPath, OperationDict.actionPath, ← alike.1, alike'.1]

theorem orderedOperationsForExecution_reordered {ν : Type} (operations : List (ChatOperation ν)) :
    Reordered isWhiteBalanceOperation sameClientControl operations (orderedOperationsForExecution operations) := by
  refine sortSelected_reordered ?_ ?_ ?_ ?_ operations
  · intro first second
    simp only [Bool.or_eq_true, decide_eq_true_eq]
    exact le_total _ _
  · intro first second third below above
    simp only [decide_eq_true_eq] at below above ⊢
    exact below.trans above
  · intro item first second alike alike'
    simp only [sameClientControl, decide_eq_true_eq] at alike alike'
    rw [isWhiteBalanceOperation, isWhiteBalanceOperation, ← alike.2.1, alike'.2.1]
  · intro item first second alike alike'
    simp only [sameClientControl, decide_eq_true_eq] at alike alike' ⊢
    have rank : whiteBalanceRank first = whiteBalanceRank second := by
      simp only [whiteBalanceRank, ← alike.2.1, alike'.2.1, ← alike.2.2.2, alike'.2.2.2]
    exact rank.le

variable {operations ordered : List OperationDict}

/-- A permutation that keeps the order within every setting, once every operation addresses its
setting, ends where the list itself ends. -/
theorem applyBatch_reordered (permutation : ordered.Perm operations)
    (keeps : ∀ settings, (∀ operation ∈ operations, AddressesIn settings operation) → ∀ settingId,
      ordered.filter (·.settingId = settingId) = operations.filter (·.settingId = settingId))
    (settings settings' : SettingMap) :
    applyBatch settings ordered = .ok settings' ↔ applyBatch settings operations = .ok settings' := by
  rw [applyBatch_keyed, applyBatch_keyed]
  -- either list, once accepted, tells that every operation addresses its setting
  constructor
  · intro accepted
    have addressed : ∀ operation ∈ operations, AddressesIn settings operation := fun operation member =>
      addressesIn_of_accepted accepted operation (permutation.mem_iff.mpr member)
    exact foldlM_applyKeyed_reorder (keeps settings addressed) accepted
  · intro accepted
    have kept := keeps settings (addressesIn_of_accepted accepted)
    exact foldlM_applyKeyed_reorder (fun settingId => (kept settingId).symm) accepted

/-- Neither order changes what a batch means. -/
theorem reordering_preserves_meaning (lower : String → String) (operations : List OperationDict) :
    Reordered (fun operation => isWhiteBalanceActionPath operation.actionPath) sameControl operations
        (orderOperationsForApply lower operations) ∧
      (∀ {ν : Type} (received : List (ChatOperation ν)),
        Reordered isWhiteBalanceOperation sameClientControl received (orderedOperationsForExecution received)) ∧
      orderedOperationsForExecution (operations.map received) = (clientOrder operations).map received ∧
      ∀ settings settings',
        (applyBatch settings (orderOperationsForApply lower operations) = .ok settings' ↔
          applyBatch settings operations = .ok settings') ∧
        (applyBatch settings (clientOrder operations) = .ok settings' ↔
          applyBatch settings operations = .ok settings') := by
  refine ⟨orderOperationsForApply_reordered lower operations, orderedOperationsForExecution_reordered,
    orderedOperationsForExecution_received operations, fun settings settings' => ⟨?_, ?_⟩⟩
  · exact applyBatch_reordered (orderOperationsForApply_perm lower operations)
      (fun _ addressed => orderOperationsForApply_filter lower addressed) settings settings'
  · exact applyBatch_reordered (clientOrder_perm operations)
      (fun _ addressed => clientOrder_filter addressed) settings settings'

end Meaning

end DarktableAgent.Refinement
