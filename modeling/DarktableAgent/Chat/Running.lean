import DarktableAgent.Chat.Tags
import DarktableAgent.Chat.Wiring

/-! Which requests are running.

A request runs from its submission to its cancellation or to the delivery of its result.
The panel keeps no list of these requests, only a flag for each session; here the list is
read off the transfers and the queue.
-/

set_option autoImplicit false

namespace DarktableAgent.Chat

open Foundation Protocol Client

section Running

variable {κ ν W : Type}

/-- The request whose result a callback delivers. -/
def Delivery.answered : Delivery ν → Option String
  | .result submission _ => some submission.requestId
  | .progress .. => none

/-- The result of a request waits in the queue. -/
def Panel.awaits (panel : Panel κ ν) (requestId : String) : Bool :=
  panel.queue.any fun delivery => delivery.answered = some requestId

/-- The request is not cancelled, and its result has not been delivered. -/
def Panel.runs (panel : Panel κ ν) (transfer : Transfer) : Bool :=
  !transfer.cancelRequested && (!transfer.finished || panel.awaits transfer.submission.requestId)

def Panel.running (panel : Panel κ ν) : List ChatSubmission := (panel.transfers.filter panel.runs).map (·.submission)

/-- Some request of the image's session is running. -/
def Panel.RunsFor (panel : Panel κ ν) (imageId : Int) : Prop :=
  ∃ submission ∈ panel.running, submission.imageId = imageId

instance (panel : Panel κ ν) (imageId : Int) : Decidable (panel.RunsFor imageId) :=
  inferInstanceAs (Decidable (∃ submission ∈ panel.running, submission.imageId = imageId))

/-- Request ids are used once, and each result belongs to a transfer that is over. -/
structure Orderly (panel : Panel κ ν) : Prop where
  unique : (panel.transfers.map (·.submission.requestId)).Nodup
  once : (panel.queue.filterMap Delivery.answered).Nodup
  answered : ∀ submission result, Delivery.result submission result ∈ panel.queue →
    ∃ transfer ∈ panel.transfers, transfer.submission = submission ∧ transfer.finished ∧
      (result.cancelled → transfer.cancelRequested)

theorem Panel.mem_running {panel : Panel κ ν} {submission : ChatSubmission} : submission ∈ panel.running ↔
    ∃ transfer ∈ panel.transfers, panel.runs transfer ∧ transfer.submission = submission := by
  unfold running
  rw [List.mem_map]
  exact exists_congr fun transfer => by rw [List.mem_filter, and_assoc]

theorem Panel.running_congr {panel other : Panel κ ν} (transfers : other.transfers = panel.transfers)
    (queue : other.queue = panel.queue) : other.running = panel.running := by
  have sameRuns : other.runs = panel.runs := by
    funext transfer
    unfold runs awaits
    rw [queue]
  unfold running
  rw [transfers, sameRuns]

/-- Transfers are marked, and what waits in the queue changes. -/
theorem Panel.running_map {panel other : Panel κ ν} {mark : Transfer → Transfer}
    (transfers : other.transfers = panel.transfers.map mark)
    (same : ∀ transfer, (mark transfer).submission = transfer.submission) (kept : ChatSubmission → Bool)
    (runs : ∀ transfer ∈ panel.transfers, other.runs (mark transfer) = (panel.runs transfer && kept transfer.submission)) :
    other.running = panel.running.filter kept := by
  unfold running
  rw [transfers, List.filter_map, List.map_map, List.filter_map, List.filter_filter]
  have marked : (panel.transfers.filter (other.runs ∘ mark)) =
      panel.transfers.filter fun transfer => (kept ∘ (·.submission)) transfer && panel.runs transfer := by
    refine List.filter_congr fun transfer member => ?_
    rw [Function.comp_apply, runs transfer member, Bool.and_comm]
    rfl
  rw [marked]
  exact List.map_congr_left fun transfer _ => same transfer

namespace Orderly

variable {host : Host κ ν W} {panel other : Panel κ ν}

theorem of_same (orderly : Orderly panel) (transfers : other.transfers = panel.transfers)
    (queue : other.queue = panel.queue) : Orderly other where
  unique := by
    rw [transfers]
    exact orderly.unique
  once := by
    rw [queue]
    exact orderly.once
  answered := by
    rw [transfers, queue]
    exact orderly.answered

/-- Two transfers with one request id are the same. -/
theorem inj (orderly : Orderly panel) {first second : Transfer} (isFirst : first ∈ panel.transfers)
    (isSecond : second ∈ panel.transfers) (same : first.submission.requestId = second.submission.requestId) :
    first = second :=
  List.inj_on_of_nodup_map orderly.unique isFirst isSecond same

/-- Marks on transfers that are never taken back. -/
theorem map (orderly : Orderly panel) {mark : Transfer → Transfer} (transfers : other.transfers = panel.transfers.map mark)
    (same : ∀ transfer, (mark transfer).submission = transfer.submission)
    (finished : ∀ transfer, transfer.finished → (mark transfer).finished)
    (cancelled : ∀ transfer, transfer.cancelRequested → (mark transfer).cancelRequested)
    (queue : other.queue = panel.queue) : Orderly other where
  unique := by
    have sameIds : (fun transfer => transfer.submission.requestId) ∘ mark = fun transfer => transfer.submission.requestId :=
      funext fun transfer => congrArg (·.requestId) (same transfer)
    rw [transfers, List.map_map, sameIds]
    exact orderly.unique
  once := by
    rw [queue]
    exact orderly.once
  answered submission result member := by
    obtain ⟨transfer, known, sameSubmission, isOver, requested⟩ := orderly.answered submission result (queue ▸ member)
    refine ⟨mark transfer, ?_, (same transfer).trans sameSubmission, finished transfer isOver, fun isCancelled => ?_⟩
    · rw [transfers]
      exact List.mem_map_of_mem known
    · exact cancelled transfer (requested isCancelled)

theorem cancelHandle (orderly : Orderly panel) : Orderly panel.cancelHandle := by
  unfold Panel.cancelHandle
  cases panel.chat.active.handle with
  | none => exact { orderly with }
  | some requestId =>
    refine orderly.map rfl (fun transfer => ?_) (fun transfer => ?_) (fun transfer => ?_) rfl
    all_goals unfold Panel.requestCancel
    · split <;> rfl
    · split <;> exact id
    · split
      · exact fun _ => rfl
      · exact id

/-- A request gets an id that no transfer has. -/
theorem startRequest (orderly : Orderly panel) (threaded : Threaded host panel) (arguments : SubmitArguments) :
    Orderly (panel.startRequest host arguments) where
  unique := by
    change ((panel.transfers ++ _).map fun transfer : Transfer => transfer.submission.requestId).Nodup
    rw [List.map_append, List.nodup_append]
    refine ⟨orderly.unique, List.nodup_singleton _, ?_⟩
    intro old isOld new isNew same
    obtain ⟨transfer, known, rfl⟩ := List.mem_map.mp isOld
    obtain rfl := List.mem_singleton.mp isNew
    obtain ⟨n, below, drawn⟩ := threaded.drawn transfer known
    have := host.uuid_injective (drawn.symm.trans same)
    omega
  once := orderly.once
  answered submission result member := by
    obtain ⟨transfer, known, rest⟩ := orderly.answered submission result member
    exact ⟨transfer, List.mem_append_left _ known, rest⟩

/-- A snapshot waits with the results. -/
theorem streamed (orderly : Orderly panel) (requestId : String) (progress : ClientProgress ν) :
    Orderly (panel.streamed requestId progress) := by
  unfold Panel.streamed
  split
  · split
    · exact orderly
    · refine { orderly with once := ?_, answered := ?_ }
      · rw [List.filterMap_append]
        change (panel.queue.filterMap Delivery.answered ++ []).Nodup
        rw [List.append_nil]
        exact orderly.once
      · intro submission result member
        rcases List.mem_append.mp member with old | new
        · exact orderly.answered submission result old
        · cases List.mem_singleton.mp new
  · exact orderly

/-- The callback that is first leaves the queue. -/
theorem dequeued (orderly : Orderly panel) {delivery : Delivery ν} {rest : List (Delivery ν)}
    (queue : panel.queue = delivery :: rest) : Orderly { panel with queue := rest } where
  unique := orderly.unique
  once := by
    have once := orderly.once
    rw [queue] at once
    exact once.sublist ((List.sublist_cons_self delivery rest).filterMap _)
  answered submission result member :=
    orderly.answered submission result (by rw [queue]; exact List.mem_cons_of_mem _ member)

theorem cancelled_of_result {cancelRequested : Bool} {ending : TransferEnd ν}
    (cancelled : (ending.result cancelRequested).cancelled) : cancelRequested := by
  cases ending with
  | aborted response =>
    cases cancelRequested with
    | true => rfl
    | false => cases cancelled
  | failed | completed | unreadable => cases cancelled

/-- A transfer ends once, with one result. -/
theorem ended (orderly : Orderly panel) (requestId : String) (ending : TransferEnd ν) :
    Orderly (panel.ended requestId ending) := by
  unfold Panel.ended
  cases found : panel.findTransfer requestId with
  | none => exact orderly
  | some transfer =>
    dsimp only
    split_ifs with isOver
    · exact orderly
    have known : transfer ∈ panel.transfers := List.mem_of_find?_eq_some found
    have named : transfer.submission.requestId = requestId := by
      have := List.find?_some found
      exact of_decide_eq_true this
    have marked : Orderly { panel with transfers := panel.transfers.map fun other =>
        if other.submission.requestId = requestId then { other with finished := true } else other } := by
      refine orderly.map rfl (fun other => ?_) (fun other => ?_) (fun other => ?_) rfl
      · split <;> rfl
      · split
        · exact fun _ => rfl
        · exact id
      · split <;> exact id
    refine { unique := marked.unique, once := ?_, answered := ?_ }
    · rw [List.filterMap_append, List.nodup_append]
      refine ⟨orderly.once, List.nodup_singleton _, ?_⟩
      intro old isOld new isNew same
      obtain rfl := List.mem_singleton.mp isNew
      obtain ⟨delivery, waiting, answers⟩ := List.mem_filterMap.mp isOld
      cases delivery with
      | progress origin progress => cases answers
      | result submission result =>
        -- its transfer would be over already
        obtain ⟨twin, twinKnown, rfl, twinOver, -⟩ := orderly.answered submission result waiting
        have sameId : twin.submission.requestId = transfer.submission.requestId :=
          (Option.some.inj answers).trans same
        rw [orderly.inj twinKnown known sameId] at twinOver
        exact isOver twinOver
    · intro submission result member
      rcases List.mem_append.mp member with old | new
      · exact marked.answered submission result old
      · obtain ⟨rfl, rfl⟩ := Delivery.result.inj (List.mem_singleton.mp new)
        refine ⟨{ transfer with finished := true }, List.mem_map.mpr ⟨transfer, known, if_pos named⟩, rfl, rfl, ?_⟩
        exact cancelled_of_result

theorem cancelActiveRequest (orderly : Orderly panel) (statusText stopReason : String) :
    Orderly (panel.cancelActiveRequest statusText stopReason) := by
  have core := panel.core_cancelActiveRequest statusText stopReason
  exact orderly.cancelHandle.of_same (congrArg (·.transfers) core) (congrArg (·.queue) core)

theorem submitInternal (orderly : Orderly panel) (threaded : Threaded host panel) (arguments : SubmitArguments)
    (outcome : SubmitOutcome) : Orderly (panel.submitInternal host arguments outcome).panel := by
  have reopened : Orderly (panel.reopened host) := orderly.of_same rfl rfl
  have wired : Wired host (panel.reopened host) := threaded.switchToImageSession false
  rcases panel.submitInternal_paths host arguments outcome with refused | ⟨-, ⟨message, abandoned⟩ | started⟩
  · rw [refused]
    exact reopened
  · rw [abandoned]
    exact reopened.of_same rfl rfl
  · have announced : Orderly ((panel.reopened host).announceRequest arguments) := reopened.of_same rfl rfl
    have threadedThen : Threaded host ((panel.reopened host).announceRequest arguments) :=
      (wired.toThreaded.setLoading true).of_core (Panel.core_announceRequest _ arguments)
    rw [started]
    exact announced.startRequest threadedThen arguments

end Orderly

namespace Panel

variable {host : Host κ ν W} {panel : Panel κ ν}

theorem awaits_cons {rest : List (Delivery ν)} {delivery : Delivery ν} (queue : panel.queue = delivery :: rest)
    (requestId : String) : panel.awaits requestId =
      (decide (delivery.answered = some requestId) || ({ panel with queue := rest } : Panel κ ν).awaits requestId) := by
  unfold awaits
  rw [queue]
  exact List.any_cons

theorem awaits_append (panel : Panel κ ν) (delivery : Delivery ν) (transfers : List Transfer) (requestId : String) :
    ({ panel with queue := panel.queue ++ [delivery], transfers } : Panel κ ν).awaits requestId =
      (panel.awaits requestId || decide (delivery.answered = some requestId)) := by
  unfold awaits
  rw [List.any_append, List.any_cons, List.any_nil, Bool.or_false]

/-- Nothing is taken out of the list. -/
theorem running_eq_filter (panel : Panel κ ν) {kept : ChatSubmission → Bool} (all : ∀ submission, kept submission) :
    panel.running = panel.running.filter kept := (List.filter_eq_self.mpr fun submission _ => all submission).symm

theorem running_cancelHandle (panel : Panel κ ν) : panel.cancelHandle.running =
    panel.running.filter fun submission => decide (panel.chat.active.handle ≠ some submission.requestId) := by
  unfold cancelHandle
  cases handle : panel.chat.active.handle with
  | none => exact running_eq_filter panel fun _ => by simp
  | some requestId =>
    refine running_map rfl (fun transfer => ?_) _ fun transfer _ => ?_
    · unfold requestCancel
      split <;> rfl
    · by_cases named : transfer.submission.requestId = requestId
      · simp [runs, requestCancel, named]
      · have other : requestId ≠ transfer.submission.requestId := fun same => named same.symm
        rw [requestCancel, if_neg named]
        simp [runs, awaits, other]

theorem running_startRequest (panel : Panel κ ν) (arguments : SubmitArguments) :
    (panel.startRequest host arguments).running = panel.running ++ [panel.submission host arguments] := by
  have same : (panel.startRequest host arguments).runs = panel.runs := rfl
  unfold running
  rw [same]
  change ((panel.transfers ++ [_]).filter panel.runs).map _ = _
  rw [List.filter_append, List.map_append]
  rfl

theorem running_streamed (panel : Panel κ ν) (requestId : String) (progress : ClientProgress ν) :
    (panel.streamed requestId progress).running = panel.running := by
  unfold streamed
  split
  · split
    · rfl
    · have same : ∀ submission, ({ panel with queue := panel.queue ++ [.progress submission progress] } : Panel κ ν).runs =
          panel.runs := by
        intro submission
        funext transfer
        unfold runs
        rw [awaits_append panel (.progress submission progress) panel.transfers]
        simp [Delivery.answered]
      unfold running
      rw [same]
  · rfl

/-- A transfer that ends has its result waiting, so its request runs on. -/
theorem running_ended (orderly : Orderly panel) (requestId : String) (ending : TransferEnd ν) :
    (panel.ended requestId ending).running = panel.running := by
  unfold ended
  cases found : panel.findTransfer requestId with
  | none => rfl
  | some transfer =>
    dsimp only
    split_ifs with isOver
    · rfl
    have known : transfer ∈ panel.transfers := List.mem_of_find?_eq_some found
    have named : transfer.submission.requestId = requestId := by
      have := List.find?_some found
      exact of_decide_eq_true this
    refine (running_map rfl (fun other => ?_) (fun _ => true) fun other member => ?_).trans
      (running_eq_filter panel fun _ => rfl).symm
    · split <;> rfl
    · unfold runs
      rw [awaits_append panel, show Delivery.answered (.result transfer.submission
        (ending.result transfer.cancelRequested) : Delivery ν) = some transfer.submission.requestId from rfl, named]
      by_cases same : other.submission.requestId = requestId
      · obtain rfl := orderly.inj member known (same.trans named.symm)
        simp [same, isOver]
      · have different : requestId ≠ other.submission.requestId := fun other => same other.symm
        simp [same, different]

/-- A snapshot that is delivered ends no request. -/
theorem running_progress {rest : List (Delivery ν)} {origin : ChatSubmission} {progress : ClientProgress ν}
    (queue : panel.queue = .progress origin progress :: rest) :
    ({ panel with queue := rest } : Panel κ ν).running = panel.running := by
  have same : ({ panel with queue := rest } : Panel κ ν).runs = panel.runs := by
    funext transfer
    unfold runs
    rw [awaits_cons queue]
    rfl
  unfold running
  rw [same]

/-- A request whose result is delivered runs no more. -/
theorem running_result (orderly : Orderly panel) {rest : List (Delivery ν)} {submission : ChatSubmission}
    {result : ClientResult ν} (queue : panel.queue = .result submission result :: rest) :
    ({ panel with queue := rest } : Panel κ ν).running =
      panel.running.filter fun other => decide (other.requestId ≠ submission.requestId) := by
  have unmarked : ({ panel with queue := rest } : Panel κ ν).transfers = panel.transfers.map id := (List.map_id _).symm
  refine running_map unmarked (fun _ => rfl) _ fun transfer member => ?_
  by_cases same : transfer.submission.requestId = submission.requestId
  · -- the transfer is over, and no second result waits
    obtain ⟨owner, known, isOwner, isOver, -⟩ := orderly.answered submission result (by rw [queue]; exact List.mem_cons_self)
    obtain rfl := orderly.inj member known (same.trans (congrArg (·.requestId) isOwner).symm)
    have once := orderly.once
    rw [queue] at once
    change (submission.requestId :: rest.filterMap Delivery.answered).Nodup at once
    rw [List.nodup_cons] at once
    have silent : ({ panel with queue := rest } : Panel κ ν).awaits submission.requestId = false := by
      refine List.any_eq_false.mpr fun delivery waiting answers => once.1 ?_
      exact List.mem_filterMap.mpr ⟨delivery, waiting, of_decide_eq_true answers⟩
    simp [runs, isOver, silent, same]
  · have awaits := awaits_cons queue transfer.submission.requestId
    have different : submission.requestId ≠ transfer.submission.requestId := fun other => same other.symm
    rw [show Delivery.answered (.result submission result : Delivery ν) = some submission.requestId from rfl,
      decide_eq_false (fun other => different (Option.some.inj other)), Bool.false_or] at awaits
    unfold runs
    rw [awaits, id, decide_eq_true same, Bool.and_true]

end Panel

end Running

end DarktableAgent.Chat
