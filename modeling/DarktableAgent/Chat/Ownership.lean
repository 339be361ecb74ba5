import DarktableAgent.Chat.ClientMemory
import DarktableAgent.Chat.Loading

/-! Who owns what.

A handle is counted by the panel that holds it and by the job that was not destroyed, a
submission is kept until the result of its request has been handed over. Whatever the
panel does with a request, starting or cancelling it, keeps the count.
-/

set_option autoImplicit false

namespace DarktableAgent.Chat

open Foundation Protocol Client

section Ownership

variable {κ ν W : Type}

namespace Panel

variable (panel : Panel κ ν)

/-- The result of the request has not been handed over. -/
def unanswered (requestId : String) : Bool :=
  (panel.findTransfer requestId).any fun transfer => !transfer.finished || panel.awaits requestId

/-- The panel and the job own a handle. -/
def handleOwners (jobs : List String) (requestId : String) : Nat :=
  (if panel.chat.active.handle = some requestId then 1 else 0) + if requestId ∈ jobs then 1 else 0

/-- What the handle of a request holds. -/
def handleOf (appSessionId requestId : String) : RequestHandle :=
  match panel.findTransfer requestId with
  | some transfer =>
    ⟨handleIds appSessionId transfer.submission, transfer.cancelRequested, transfer.cancelRequested⟩
  | none => ⟨⟨none, none, none, none, none⟩, false, false⟩

/-- The owner of a submission; the main loop has one in hand while it runs the callback of a result. -/
def submissionOwners (inHand : Option String) (requestId : String) : Nat :=
  if panel.unanswered requestId ∨ inHand = some requestId then 1 else 0

end Panel

variable (appSessionId : String)

/-- The memory of the client is that of the panel's requests. -/
structure Owned (inHand : Option String) (panel : Panel κ ν) (memory : ClientMemory) : Prop where
  handles : OwnedBy memory.handles (panel.handleOwners memory.jobs) (panel.handleOf appSessionId)
  submissions : OwnedBy memory.submissions (panel.submissionOwners inHand) fun _ => ()
  jobs : memory.jobs.Nodup
  working : ∀ transfer ∈ panel.transfers, transfer.finished = false → transfer.submission.requestId ∈ memory.jobs
  employed : ∀ requestId ∈ memory.jobs, (panel.findTransfer requestId).isSome
  spent : ∀ requestId ∈ inHand, (panel.findTransfer requestId).isSome ∧ panel.unanswered requestId = false
  holding : ∀ requestId, panel.chat.active.handle = some requestId → panel.unanswered requestId
  waiting : ∀ delivery ∈ panel.queue, panel.unanswered delivery.submission.requestId
  -- the result is the last callback of its request
  lasting : panel.queue.Pairwise fun first later => first.answered ≠ some later.submission.requestId
  delivered : ∀ delivery, delivery ∈ memory.cancelDeliveries → ∃ transfer ∈ panel.transfers,
    transfer.cancelRequested ∧ delivery.ids = handleIds appSessionId transfer.submission
  posted : ∀ transfer ∈ panel.transfers, transfer.cancelRequested →
    ∃ delivery ∈ memory.cancelDeliveries, delivery.ids = handleIds appSessionId transfer.submission
  once : (memory.cancelDeliveries.map (·.ids.requestId)).Nodup

namespace Panel

variable {panel other : Panel κ ν}

theorem findTransfer_eq_some {requestId : String} {transfer : Transfer}
    (found : panel.findTransfer requestId = some transfer) :
    transfer ∈ panel.transfers ∧ transfer.submission.requestId = requestId := by
  have named := List.find?_some found
  exact ⟨List.mem_of_find?_eq_some found, of_decide_eq_true named⟩

theorem findTransfer_of_mem (orderly : Orderly panel) {transfer : Transfer} (member : transfer ∈ panel.transfers) :
    panel.findTransfer transfer.submission.requestId = some transfer := by
  cases found : panel.findTransfer transfer.submission.requestId with
  | none => exact absurd (decide_eq_true rfl) (List.find?_eq_none.mp found transfer member)
  | some twin =>
    obtain ⟨known, same⟩ := findTransfer_eq_some found
    rw [orderly.inj known member same]

theorem findTransfer_map {mark : Transfer → Transfer} (transfers : other.transfers = panel.transfers.map mark)
    (same : ∀ transfer, (mark transfer).submission = transfer.submission) (requestId : String) :
    other.findTransfer requestId = (panel.findTransfer requestId).map mark := by
  unfold findTransfer
  rw [transfers, List.find?_map]
  congr 1
  refine congrArg (fun wanted => panel.transfers.find? wanted) ?_
  funext transfer
  simp [same]

theorem unanswered_eq_true {requestId : String} (unanswered : panel.unanswered requestId) :
    ∃ transfer, panel.findTransfer requestId = some transfer ∧
      (transfer.finished = false ∨ panel.awaits requestId) := by
  obtain ⟨transfer, found, waits⟩ := Option.any_eq_true _ _ |>.mp unanswered
  exact ⟨transfer, found, by simpa using waits⟩

theorem unanswered_of {requestId : String} {transfer : Transfer} (found : panel.findTransfer requestId = some transfer)
    (waits : transfer.finished = false ∨ panel.awaits requestId) : panel.unanswered requestId := by
  unfold unanswered
  rw [found]
  simpa using waits

/-- Marks that change neither the submission nor whether the transfer is over. -/
theorem unanswered_map {mark : Transfer → Transfer} (transfers : other.transfers = panel.transfers.map mark)
    (same : ∀ transfer, (mark transfer).submission = transfer.submission)
    (finished : ∀ transfer, (mark transfer).finished = transfer.finished) (queue : other.queue = panel.queue)
    (requestId : String) : other.unanswered requestId = panel.unanswered requestId := by
  unfold unanswered awaits
  rw [findTransfer_map transfers same, queue]
  cases panel.findTransfer requestId with
  | none => rfl
  | some transfer => simp [finished]

theorem requestCancel_submission (requestId : String) (transfer : Transfer) :
    (requestCancel requestId transfer).submission = transfer.submission := by
  unfold requestCancel
  split <;> rfl

theorem requestCancel_finished (requestId : String) (transfer : Transfer) :
    (requestCancel requestId transfer).finished = transfer.finished := by
  unfold requestCancel
  split <;> rfl

theorem handleOf_eq {requestId : String} {transfer : Transfer} (found : panel.findTransfer requestId = some transfer) :
    panel.handleOf appSessionId requestId =
      ⟨handleIds appSessionId transfer.submission, transfer.cancelRequested, transfer.cancelRequested⟩ := by
  unfold handleOf
  rw [found]

/-- The mark of a transfer that is over. -/
def finish (requestId : String) (transfer : Transfer) : Transfer :=
  if transfer.submission.requestId = requestId then { transfer with finished := true } else transfer

theorem finish_same (requestId : String) (transfer : Transfer) :
    (finish requestId transfer).submission = transfer.submission ∧
      (finish requestId transfer).cancelRequested = transfer.cancelRequested := by
  unfold finish
  split_ifs <;> exact ⟨rfl, rfl⟩

section Ended

variable {requestId : String} {transfer : Transfer} (found : panel.findTransfer requestId = some transfer)
  (running : transfer.finished = false) (ending : TransferEnd ν)

include found running

theorem ended_eq : panel.ended requestId ending = { panel with
    queue := panel.queue ++ [.result transfer.submission (ending.result transfer.cancelRequested)]
    transfers := panel.transfers.map (finish requestId) } := by
  unfold ended
  rw [found]
  exact if_neg (by rw [running]; exact Bool.false_ne_true)

theorem findTransfer_ended (wanted : String) :
    (panel.ended requestId ending).findTransfer wanted = (panel.findTransfer wanted).map (finish requestId) := by
  rw [ended_eq found running]
  exact findTransfer_map rfl (fun transfer => (finish_same requestId transfer).1) wanted

theorem handleOf_ended (wanted : String) :
    (panel.ended requestId ending).handleOf appSessionId wanted = panel.handleOf appSessionId wanted := by
  unfold handleOf
  rw [findTransfer_ended found running]
  cases panel.findTransfer wanted with
  | none => rfl
  | some other => simp [(finish_same requestId other).1, (finish_same requestId other).2]

/-- The transfer is over, but its result waits. -/
theorem unanswered_ended (wanted : String) :
    (panel.ended requestId ending).unanswered wanted = panel.unanswered wanted := by
  obtain ⟨-, named⟩ := findTransfer_eq_some found
  have awaits : (panel.ended requestId ending).awaits wanted =
      (panel.awaits wanted || decide (some requestId = some wanted)) := by
    rw [ended_eq found running, awaits_append]
    simp only [Delivery.answered, named]
  unfold unanswered
  rw [findTransfer_ended found running, awaits]
  cases foundWanted : panel.findTransfer wanted with
  | none => rfl
  | some other =>
    obtain ⟨-, namedOther⟩ := findTransfer_eq_some foundWanted
    by_cases here : wanted = requestId
    · subst here
      rw [found] at foundWanted
      obtain rfl := Option.some.inj foundWanted
      simp [running]
    · have different : requestId ≠ wanted := fun same => here same.symm
      simp [finish, namedOther, here, different]

end Ended

end Panel

namespace Owned

variable {appSessionId} {host : Host κ ν W} {inHand : Option String} {panel other : Panel κ ν} {memory : ClientMemory}

/-- Only the handle, the transfers and the queue count. -/
theorem of_same (owned : Owned appSessionId inHand panel memory)
    (handle : other.chat.active.handle = panel.chat.active.handle) (transfers : other.transfers = panel.transfers)
    (queue : other.queue = panel.queue) : Owned appSessionId inHand other memory := by
  have found : other.findTransfer = panel.findTransfer := by
    funext requestId
    unfold Panel.findTransfer
    rw [transfers]
  have unanswered : other.unanswered = panel.unanswered := by
    funext requestId
    unfold Panel.unanswered Panel.awaits
    rw [found, queue]
  constructor
  case handles =>
    have owners : other.handleOwners = panel.handleOwners := by
      unfold Panel.handleOwners
      rw [handle]
    have values : other.handleOf = panel.handleOf := by
      unfold Panel.handleOf
      rw [found]
    rw [owners, values]
    exact owned.handles
  case submissions =>
    have owners : other.submissionOwners = panel.submissionOwners := by
      unfold Panel.submissionOwners
      rw [unanswered]
    rw [owners]
    exact owned.submissions
  case jobs => exact owned.jobs
  case working => rw [transfers]; exact owned.working
  case employed => rw [found]; exact owned.employed
  case spent => rw [found, unanswered]; exact owned.spent
  case holding => rw [handle, unanswered]; exact owned.holding
  case waiting => rw [queue, unanswered]; exact owned.waiting
  case lasting => rw [queue]; exact owned.lasting
  case delivered => rw [transfers]; exact owned.delivered
  case posted => rw [transfers]; exact owned.posted
  case once => exact owned.once

theorem of_core (owned : Owned appSessionId inHand panel memory) (same : other.core = panel.core) :
    Owned appSessionId inHand other memory :=
  owned.of_same (congrArg (fun panel => panel.chat.active.handle) same) (congrArg (fun panel => panel.transfers) same)
    (congrArg (fun panel => panel.queue) same)

/-- The handle that the panel holds is there, and is not cancelled. -/
theorem held (owned : Owned appSessionId inHand panel memory) (threaded : Threaded host panel) {requestId : String}
    (handle : panel.chat.active.handle = some requestId) :
    ∃ transfer, panel.findTransfer requestId = some transfer ∧ transfer.cancelRequested = false := by
  obtain ⟨transfer, found, -⟩ := Panel.unanswered_eq_true (owned.holding requestId handle)
  obtain ⟨member, named⟩ := Panel.findTransfer_eq_some found
  refine ⟨transfer, found, Bool.eq_false_iff.mpr fun cancelled => ?_⟩
  exact threaded.held transfer member cancelled (by rw [named]; exact handle)

theorem findTransfer_cancelHandle {requestId : String} (handle : panel.chat.active.handle = some requestId)
    (wanted : String) : panel.cancelHandle.findTransfer wanted =
      (panel.findTransfer wanted).map (Panel.requestCancel requestId) := by
  refine Panel.findTransfer_map ?_ (Panel.requestCancel_submission requestId) wanted
  unfold Panel.cancelHandle
  rw [handle]

/-- The handle of a cancelled request says so, and the others are what they were. -/
theorem handleOf_cancelHandle {requestId : String} (handle : panel.chat.active.handle = some requestId)
    {transfer : Transfer} (found : panel.findTransfer requestId = some transfer) :
    panel.cancelHandle.handleOf appSessionId requestId = (panel.handleOf appSessionId requestId).cancel ∧
    ∀ wanted, wanted ≠ requestId →
      panel.cancelHandle.handleOf appSessionId wanted = panel.handleOf appSessionId wanted := by
  unfold Panel.handleOf
  constructor
  · rw [findTransfer_cancelHandle handle, found]
    obtain ⟨-, named⟩ := Panel.findTransfer_eq_some found
    simp [Panel.requestCancel, RequestHandle.cancel, named]
  · intro wanted different
    rw [findTransfer_cancelHandle handle]
    cases foundOther : panel.findTransfer wanted with
    | none => rfl
    | some other =>
      obtain ⟨-, named⟩ := Panel.findTransfer_eq_some foundOther
      have unmarked : Panel.requestCancel requestId other = other := if_neg (by rw [named]; exact different)
      simp [unmarked]

/-- What the threads that post cancellations were given, when one more is started. -/
theorem cancelled_once (owned : Owned appSessionId inHand panel memory) {transfer : Transfer}
    (member : transfer ∈ panel.transfers) (uncancelled : transfer.cancelRequested = false) (orderly : Orderly panel)
    (reason : Option String) : ((memory.cancelDeliveries ++
      [(⟨handleIds appSessionId transfer.submission, reason⟩ : CancelDelivery)]).map (·.ids.requestId)).Nodup := by
  rw [List.map_append, List.nodup_append]
  refine ⟨owned.once, List.nodup_singleton _, ?_⟩
  intro old isOld new isNew same
  obtain ⟨delivery, isDelivery, rfl⟩ := List.mem_map.mp isOld
  obtain rfl := List.mem_singleton.mp isNew
  obtain ⟨twin, known, cancelled, ids⟩ := owned.delivered delivery isDelivery
  rw [ids] at same
  rw [orderly.inj known member (Option.some.inj same), uncancelled] at cancelled
  cases cancelled

/-- A cancellation marks the handle, starts one thread and drops the reference of the panel. -/
theorem cancel_memory (owned : Owned appSessionId inHand panel memory) {requestId : String}
    (handle : panel.chat.active.handle = some requestId) {transfer : Transfer}
    (found : panel.findTransfer requestId = some transfer) (uncancelled : transfer.cancelRequested = false)
    (stopReason : String) :
    ∃ handles, memory.performAll appSessionId [.requestCancel requestId stopReason, .requestUnref requestId] =
        some { memory with
          handles
          cancelDeliveries := memory.cancelDeliveries ++
            [⟨handleIds appSessionId transfer.submission, some stopReason⟩] } ∧
      OwnedBy handles (panel.cancelHandle.handleOwners memory.jobs) (panel.cancelHandle.handleOf appSessionId) := by
  have handleAfter : panel.cancelHandle.chat.active.handle = none := by simp [Panel.cancelHandle, handle]
  have alive : 0 < panel.handleOwners memory.jobs requestId := by
    unfold Panel.handleOwners
    rw [if_pos handle]
    omega
  obtain ⟨here, elsewhere⟩ := @handleOf_cancelHandle _ _ appSessionId _ _ handle _ found
  obtain ⟨marked, marks, ownedMarked⟩ := owned.handles.modify alive here elsewhere
  obtain ⟨dropped, drops, ownedDropped⟩ := @OwnedBy.unref _ _ _ _
    (panel.cancelHandle.handleOwners memory.jobs) _ requestId _ ownedMarked
    (by simp [Panel.handleOwners, handle, handleAfter]; omega)
    (fun wanted different => by
      have other : requestId ≠ wanted := different.symm
      simp [Panel.handleOwners, handle, handleAfter, other])
  have held := Panel.handleOf_eq appSessionId found
  rw [uncancelled] at held
  refine ⟨dropped, ?_, ownedDropped⟩
  simp [ClientMemory.performAll_cons, ClientMemory.perform, ClientMemory.requestCancel, owned.handles.get alive, held,
    marks, drops]
  rfl

theorem cancel (owned : Owned appSessionId inHand panel memory) (threaded : Threaded host panel)
    (orderly : Orderly panel) (stopReason : String) :
    ∃ after, memory.performAll appSessionId (panel.cancelCalls stopReason) = some after ∧
      Owned appSessionId inHand panel.cancelHandle after := by
  unfold Panel.cancelCalls
  cases handle : panel.chat.active.handle with
  | none =>
    refine ⟨memory, rfl, owned.of_same ?_ ?_ rfl⟩ <;> simp [Panel.cancelHandle, handle]
  | some requestId =>
    obtain ⟨transfer, found, uncancelled⟩ := owned.held threaded handle
    obtain ⟨member, named⟩ := Panel.findTransfer_eq_some found
    have transfers : panel.cancelHandle.transfers = panel.transfers.map (Panel.requestCancel requestId) := by
      simp [Panel.cancelHandle, handle]
    have unanswered : ∀ wanted, panel.cancelHandle.unanswered wanted = panel.unanswered wanted :=
      Panel.unanswered_map transfers (Panel.requestCancel_submission requestId) (Panel.requestCancel_finished requestId) rfl
    obtain ⟨handles, performs, dropped⟩ := owned.cancel_memory handle found uncancelled stopReason
    refine ⟨_, performs, ?_⟩
    constructor
    case handles => exact dropped
    case submissions =>
      refine owned.submissions.congr (fun wanted => ?_) fun _ => rfl
      unfold Panel.submissionOwners
      rw [unanswered]
    case jobs => exact owned.jobs
    case working =>
      intro other isOther running
      rw [transfers] at isOther
      obtain ⟨original, known, rfl⟩ := List.mem_map.mp isOther
      rw [Panel.requestCancel_finished] at running
      rw [Panel.requestCancel_submission]
      exact owned.working original known running
    case employed =>
      intro wanted isJob
      rw [findTransfer_cancelHandle handle, Option.isSome_map]
      exact owned.employed wanted isJob
    case spent =>
      intro wanted isHand
      rw [findTransfer_cancelHandle handle, Option.isSome_map, unanswered]
      exact owned.spent wanted isHand
    case holding =>
      intro wanted holds
      simp [Panel.cancelHandle, handle] at holds
    case waiting =>
      intro delivery waits
      rw [unanswered]
      exact owned.waiting delivery waits
    case lasting => exact owned.lasting
    case delivered =>
      intro delivery isDelivery
      rw [transfers]
      rcases List.mem_append.mp isDelivery with old | new
      · obtain ⟨original, known, cancelled, ids⟩ := owned.delivered delivery old
        refine ⟨_, List.mem_map_of_mem known, ?_, ?_⟩
        · unfold Panel.requestCancel
          split
          · rfl
          · exact cancelled
        · rw [Panel.requestCancel_submission]
          exact ids
      · obtain rfl := List.mem_singleton.mp new
        refine ⟨_, List.mem_map_of_mem member, ?_, ?_⟩
        · simp [Panel.requestCancel, named]
        · rw [Panel.requestCancel_submission]
    case posted =>
      intro other isOther cancelled
      rw [transfers] at isOther
      obtain ⟨original, known, rfl⟩ := List.mem_map.mp isOther
      rw [Panel.requestCancel_submission]
      by_cases same : original.submission.requestId = requestId
      · obtain rfl := orderly.inj known member (same.trans named.symm)
        exact ⟨_, List.mem_append_right _ (List.mem_singleton_self _), rfl⟩
      · rw [Panel.requestCancel, if_neg same] at cancelled
        obtain ⟨delivery, old, ids⟩ := owned.posted original known cancelled
        exact ⟨delivery, List.mem_append_left _ old, ids⟩
    case once => exact owned.cancelled_once member uncancelled orderly _

/-- The panel gives up its reference. -/
theorem dropHandle {owners after : String → Nat} {values : String → RequestHandle}
    (counted : OwnedBy memory.handles owners values)
    (less : ∀ wanted, owners wanted = after wanted + if panel.chat.active.handle = some wanted then 1 else 0) :
    ∃ handles, memory.performAll appSessionId panel.dropHandleCalls = some { memory with handles } ∧
      OwnedBy handles after values := by
  unfold Panel.dropHandleCalls
  cases handle : panel.chat.active.handle with
  | none =>
    refine ⟨memory.handles, rfl, counted.congr (fun wanted => ?_) fun _ => rfl⟩
    simp [less wanted, handle]
  | some requestId =>
    obtain ⟨handles, drops, dropped⟩ := @OwnedBy.unref _ _ _ _ after _ requestId _ counted
      (by simp [less requestId, handle])
      (fun wanted different => by
        have other : requestId ≠ wanted := different.symm
        simp [less wanted, handle, other])
    refine ⟨handles, ?_, dropped⟩
    simp [ClientMemory.performAll_cons, ClientMemory.perform, drops]
    rfl

/-- A request that is drawn now has no transfer yet. -/
theorem unknown (threaded : Threaded host panel) : panel.findTransfer (host.uuid panel.uuidsDrawn) = none := by
  refine List.find?_eq_none.mpr fun transfer member named => ?_
  obtain ⟨n, below, drawn⟩ := threaded.drawn transfer member
  have same := host.uuid_injective (drawn.symm.trans (of_decide_eq_true named))
  omega

theorem findTransfer_startRequest (threaded : Threaded host panel) (arguments : SubmitArguments) (wanted : String) :
    (panel.startRequest host arguments).findTransfer wanted =
      if wanted = host.uuid panel.uuidsDrawn then some {
        submission := panel.submission host arguments
        refinementMode := arguments.refinementMode
        historyPosition := host.historyEnd panel.develop.content
        historyCount := host.historyCount panel.develop.content }
      else panel.findTransfer wanted := by
  unfold Panel.findTransfer
  change (panel.transfers ++ [_]).find? _ = _
  rw [List.find?_append]
  by_cases new : wanted = host.uuid panel.uuidsDrawn
  · subst new
    have fresh : panel.transfers.find? (fun transfer =>
      transfer.submission.requestId = host.uuid panel.uuidsDrawn) = none := unknown threaded
    rw [fresh, if_pos rfl, Option.none_or]
    exact List.find?_cons_of_pos (by simp [Panel.submission])
  · have other : ¬ host.uuid panel.uuidsDrawn = wanted := fun same => new same.symm
    rw [if_neg new, List.find?_cons_of_neg (by simp [Panel.submission, other]), List.find?_nil, Option.or_none]

theorem unanswered_startRequest (threaded : Threaded host panel) (arguments : SubmitArguments) (wanted : String) :
    (panel.startRequest host arguments).unanswered wanted =
      (decide (wanted = host.uuid panel.uuidsDrawn) || panel.unanswered wanted) := by
  unfold Panel.unanswered
  rw [findTransfer_startRequest threaded]
  by_cases new : wanted = host.uuid panel.uuidsDrawn
  · simp [new]
  · rw [if_neg new]
    simp only [new, decide_false, Bool.false_or]
    rfl

/-- Nobody owns anything of a request that is drawn now. -/
theorem unowned (owned : Owned appSessionId inHand panel memory) (threaded : Threaded host panel) :
    panel.chat.active.handle ≠ some (host.uuid panel.uuidsDrawn) ∧ host.uuid panel.uuidsDrawn ∉ memory.jobs ∧
      panel.unanswered (host.uuid panel.uuidsDrawn) = false ∧ inHand ≠ some (host.uuid panel.uuidsDrawn) := by
  have fresh := unknown threaded
  have silent : panel.unanswered (host.uuid panel.uuidsDrawn) = false := by
    unfold Panel.unanswered
    rw [fresh]
    rfl
  refine ⟨fun holds => ?_, fun isJob => ?_, silent, fun isHand => ?_⟩
  · have waits := owned.holding _ holds
    rw [silent] at waits
    cases waits
  · have found := owned.employed _ isJob
    rw [fresh] at found
    cases found
  · have found := (owned.spent _ isHand).1
    rw [fresh] at found
    cases found

theorem handleOf_startRequest (threaded : Threaded host panel) (arguments : SubmitArguments) :
    (panel.startRequest host arguments).handleOf appSessionId (host.uuid panel.uuidsDrawn) =
        { ids := handleIds appSessionId (panel.submission host arguments) } ∧
      ∀ wanted, wanted ≠ host.uuid panel.uuidsDrawn →
        (panel.startRequest host arguments).handleOf appSessionId wanted = panel.handleOf appSessionId wanted := by
  unfold Panel.handleOf
  refine ⟨?_, fun wanted different => ?_⟩
  · rw [findTransfer_startRequest threaded, if_pos rfl]
  · rw [findTransfer_startRequest threaded, if_neg different]

/-- The job and the panel get the new handle, and the panel lets go of an older one. -/
theorem start_memory (owned : Owned appSessionId inHand panel memory) (threaded : Threaded host panel)
    (arguments : SubmitArguments) {requestId : String} (named : host.uuid panel.uuidsDrawn = requestId) :
    ∃ handles, memory.performAll appSessionId
        ([.newSubmission requestId, .chatAsync (panel.submission host arguments) true] ++ panel.dropHandleCalls ++
          [.readSubmission requestId]) = some { memory with
            handles
            submissions := memory.submissions.create requestId ()
            jobs := memory.jobs ++ [requestId] } ∧
      OwnedBy handles ((panel.startRequest host arguments).handleOwners (memory.jobs ++ [requestId]))
        ((panel.startRequest host arguments).handleOf appSessionId) ∧
      OwnedBy (memory.submissions.create requestId ()) ((panel.startRequest host arguments).submissionOwners inHand)
        fun _ => () := by
  obtain ⟨notHeld, notJob, -⟩ := owned.unowned threaded
  have unanswered := unanswered_startRequest threaded arguments
  obtain ⟨handleOf, handleOfOther⟩ := @handleOf_startRequest _ _ _ appSessionId _ _ threaded arguments
  have sameId : (panel.submission host arguments).requestId = requestId := named
  have handleAfter : (panel.startRequest host arguments).chat.active.handle = some requestId := by rw [← named]; rfl
  rw [named] at notHeld notJob unanswered handleOf handleOfOther
  -- the handle is counted for the panel and for the job
  have created := @OwnedBy.create _ _ _ _ (Function.update (panel.handleOwners memory.jobs) requestId 1) _
    ((panel.startRequest host arguments).handleOf appSessionId) requestId _ owned.handles (by simp)
    (fun wanted different => by simp [different]) handleOfOther
  obtain ⟨shared, shares, ownedShared⟩ := @OwnedBy.ref _ _ _ _
    (Function.update (panel.handleOwners memory.jobs) requestId 2) _ requestId _ created (by simp) (by simp)
    (fun wanted different => by simp [different])
  have submissions := @OwnedBy.create _ _ _ _ ((panel.startRequest host arguments).submissionOwners inHand) _
    (fun _ => ()) requestId _ owned.submissions (by simp [Panel.submissionOwners, unanswered])
    (fun wanted different => by simp [Panel.submissionOwners, unanswered, different]) fun _ _ => rfl
  obtain ⟨begun, isBegun⟩ : ∃ begun : ClientMemory, { memory with
    handles := shared
    submissions := memory.submissions.create requestId ()
    jobs := memory.jobs ++ [requestId] } = begun := ⟨_, rfl⟩
  have ownedBegun : OwnedBy begun.handles (Function.update (panel.handleOwners memory.jobs) requestId 2)
      ((panel.startRequest host arguments).handleOf appSessionId) := by
    rw [← isBegun]
    exact ownedShared
  obtain ⟨handles, drops, dropped⟩ := @dropHandle _ _ appSessionId panel begun _
    ((panel.startRequest host arguments).handleOwners (memory.jobs ++ [requestId])) _ ownedBegun fun wanted => by
      by_cases new : wanted = requestId
      · subst new
        simp [Panel.handleOwners, handleAfter, notHeld]
      · have other : requestId ≠ wanted := fun same => new same.symm
        simp [Panel.handleOwners, handleAfter, new, other]
        omega
  refine ⟨handles, ?_, dropped, submissions⟩
  have begins : memory.performAll appSessionId [.newSubmission requestId,
      .chatAsync (panel.submission host arguments) true] = some begun := by
    rw [handleOf] at shares
    simp [ClientMemory.performAll_cons, ClientMemory.perform, ClientMemory.chatAsync, sameId, shares, ← isBegun]
    rfl
  have alive := submissions.get (show 0 < (panel.startRequest host arguments).submissionOwners inHand requestId by
    simp [Panel.submissionOwners, unanswered])
  rw [ClientMemory.performAll_append, ClientMemory.performAll_append, begins, Option.bind_some, drops, Option.bind_some,
    ← isBegun]
  simp [ClientMemory.performAll_cons, ClientMemory.perform, alive]
  rfl

theorem start (owned : Owned appSessionId inHand panel memory) (threaded : Threaded host panel)
    (arguments : SubmitArguments) :
    ∃ after, memory.performAll appSessionId
        ([.newSubmission (panel.submission host arguments).requestId,
          .chatAsync (panel.submission host arguments) true] ++ panel.dropHandleCalls ++
          [.readSubmission (panel.submission host arguments).requestId]) = some after ∧
      Owned appSessionId inHand (panel.startRequest host arguments) after := by
  obtain ⟨-, notJob, -, notHand⟩ := owned.unowned threaded
  have found := findTransfer_startRequest threaded arguments
  have unanswered := unanswered_startRequest threaded arguments
  obtain ⟨handles, performs, counted, submissions⟩ := owned.start_memory threaded arguments rfl
  refine ⟨_, performs, ?_⟩
  constructor
  case handles => exact counted
  case submissions => exact submissions
  case jobs =>
    refine List.nodup_append.mpr ⟨owned.jobs, List.nodup_singleton _, fun old isOld new isNew same => ?_⟩
    obtain rfl := List.mem_singleton.mp isNew
    exact notJob (same ▸ isOld)
  case working =>
    intro transfer member running
    rcases List.mem_append.mp member with old | new
    · exact List.mem_append_left _ (owned.working transfer old running)
    · obtain rfl := List.mem_singleton.mp new
      exact List.mem_append_right _ (List.mem_singleton_self _)
  case employed =>
    intro wanted isJob
    rw [found]
    split_ifs with new
    · rfl
    · rcases List.mem_append.mp isJob with old | isNew
      · exact owned.employed wanted old
      · exact absurd (List.mem_singleton.mp isNew) new
  case spent =>
    intro wanted isHand
    have other : wanted ≠ host.uuid panel.uuidsDrawn := by
      rintro rfl
      exact notHand isHand
    rw [found, unanswered, if_neg other]
    simpa [other] using owned.spent wanted isHand
  case holding =>
    intro wanted holds
    have new : wanted = host.uuid panel.uuidsDrawn := (Option.some.inj holds).symm
    simp [unanswered, new]
  case waiting =>
    intro delivery waits
    simp [unanswered, owned.waiting delivery waits]
  case lasting => exact owned.lasting
  case delivered =>
    intro delivery isDelivery
    obtain ⟨transfer, known, rest⟩ := owned.delivered delivery isDelivery
    exact ⟨transfer, List.mem_append_left _ known, rest⟩
  case posted =>
    intro transfer member cancelled
    rcases List.mem_append.mp member with old | new
    · exact owned.posted transfer old cancelled
    · obtain rfl := List.mem_singleton.mp new
      cases cancelled
  case once => exact owned.once

/-- A request that could not be queued leaves nothing behind. -/
theorem unqueued (owned : Owned appSessionId inHand panel memory) (threaded : Threaded host panel)
    (submission : ChatSubmission) (drawn : submission.requestId = host.uuid panel.uuidsDrawn) :
    ∃ after, memory.performAll appSessionId [.newSubmission submission.requestId, .chatAsync submission false,
        .readSubmission submission.requestId, .freeSubmission submission.requestId] = some after ∧
      Owned appSessionId inHand panel after := by
  obtain ⟨notHeld, notJob, silent, notHand⟩ := owned.unowned threaded
  rw [← drawn] at notHeld notJob silent notHand
  obtain ⟨requestId, named⟩ : ∃ requestId, submission.requestId = requestId := ⟨_, rfl⟩
  rw [named] at notHeld notJob silent notHand ⊢
  have nobody : panel.handleOwners memory.jobs requestId = 0 := by simp [Panel.handleOwners, notHeld, notJob]
  have noOwner : panel.submissionOwners inHand requestId = 0 := by simp [Panel.submissionOwners, silent, notHand]
  obtain ⟨values, isValues⟩ : ∃ values, Function.update (panel.handleOf appSessionId) requestId
    { ids := handleIds appSessionId submission } = values := ⟨_, rfl⟩
  have here : values requestId = { ids := handleIds appSessionId submission } := by simp [← isValues]
  have created := @OwnedBy.create _ _ _ _ (Function.update (panel.handleOwners memory.jobs) requestId 1) _ values
    requestId _ owned.handles (by simp) (fun wanted different => by simp [different])
    fun wanted different => by simp [← isValues, different]
  obtain ⟨shared, shares, ownedShared⟩ := @OwnedBy.ref _ _ _ _
    (Function.update (panel.handleOwners memory.jobs) requestId 2) _ requestId _ created (by simp) (by simp)
    fun wanted different => by simp [different]
  obtain ⟨dropped, drops, ownedDropped⟩ := @OwnedBy.unref _ _ _ _
    (Function.update (panel.handleOwners memory.jobs) requestId 1) _ requestId _ ownedShared (by simp)
    fun wanted different => by simp [different]
  obtain ⟨freed, frees, ownedFreed⟩ := @OwnedBy.unref _ _ _ _ (panel.handleOwners memory.jobs) _ requestId _ ownedDropped
    (by simp [nobody]) fun wanted different => by simp [different]
  have submissions := @OwnedBy.create _ _ _ _ (Function.update (panel.submissionOwners inHand) requestId 1) _
    (fun _ => ()) requestId _ owned.submissions (by simp) (fun wanted different => by simp [different]) fun _ _ => rfl
  obtain ⟨emptied, empties, ownedEmptied⟩ := @OwnedBy.unref _ _ _ _ (panel.submissionOwners inHand) _ requestId _
    submissions (by simp [noOwner]) fun wanted different => by simp [different]
  have alive := submissions.get (show 0 < Function.update (panel.submissionOwners inHand) requestId 1 requestId by simp)
  refine ⟨{ memory with handles := freed, submissions := emptied }, ?_, ?_⟩
  · rw [here] at shares
    simp [ClientMemory.performAll_cons, ClientMemory.perform, ClientMemory.chatAsync, named, shares, drops, frees, alive,
      empties]
    rfl
  · refine { owned with handles := ?_, submissions := ownedEmptied }
    -- nobody reads a handle that nobody owns
    intro wanted
    have counted := ownedFreed wanted
    by_cases gone : panel.handleOwners memory.jobs wanted = 0
    · rw [if_pos gone] at counted ⊢
      exact counted
    · have different : wanted ≠ requestId := by
        rintro rfl
        exact gone nobody
      change freed wanted = _
      rw [counted, ← isValues, Function.update_of_ne different]

/-- Whatever becomes of a submission, the calls that it makes go through. -/
theorem submit (owned : Owned appSessionId inHand panel memory) (threaded : Threaded host panel)
    (arguments : SubmitArguments) (outcome : SubmitOutcome) :
    ∃ after, memory.performAll appSessionId (panel.submitCalls host arguments outcome) = some after ∧
      Owned appSessionId inHand (panel.submitInternal host arguments outcome).panel after := by
  have reopened : Owned appSessionId inHand (panel.reopened host) memory := owned.of_same rfl rfl rfl
  have wired : Wired host (panel.reopened host) := threaded.switchToImageSession false
  unfold Panel.submitCalls Panel.submitInternal
  obtain ⟨switched, isSwitched⟩ : ∃ switched,
    panel.switchToImageSession host panel.develop.currentImageId false = switched := ⟨_, rfl⟩
  rw [Panel.reopened, isSwitched] at reopened wired
  rw [isSwitched]
  by_cases refused : switched.chat.isLoading ∨ arguments.message = ""
  · simp only [refused, if_true]
    exact ⟨memory, rfl, reopened⟩
  simp only [refused, if_false]
  have loading : Owned appSessionId inHand (switched.onChat (·.setLoading true)) memory := reopened.of_same rfl rfl rfl
  have announced := loading.of_core (Panel.core_announceRequest switched arguments)
  have threadedThen : Threaded host (switched.announceRequest arguments) :=
    (wired.toThreaded.setLoading true).of_core (Panel.core_announceRequest _ arguments)
  cases arguments.build outcome with
  | error message => exact ⟨memory, rfl, announced.of_same rfl rfl rfl⟩
  | ok =>
    cases outcome with
    | queueFailed message =>
      obtain ⟨after, performs, kept⟩ := announced.unqueued threadedThen
        ((switched.announceRequest arguments).submission host arguments) rfl
      exact ⟨after, performs, kept.of_same rfl rfl rfl⟩
    | queued | buildFailed => exact announced.start threadedThen arguments

end Owned

end Ownership

end DarktableAgent.Chat
