import DarktableAgent.Chat.Ownership

/-! Nothing is used that was freed, in every run.

The jobs, the results and the destruction of the jobs keep the count as well. Whatever the
order of clicks, deliveries and jobs, each use finds what it reads, and nothing is left
when all requests are over.
-/

set_option autoImplicit false

namespace DarktableAgent.Chat

open Foundation Protocol Client

section MemorySafety

variable {κ ν W : Type} (appSessionId : String)

namespace Owned

variable {appSessionId} {host : Host κ ν W} {inHand : Option String} {panel other : Panel κ ν} {memory : ClientMemory}

/-- The job still has its handle, so that a worker can read it. -/
theorem work (owned : Owned appSessionId inHand panel memory) (requestId : String) :
    memory.performAll appSessionId (panel.workerCalls requestId) = some memory := by
  unfold Panel.workerCalls
  split_ifs with running
  · obtain ⟨transfer, found, unfinished⟩ := (Option.any_eq_true _ _).mp running
    obtain ⟨member, named⟩ := Panel.findTransfer_eq_some found
    have isJob := owned.working transfer member (by simpa using unfinished)
    rw [named] at isJob
    have alive : 0 < panel.handleOwners memory.jobs requestId := by
      unfold Panel.handleOwners
      rw [if_pos isJob]
      omega
    simp [ClientMemory.performAll_cons, ClientMemory.perform, owned.handles.get alive]
    rfl
  · rfl

/-- No result of a transfer that goes on waits in the queue. -/
theorem not_answered (orderly : Orderly panel) {transfer : Transfer} (member : transfer ∈ panel.transfers)
    (running : transfer.finished = false) {delivery : Delivery ν} (waits : delivery ∈ panel.queue) :
    delivery.answered ≠ some transfer.submission.requestId := by
  intro answers
  cases delivery with
  | progress => cases answers
  | result submission result =>
    obtain ⟨twin, known, rfl, isOver, -⟩ := orderly.answered submission result waits
    rw [orderly.inj known member (Option.some.inj answers), running] at isOver
    cases isOver

/-- A delivery for a transfer that goes on is the first that may be its result. -/
theorem lasting_append (owned : Owned appSessionId inHand panel memory) (orderly : Orderly panel) {transfer : Transfer}
    (member : transfer ∈ panel.transfers) (running : transfer.finished = false) {delivery : Delivery ν}
    (origin : delivery.submission = transfer.submission) :
    (panel.queue ++ [delivery]).Pairwise fun first later => first.answered ≠ some later.submission.requestId := by
  refine List.pairwise_append.mpr ⟨owned.lasting, List.pairwise_singleton _ _, fun old isOld new isNew => ?_⟩
  obtain rfl := List.mem_singleton.mp isNew
  rw [origin]
  exact not_answered orderly member running isOld

/-- Another queue that leaves the same requests unanswered. -/
theorem of_queue (owned : Owned appSessionId inHand panel memory) {queue : List (Delivery ν)}
    (unanswered : ∀ wanted, ({ panel with queue } : Panel κ ν).unanswered wanted = panel.unanswered wanted)
    (waiting : ∀ delivery ∈ queue, panel.unanswered delivery.submission.requestId)
    (lasting : queue.Pairwise fun first later => first.answered ≠ some later.submission.requestId) :
    Owned appSessionId inHand { panel with queue } memory := by
  refine { owned with submissions := ?_, spent := ?_, holding := ?_, waiting := ?_, lasting := lasting }
  · refine owned.submissions.congr (fun wanted => ?_) fun _ => rfl
    unfold Panel.submissionOwners
    rw [unanswered]
  · intro wanted isHand
    rw [unanswered]
    exact owned.spent wanted isHand
  · intro wanted holds
    rw [unanswered]
    exact owned.holding wanted holds
  · intro delivery waits
    rw [unanswered]
    exact waiting delivery waits

theorem streamed (owned : Owned appSessionId inHand panel memory) (orderly : Orderly panel) (requestId : String)
    (progress : ClientProgress ν) : Owned appSessionId inHand (panel.streamed requestId progress) memory := by
  unfold Panel.streamed
  cases found : panel.findTransfer requestId with
  | none => exact owned
  | some transfer =>
    dsimp only
    split_ifs with isOver
    · exact owned
    obtain ⟨member, named⟩ := Panel.findTransfer_eq_some found
    have running := Bool.eq_false_iff.mpr isOver
    have unanswered : ∀ wanted, ({ panel with
        queue := panel.queue ++ [.progress transfer.submission progress] } : Panel κ ν).unanswered wanted =
          panel.unanswered wanted := by
      intro wanted
      unfold Panel.unanswered
      rw [Panel.awaits_append panel (.progress transfer.submission progress) panel.transfers]
      simp only [Delivery.answered, reduceCtorEq, decide_false, Bool.or_false]
      rfl
    refine owned.of_queue unanswered (fun delivery waits => ?_) (owned.lasting_append orderly member running rfl)
    rcases List.mem_append.mp waits with old | new
    · exact owned.waiting delivery old
    · obtain rfl := List.mem_singleton.mp new
      exact Panel.unanswered_of (by rw [← found, ← named]; rfl) (.inl running)

theorem ended (owned : Owned appSessionId inHand panel memory) (orderly : Orderly panel) (requestId : String)
    (ending : TransferEnd ν) : Owned appSessionId inHand (panel.ended requestId ending) memory := by
  cases found : panel.findTransfer requestId with
  | none =>
    unfold Panel.ended
    rw [found]
    exact owned
  | some transfer =>
    cases isOver : transfer.finished with
    | true =>
      unfold Panel.ended
      rw [found]
      exact (congrArg (fun panel => Owned appSessionId inHand panel memory) (if_pos isOver)).mpr owned
    | false =>
      obtain ⟨member, named⟩ := Panel.findTransfer_eq_some found
      have foundAfter := Panel.findTransfer_ended found isOver ending
      have unanswered := Panel.unanswered_ended found isOver ending
      have handles := Panel.handleOf_ended appSessionId found isOver ending
      obtain ⟨closed, isEnd⟩ : ∃ closed, panel.ended requestId ending = closed := ⟨_, rfl⟩
      have eq := Panel.ended_eq found isOver ending
      have transfers := congrArg Panel.transfers eq
      have queue := congrArg Panel.queue eq
      have handle := congrArg (fun panel => panel.chat.active.handle) eq
      rw [isEnd] at foundAfter unanswered handles transfers queue handle ⊢
      dsimp only at transfers queue handle
      have same := Panel.finish_same requestId
      constructor
      case handles =>
        refine owned.handles.congr (fun wanted => ?_) handles
        unfold Panel.handleOwners
        rw [handle]
      case submissions =>
        refine owned.submissions.congr (fun wanted => ?_) fun _ => rfl
        unfold Panel.submissionOwners
        rw [unanswered]
      case jobs => exact owned.jobs
      case working =>
        intro other isOther goesOn
        rw [transfers] at isOther
        obtain ⟨original, known, rfl⟩ := List.mem_map.mp isOther
        rw [(same original).1]
        refine owned.working original known ?_
        unfold Panel.finish at goesOn
        split_ifs at goesOn
        exact goesOn
      case employed =>
        intro wanted isJob
        rw [foundAfter, Option.isSome_map]
        exact owned.employed wanted isJob
      case spent =>
        intro wanted isHand
        rw [foundAfter, Option.isSome_map, unanswered]
        exact owned.spent wanted isHand
      case holding =>
        intro wanted holds
        rw [handle] at holds
        rw [unanswered]
        exact owned.holding wanted holds
      case waiting =>
        intro delivery waits
        rw [queue] at waits
        rw [unanswered]
        rcases List.mem_append.mp waits with old | new
        · exact owned.waiting delivery old
        · obtain rfl := List.mem_singleton.mp new
          exact Panel.unanswered_of (by rw [← found, ← named]; rfl) (.inl isOver)
      case lasting =>
        rw [queue]
        exact owned.lasting_append orderly member isOver rfl
      case delivered =>
        intro delivery isDelivery
        obtain ⟨original, known, cancelled, ids⟩ := owned.delivered delivery isDelivery
        refine ⟨_, by rw [transfers]; exact List.mem_map_of_mem known, ?_, ?_⟩
        · rw [(same original).2]
          exact cancelled
        · rw [(same original).1]
          exact ids
      case posted =>
        intro other isOther cancelled
        rw [transfers] at isOther
        obtain ⟨original, known, rfl⟩ := List.mem_map.mp isOther
        rw [(same original).2] at cancelled
        rw [(same original).1]
        exact owned.posted original known cancelled
      case once => exact owned.once

/-- A job that is over gives up its reference. -/
theorem jobDestroyed (owned : Owned appSessionId inHand panel memory) (orderly : Orderly panel) {requestId : String}
    (isOver : (panel.findTransfer requestId).any (·.finished)) (isJob : requestId ∈ memory.jobs) :
    ∃ after, memory.perform appSessionId (.jobDestroy requestId) = some after ∧
      Owned appSessionId inHand panel after := by
  obtain ⟨transfer, found, finished⟩ := (Option.any_eq_true _ _).mp isOver
  obtain ⟨member, named⟩ := Panel.findTransfer_eq_some found
  have gone : requestId ∉ memory.jobs.erase requestId := fun still => (owned.jobs.mem_erase_iff.mp still).1 rfl
  obtain ⟨handles, drops, dropped⟩ := @OwnedBy.unref _ _ _ _ (panel.handleOwners (memory.jobs.erase requestId)) _
    requestId _ owned.handles (by simp [Panel.handleOwners, isJob, gone])
    fun wanted different => by simp [Panel.handleOwners, owned.jobs.mem_erase_iff, different]
  refine ⟨{ memory with handles, jobs := memory.jobs.erase requestId }, by simp [ClientMemory.perform, drops], ?_⟩
  refine { owned with handles := dropped, jobs := owned.jobs.erase _, working := ?_, employed := ?_ }
  · intro other known running
    refine owned.jobs.mem_erase_iff.mpr ⟨fun same => ?_, owned.working other known running⟩
    rw [orderly.inj known member (same.trans named.symm), finished] at running
    cases running
  · exact fun wanted still => owned.employed wanted (owned.jobs.mem_erase_iff.mp still).2

theorem dequeued_progress (owned : Owned appSessionId inHand panel memory) {origin : ChatSubmission}
    {progress : ClientProgress ν} {rest : List (Delivery ν)}
    (queue : panel.queue = .progress origin progress :: rest) :
    Owned appSessionId inHand { panel with queue := rest } memory := by
  have unanswered : ∀ wanted,
      ({ panel with queue := rest } : Panel κ ν).unanswered wanted = panel.unanswered wanted := by
    intro wanted
    unfold Panel.unanswered
    rw [Panel.awaits_cons queue]
    rfl
  have lasting := owned.lasting
  rw [queue] at lasting
  refine owned.of_queue unanswered (fun delivery waits => ?_) (List.pairwise_cons.mp lasting).2
  exact owned.waiting delivery (by rw [queue]; exact List.mem_cons_of_mem _ waits)

/-- The submission is in the queue's first callback, or in the main loop's hand. -/
theorem alive (owned : Owned appSessionId inHand panel memory) {requestId : String}
    (kept : panel.unanswered requestId ∨ inHand = some requestId) :
    memory.perform appSessionId (.readSubmission requestId) = some memory := by
  have counted := owned.submissions.get (show 0 < panel.submissionOwners inHand requestId by
    unfold Panel.submissionOwners
    rw [if_pos kept]
    exact Nat.one_pos)
  simp [ClientMemory.perform, counted]

section Settle

variable {submission : ChatSubmission} {result : ClientResult ν} {rest : List (Delivery ν)}

/-- The request of the result is the one that is answered now. -/
theorem unanswered_settle (owned : Owned appSessionId none panel memory) (orderly : Orderly panel)
    (queue : panel.queue = .result submission result :: rest) (wanted : String) :
    (({ panel with queue := rest } : Panel κ ν).settle submission result).unanswered wanted =
      (panel.unanswered wanted && decide (wanted ≠ submission.requestId)) := by
  obtain ⟨transfer, member, rfl, isOver, -⟩ :=
    orderly.answered submission result (by rw [queue]; exact List.mem_cons_self)
  have found := Panel.findTransfer_of_mem orderly member
  have lasting := owned.lasting
  rw [queue, List.pairwise_cons] at lasting
  have awaits := Panel.awaits_cons queue wanted
  change ((panel.findTransfer wanted).any fun transfer =>
    !transfer.finished || ({ panel with queue := rest } : Panel κ ν).awaits wanted) = _
  unfold Panel.unanswered
  rw [awaits]
  by_cases here : wanted = transfer.submission.requestId
  · subst here
    have silent : ({ panel with queue := rest } : Panel κ ν).awaits transfer.submission.requestId = false := by
      refine List.any_eq_false.mpr fun delivery waits answers => ?_
      have isAnswer := of_decide_eq_true answers
      have named : delivery.submission.requestId = transfer.submission.requestId := by
        cases delivery with
        | progress => cases isAnswer
        | result => exact Option.some.inj isAnswer
      exact lasting.1 delivery waits (congrArg some named.symm)
    simp [found, isOver, silent]
  · have different : transfer.submission.requestId ≠ wanted := fun same => here same.symm
    simp [Delivery.answered, here, different]

/-- A result takes the handle from the panel only while its request is the active one. -/
theorem handle_settle (submission : ChatSubmission) (result : ClientResult ν) (wanted : String) :
    (if panel.chat.active.handle = some wanted then 1 else 0) =
      (if (({ panel with queue := rest } : Panel κ ν).settle submission result).chat.active.handle = some wanted
        then 1 else 0) +
        if panel.chat.matchesActiveRequest submission ∧ panel.chat.active.handle = some wanted then 1 else 0 := by
  have core := Panel.settle_core ({ panel with queue := rest } : Panel κ ν) submission result
  by_cases isActive : panel.chat.matchesActiveRequest submission
  · rw [if_pos isActive] at core
    have handle : (({ panel with queue := rest } : Panel κ ν).settle submission result).chat.active.handle = none :=
      congrArg (fun panel => panel.chat.active.handle) core
    simp [isActive, handle]
  · rw [if_neg isActive] at core
    have handle : (({ panel with queue := rest } : Panel κ ν).settle submission result).chat.active.handle =
        panel.chat.active.handle :=
      congrArg (fun panel => panel.chat.active.handle) core
    simp [isActive, handle]

/-- What the panel drops is what it owned, and nothing else of the memory is touched. -/
theorem settle_memory (owned : Owned appSessionId none panel memory) (submission : ChatSubmission)
    (result : ClientResult ν) :
    ∃ after, memory.performAll appSessionId
        (if panel.chat.matchesActiveRequest submission then panel.dropHandleCalls else []) = some after ∧
      OwnedBy after.handles
        ((({ panel with queue := rest } : Panel κ ν).settle submission result).handleOwners memory.jobs)
        (panel.handleOf appSessionId) ∧
      after = { memory with handles := after.handles } := by
  have handles := fun wanted => @handle_settle κ ν panel rest submission result wanted
  by_cases isActive : panel.chat.matchesActiveRequest submission
  · rw [if_pos isActive]
    obtain ⟨after, drops, dropped⟩ := @dropHandle _ _ appSessionId panel memory _
      ((({ panel with queue := rest } : Panel κ ν).settle submission result).handleOwners memory.jobs) _
      owned.handles fun wanted => by
        have counted := handles wanted
        simp only [isActive, true_and] at counted
        unfold Panel.handleOwners
        omega
    exact ⟨_, drops, dropped, rfl⟩
  · rw [if_neg isActive]
    refine ⟨memory, rfl, owned.handles.congr (fun wanted => ?_) fun _ => rfl, rfl⟩
    have counted := handles wanted
    simp only [isActive, Bool.false_eq_true, false_and, if_false] at counted
    unfold Panel.handleOwners
    omega

/-- The result of the active request takes the handle from the panel, and the main loop has the submission. -/
theorem settle (owned : Owned appSessionId none panel memory) (wired : Wired host panel) (orderly : Orderly panel)
    (queue : panel.queue = .result submission result :: rest) :
    ∃ after, memory.performAll appSessionId
        (if panel.chat.matchesActiveRequest submission then panel.dropHandleCalls else []) = some after ∧
      Owned appSessionId (some submission.requestId)
        (({ panel with queue := rest } : Panel κ ν).settle submission result) after := by
  have unanswered := owned.unanswered_settle orderly queue
  have handles := fun wanted => @handle_settle κ ν panel rest submission result wanted
  obtain ⟨after, drops, dropped, sameRest⟩ := @settle_memory _ _ _ panel memory rest owned submission result
  refine ⟨after, drops, ?_⟩
  obtain ⟨transfer, member, rfl, isOver, -⟩ :=
    orderly.answered submission result (by rw [queue]; exact List.mem_cons_self)
  have found := Panel.findTransfer_of_mem orderly member
  have waits := owned.waiting _ (show _ ∈ panel.queue by rw [queue]; exact List.mem_cons_self)
  have lasting := owned.lasting
  rw [queue, List.pairwise_cons] at lasting
  obtain ⟨settled, isSettled⟩ : ∃ settled,
    ({ panel with queue := rest } : Panel κ ν).settle transfer.submission result = settled := ⟨_, rfl⟩
  have transfers : settled.transfers = panel.transfers := by rw [← isSettled]; rfl
  have queueAfter : settled.queue = rest := by rw [← isSettled]; rfl
  have foundAfter : settled.findTransfer = panel.findTransfer := by
    funext wanted
    unfold Panel.findTransfer
    rw [transfers]
  rw [isSettled] at unanswered dropped ⊢
  simp only [isSettled] at handles
  obtain ⟨handlesAfter, submissionsAfter, jobsAfter, deliveriesAfter⟩ := after
  obtain ⟨-, rfl, rfl, rfl⟩ := ClientMemory.mk.inj sameRest
  constructor
  case handles =>
    refine dropped.congr (fun _ => rfl) fun wanted => ?_
    unfold Panel.handleOf
    rw [foundAfter]
  case submissions =>
    refine owned.submissions.congr (fun wanted => ?_) fun _ => rfl
    unfold Panel.submissionOwners
    rw [unanswered]
    by_cases here : wanted = transfer.submission.requestId
    · subst here
      simp only [Delivery.submission] at waits
      simp [waits]
    · have different : transfer.submission.requestId ≠ wanted := fun same => here same.symm
      simp [here, different]
  case jobs => exact owned.jobs
  case working => rw [transfers]; exact owned.working
  case employed => rw [foundAfter]; exact owned.employed
  case spent =>
    intro wanted isHand
    obtain rfl := Option.some.inj isHand
    rw [foundAfter, unanswered, found]
    simp
  case holding =>
    intro wanted holds
    have counted := handles wanted
    rw [if_pos holds] at counted
    have held : panel.chat.active.handle = some wanted := by
      by_contra other
      simp [other] at counted
    rw [unanswered, owned.holding wanted held, Bool.true_and]
    refine decide_eq_true fun same => ?_
    -- the panel would have known the request as the active one
    have isActive : panel.chat.matchesActiveRequest transfer.submission := by
      unfold AgentChat.matchesActiveRequest
      rw [wired.named wanted held, same]
      exact decide_eq_true rfl
    simp [held, isActive] at counted
  case waiting =>
    intro delivery waits
    rw [queueAfter] at waits
    rw [unanswered, owned.waiting delivery (by rw [queue]; exact List.mem_cons_of_mem _ waits), Bool.true_and]
    exact decide_eq_true fun same => lasting.1 delivery waits (congrArg some same.symm)
  case lasting => rw [queueAfter]; exact lasting.2
  case delivered => rw [transfers]; exact owned.delivered
  case posted => rw [transfers]; exact owned.posted
  case once => exact owned.once

end Settle

theorem calms (owned : Owned appSessionId inHand panel memory) (calm : Panel.Calms panel other) :
    Owned appSessionId inHand other memory := by
  rcases calm with same | quiet
  · exact owned.of_core same
  · have lowered : Owned appSessionId inHand (panel.onChat (·.setLoading false)) memory := owned.of_same rfl rfl rfl
    exact lowered.of_core quiet

/-- The main loop frees the submission behind the callback of the result. -/
theorem release {requestId : String} (owned : Owned appSessionId (some requestId) panel memory) :
    ∃ after, memory.perform appSessionId (.freeSubmission requestId) = some after ∧
      Owned appSessionId none panel after := by
  have silent := (owned.spent requestId rfl).2
  obtain ⟨submissions, frees, freed⟩ := @OwnedBy.unref _ _ _ _ (panel.submissionOwners none) _ requestId _
    owned.submissions (by simp [Panel.submissionOwners, silent])
    fun wanted different => by
      have other : requestId ≠ wanted := different.symm
      simp [Panel.submissionOwners, other]
  refine ⟨{ memory with submissions }, by simp [ClientMemory.perform, frees], ?_⟩
  exact { owned with submissions := freed, spent := fun _ isHand => by cases isHand }

section Handlers

variable [Numeric ν]

theorem progressFinished (owned : Owned appSessionId none panel memory) (wired : Wired host panel)
    (orderly : Orderly panel) (origin : ChatSubmission) (progress : ClientProgress ν) :
    ∃ after, memory.performAll appSessionId (panel.progressCalls host progress) = some after ∧
      Owned appSessionId none (panel.progressFinished host origin progress) after := by
  have calls : panel.progressCalls host progress =
      if panel.takes progress then
        (panel.pendingOperations progress).elim [] fun operations =>
          if (panel.execution host operations).ok then [] else panel.cancelCalls "apply-failed"
      else [] := by
    unfold Panel.progressCalls Panel.takes
    cases panel.pendingOperations progress <;> cases panel.chat.ignoresProgress <;> cases passedOver progress <;>
      cases progress.found <;> simp
  rw [calls]
  rcases panel.progressFinished_cases host origin progress with
    ⟨refused, same⟩ | ⟨taken, nothing, same⟩ | ⟨operations, taken, pending, ⟨ok, same⟩ | ⟨failed, same⟩⟩
  · rw [if_neg (by rw [refused]; exact Bool.false_ne_true)]
    exact ⟨memory, rfl, owned.of_core same⟩
  · have counted : Owned appSessionId none (panel.countToolCalls progress) memory := owned.of_same rfl rfl rfl
    rw [if_pos taken, nothing]
    exact ⟨memory, rfl, counted.of_core same⟩
  · have counted : Owned appSessionId none
        (((panel.countToolCalls progress).afterExecution host origin operations).countLiveEdits progress) memory :=
      owned.of_same rfl rfl rfl
    simp only [taken, pending, ok, if_true, Option.elim_some]
    exact ⟨memory, rfl, counted.of_core same⟩
  · have executed : Owned appSessionId none ((panel.countToolCalls progress).afterExecution host origin operations)
        memory := owned.of_same rfl rfl rfl
    have threaded : Threaded host ((panel.countToolCalls progress).afterExecution host origin operations) :=
      { wired.toThreaded with }
    obtain ⟨after, cancels, cancelled⟩ := executed.cancel threaded (orderly.of_same rfl rfl) "apply-failed"
    simp only [taken, pending, failed, if_true, Bool.false_eq_true, if_false, Option.elim_some]
    have lowered : Owned appSessionId none (((panel.countToolCalls progress).afterExecution host origin
        operations).cancelHandle.onChat (·.setLoading false)) after := cancelled.of_same rfl rfl rfl
    exact ⟨after, cancels, lowered.of_core same⟩

theorem handleResponse (owned : Owned appSessionId inHand panel memory) (submission : ChatSubmission)
    (response : ChatResponse ν) (liveApplied : Nat) :
    Owned appSessionId inHand (panel.handleResponse host submission response liveApplied).panel memory := by
  have core := Panel.core_handleResponse host panel submission response liveApplied
  split_ifs at core with nothing
  · exact owned.of_core core
  · have executed : Owned appSessionId inHand (panel.afterExecution host submission
        (response.operations.drop liveApplied)) memory := owned.of_same rfl rfl rfl
    exact executed.of_core core

omit [Numeric ν] in
theorem continueRefinement (owned : Owned appSessionId inHand panel memory) (threaded : Threaded host panel)
    (submission : ChatSubmission) (response : ChatResponse ν) (outcome : SubmitOutcome) :
    ∃ after, memory.performAll appSessionId (panel.continueCalls host submission response outcome) = some after ∧
      Owned appSessionId inHand (panel.continueRefinement host submission response outcome).panel after := by
  unfold Panel.continueCalls Panel.continueRefinement
  by_cases continues : shouldContinueRefinement submission response
  · rw [if_neg (not_not.mpr continues), if_neg (not_not.mpr continues)]
    obtain ⟨told, isTold⟩ : ∃ told, panel.onChat (·.appendMessage "system" ("Continuing refinement pass "
      ++ toString (Panel.continuation submission response).refinementPassIndex ++ "/"
      ++ toString (Panel.continuation submission response).refinementMaxPasses)) = told := ⟨_, rfl⟩
    have ownedTold : Owned appSessionId inHand told memory := by
      rw [← isTold]
      exact owned.of_same rfl rfl rfl
    have threadedTold : Threaded host told := by
      rw [← isTold]
      exact { threaded with }
    dsimp only
    rw [isTold]
    exact ownedTold.submit threadedTold _ outcome
  · rw [if_pos continues, if_pos continues]
    exact ⟨memory, rfl, owned⟩

/-- Behind the checks a result either only writes labels, or is executed and continued. -/
theorem finishCurrent (owned : Owned appSessionId inHand panel memory) (wired : Wired host panel)
    (submission : ChatSubmission) (result : ClientResult ν) (liveApplied : Nat) (outcome : SubmitOutcome) :
    ∃ after,
      memory.performAll appSessionId (panel.currentCalls host submission result liveApplied outcome) = some after ∧
      Owned appSessionId inHand (panel.finishCurrent host submission result liveApplied outcome) after := by
  have quiets := Panel.quiets_calms panel submission
  obtain ⟨quiet, isQuiet⟩ : ∃ quiet, panel.onChat (fun chat =>
    if chat.matchesCurrentSession submission then chat.setLoading false else chat) = quiet := ⟨_, rfl⟩
  unfold Panel.currentCalls Panel.finishCurrent
  rw [isQuiet] at quiets ⊢
  have ownedQuiet := owned.calms quiets
  have wiredQuiet := wired.calms quiets
  dsimp only
  by_cases mismatch : revisionMismatch host quiet.develop submission result liveApplied
  · rw [if_pos mismatch, if_pos (.inl mismatch)]
    exact ⟨memory, rfl, ownedQuiet.of_core (Panel.finishMismatch_core quiet submission)⟩
  rw [if_neg mismatch]
  by_cases hidden : ¬ quiet.develop.visible
  · rw [if_pos hidden, if_pos (.inr hidden)]
    exact ⟨memory, rfl, ownedQuiet.of_core (Panel.finishHidden_core quiet submission result)⟩
  rw [if_neg hidden, if_neg (not_or.mpr ⟨mismatch, hidden⟩)]
  cases result.transportError with
  | some message => exact ⟨memory, rfl, ownedQuiet.of_core (Panel.core_handleTransportError quiet _)⟩
  | none =>
    cases result.response with
    | none => exact ⟨memory, rfl, ownedQuiet.of_core (Panel.core_handleTransportError quiet _)⟩
    | some response =>
      unfold Panel.finishVisible
      dsimp only
      have cleared : Owned appSessionId inHand (quiet.onChat (·.setError "")) memory := ownedQuiet.of_same rfl rfl rfl
      obtain ⟨handled, isHandled⟩ : ∃ handled, (quiet.onChat (·.setError "")).handleResponse host submission response
        liveApplied = handled := ⟨_, rfl⟩
      have ownedHandled := @Owned.handleResponse _ _ _ _ host _ _ _ _ cleared submission response liveApplied
      have wiredHandled : Wired host handled.panel := by
        have core := Panel.core_handleResponse host (quiet.onChat (·.setError "")) submission response liveApplied
        have wiredCleared : Wired host (quiet.onChat (·.setError "")) := { wiredQuiet with }
        rw [isHandled] at core
        split_ifs at core with nothing
        · exact wiredCleared.of_core core
        · exact (wiredCleared.executes submission (some _)).of_core core
      rw [isHandled] at ownedHandled ⊢
      by_cases ok : handled.ok
      · obtain ⟨after, continues, continued⟩ :=
          ownedHandled.continueRefinement wiredHandled.toThreaded submission response outcome
        rw [if_pos ok, if_neg (not_not.mpr ok)]
        refine ⟨after, continues, ?_⟩
        split_ifs
        · exact continued
        · exact continued.of_same rfl rfl rfl
      · rw [if_neg ok, if_pos ok]
        exact ⟨memory, rfl, ownedHandled⟩

theorem requestFinished {dropped : ClientMemory} {submission : ChatSubmission} {result : ClientResult ν}
    (settled : Owned appSessionId inHand (panel.settle submission result) dropped)
    (drops : memory.performAll appSessionId
      (if panel.chat.matchesActiveRequest submission then panel.dropHandleCalls else []) = some dropped)
    (wired : Wired host panel) (outcome : SubmitOutcome) :
    ∃ after, memory.performAll appSessionId (panel.finishedCalls host submission result outcome) = some after ∧
      Owned appSessionId inHand (panel.requestFinished host submission result outcome) after := by
  have wiredThen := wired.settle submission result
  obtain ⟨idle, isIdle⟩ : ∃ idle, panel.settle submission result = idle := ⟨_, rfl⟩
  unfold Panel.finishedCalls Panel.requestFinished
  rw [isIdle] at settled wiredThen ⊢
  dsimp only
  by_cases cancelled : result.cancelled
  · rw [if_pos cancelled, if_pos (.inl cancelled)]
    exact ⟨dropped, drops, settled.calms (Panel.finishCancelled_calms idle submission _)⟩
  rw [if_neg cancelled]
  by_cases stale : idle.develop.visible ∧ isStaleResponse idle.chat idle.develop submission result
  · rw [if_pos stale, if_pos (.inr stale)]
    exact ⟨dropped, drops, settled.calms (Panel.finishStale_calms idle submission)⟩
  · rw [if_neg stale, if_neg (not_or.mpr ⟨cancelled, stale⟩), ClientMemory.performAll_append, drops]
    exact settled.finishCurrent wiredThen submission result (panel.chat.liveAppliedFor submission) outcome

theorem dispatch (owned : Owned appSessionId none panel memory) (wired : Wired host panel) (orderly : Orderly panel)
    (outcome : SubmitOutcome) :
    ∃ after, memory.performAll appSessionId (panel.dispatchCalls host outcome) = some after ∧
      Owned appSessionId none (panel.dispatch host outcome) after := by
  unfold Panel.dispatchCalls Panel.dispatch
  cases queue : panel.queue with
  | nil => exact ⟨memory, rfl, owned⟩
  | cons delivery rest =>
    have reads := owned.alive (.inl (owned.waiting delivery (by rw [queue]; exact List.mem_cons_self)))
    have wiredThen := wired.dequeued queue
    cases delivery with
    | progress origin progress =>
      obtain ⟨after, performs, kept⟩ :=
        (owned.dequeued_progress queue).progressFinished wiredThen (orderly.dequeued queue) origin progress
      refine ⟨after, ?_, kept⟩
      dsimp only [Delivery.submission] at reads ⊢
      rw [ClientMemory.performAll_cons, reads]
      exact performs
    | result submission result =>
      obtain ⟨dropped, drops, settled⟩ := owned.settle wired orderly queue
      obtain ⟨after, performs, kept⟩ := settled.requestFinished drops wiredThen outcome
      obtain ⟨freed, frees, released⟩ := kept.release
      refine ⟨freed, ?_, released⟩
      dsimp only [Delivery.submission] at reads ⊢
      rw [List.cons_append, ClientMemory.performAll_cons, reads, Option.bind_some, ClientMemory.performAll_append,
        performs, Option.bind_some, ClientMemory.performAll_cons, frees]
      rfl

omit [Numeric ν] in
theorem cancelActiveRequest (owned : Owned appSessionId none panel memory) (threaded : Threaded host panel)
    (orderly : Orderly panel) (statusText stopReason : String) :
    ∃ after, memory.performAll appSessionId (panel.cancelCalls stopReason) = some after ∧
      Owned appSessionId none (panel.cancelActiveRequest statusText stopReason) after := by
  obtain ⟨after, performs, cancelled⟩ := owned.cancel threaded orderly stopReason
  have lowered : Owned appSessionId none (panel.cancelHandle.onChat (·.setLoading false)) after :=
    cancelled.of_same rfl rfl rfl
  exact ⟨after, performs, lowered.of_core (panel.core_cancelActiveRequest statusText stopReason)⟩

/-- Only another image cancels what is running. -/
theorem imageChanged (owned : Owned appSessionId none panel memory) (wired : Wired host panel) (orderly : Orderly panel)
    (imageId : Int) (content : κ) :
    ∃ after, memory.performAll appSessionId (panel.clientCalls host (.imageChanged imageId content)) = some after ∧
      Owned appSessionId none (panel.imageChanged host imageId content) after := by
  obtain ⟨replaced, isReplaced⟩ : ∃ replaced : Panel κ ν,
    { panel with develop := { panel.develop with imageId, content } } = replaced := ⟨_, rfl⟩
  have ownedThen : Owned appSessionId none replaced memory := by rw [← isReplaced]; exact owned.of_same rfl rfl rfl
  have threadedThen : Threaded host replaced := by rw [← isReplaced]; exact { wired.toThreaded with }
  have orderlyThen : Orderly replaced := by rw [← isReplaced]; exact orderly.of_same rfl rfl
  have sameCalls : replaced.cancelCalls "image-changed" = panel.cancelCalls "image-changed" := by
    rw [← isReplaced]
    rfl
  have sameIds : (Develop.currentImageId { panel.develop with imageId } ≠ panel.chat.currentImageId) =
      (replaced.develop.currentImageId ≠ replaced.chat.currentImageId) := by
    rw [← isReplaced]
    rfl
  unfold Panel.clientCalls Panel.imageChanged
  rw [isReplaced]
  simp only [sameIds, ← sameCalls]
  split_ifs
  · obtain ⟨after, performs, cancelled⟩ :=
      ownedThen.cancelActiveRequest threadedThen orderlyThen "Request canceled" "image-changed"
    exact ⟨after, performs, cancelled.of_same rfl rfl rfl⟩
  · exact ⟨memory, rfl, ownedThen⟩

/-- Every event makes calls that go through. -/
theorem step (owned : Owned appSessionId none panel memory) (wired : Wired host panel) (orderly : Orderly panel)
    (event : Event κ ν) :
    ∃ after, memory.performAll appSessionId (panel.clientCalls host event) = some after ∧
      Owned appSessionId none (Chat.step host panel event) after := by
  cases event with
  | submit prompt outcome => exact owned.submit wired.toThreaded (panel.submitArguments prompt) outcome
  | cancel => exact owned.cancelActiveRequest wired.toThreaded orderly _ _
  | newChat =>
    obtain ⟨after, performs, cancelled⟩ :=
      owned.cancelActiveRequest wired.toThreaded orderly "Request canceled" "new-chat"
    exact ⟨after, performs, cancelled.of_same rfl rfl rfl⟩
  | multiTurnToggled | maxTurnsChanged | fastModeToggled | leave | enter | edit =>
    exact ⟨memory, rfl, owned.of_same rfl rfl rfl⟩
  | imageChanged imageId content => exact owned.imageChanged wired orderly imageId content
  | streamed requestId progress => exact ⟨memory, owned.work requestId, owned.streamed orderly requestId progress⟩
  | ended requestId ending => exact ⟨memory, owned.work requestId, owned.ended orderly requestId ending⟩
  | dispatch outcome => exact owned.dispatch wired orderly outcome

end Handlers

end Owned

namespace Orderly

variable {host : Host κ ν W} {panel : Panel κ ν}

theorem initially (configured : Preferences) (content : κ) : Orderly (initialPanel configured content : Panel κ ν) :=
  ⟨List.nodup_nil, List.nodup_nil, fun _ _ waits => absurd waits List.not_mem_nil⟩

theorem step [Numeric ν] (orderly : Orderly panel) (wired : Wired host panel) (event : Event κ ν) :
    Orderly (Chat.step host panel event) := by
  cases event with
  | submit prompt outcome => exact orderly.submitInternal wired.toThreaded _ outcome
  | cancel => exact orderly.cancelActiveRequest _ _
  | newChat => exact (orderly.cancelActiveRequest "Request canceled" "new-chat").of_same rfl rfl
  | multiTurnToggled | maxTurnsChanged | fastModeToggled | leave | enter | edit => exact orderly.of_same rfl rfl
  | imageChanged imageId content =>
    have replaced : Orderly { panel with develop := { panel.develop with imageId, content } } := orderly.of_same rfl rfl
    change Orderly (Panel.imageChanged host panel imageId content)
    unfold Panel.imageChanged
    dsimp only
    split_ifs
    · exact (replaced.cancelActiveRequest "Request canceled" "image-changed").of_same rfl rfl
    · exact replaced
  | streamed requestId progress => exact orderly.streamed requestId progress
  | ended requestId ending => exact orderly.ended requestId ending
  | dispatch outcome =>
    change Orderly (Panel.dispatch host panel outcome)
    unfold Panel.dispatch
    split
    · exact orderly
    · exact (orderly.dequeued ‹_›).progressFinished _ _
    · exact (orderly.dequeued ‹_›).requestFinished (wired.dequeued ‹_›) _ _ outcome

end Orderly

variable [Numeric ν] (host : Host κ ν W)

/-- The panel before the darkroom is entered, and a client that has allocated nothing. -/
def initialRun (configured : Preferences) (content : κ) : ClientRun κ ν :=
  ⟨initialPanel configured content, some .empty⟩

/-- What every event keeps: nothing was used that had been freed, and the memory is that of the requests. -/
def ClientRun.Kept (state : ClientRun κ ν) : Prop :=
  Wired host state.panel ∧ Orderly state.panel ∧ ∃ memory, state.memory = some memory ∧
    Owned appSessionId none state.panel memory

omit [Numeric ν] in
theorem initialRun_kept (configured : Preferences) (content : κ) :
    (initialRun configured content : ClientRun κ ν).Kept appSessionId host := by
  refine ⟨Wired.initially configured content, Orderly.initially configured content, .empty, rfl, ?_⟩
  constructor
  case handles => exact (OwnedBy.empty _).congr (fun _ => by simp [Panel.handleOwners, initialRun, initialPanel,
    ClientMemory.empty]) fun _ => rfl
  case submissions => exact (OwnedBy.empty _).congr (fun _ => by simp [Panel.submissionOwners, Panel.unanswered,
    Panel.findTransfer, initialRun, initialPanel]) fun _ => rfl
  case jobs => exact List.nodup_nil
  case working => exact fun _ member => absurd member List.not_mem_nil
  case employed => exact fun _ member => absurd member List.not_mem_nil
  case spent => exact fun _ isHand => by cases isHand
  case holding => exact fun _ holds => by cases holds
  case waiting => exact fun _ member => absurd member List.not_mem_nil
  case lasting => exact List.Pairwise.nil
  case delivered => exact fun _ member => absurd member List.not_mem_nil
  case posted => exact fun _ member => absurd member List.not_mem_nil
  case once => exact List.nodup_nil

theorem memoryStep_kept {state : ClientRun κ ν} (kept : state.Kept appSessionId host) (event : MemoryEvent κ ν) :
    (memoryStep host appSessionId state event).Kept appSessionId host := by
  obtain ⟨wired, orderly, memory, isMemory, owned⟩ := kept
  cases event with
  | event event =>
    obtain ⟨after, performs, ownedAfter⟩ := owned.step wired orderly event
    refine ⟨wired.step event, orderly.step wired event, after, ?_, ownedAfter⟩
    unfold memoryStep
    rw [isMemory]
    exact performs
  | jobDestroyed requestId =>
    unfold memoryStep
    dsimp only
    rw [isMemory]
    split_ifs with destroyed
    · obtain ⟨after, performs, ownedAfter⟩ := owned.jobDestroyed orderly destroyed.1 (by simpa using destroyed.2)
      exact ⟨wired, orderly, after, performs, ownedAfter⟩
    · exact ⟨wired, orderly, memory, isMemory, owned⟩

/-- All requests are over: no transfer runs, no callback waits and no job is left. -/
def ClientRun.Quiet (state : ClientRun κ ν) : Prop :=
  (∀ transfer ∈ state.panel.transfers, transfer.finished) ∧ state.panel.queue = [] ∧
    state.memory.all fun memory => memory.jobs.isEmpty

namespace Owned

variable {appSessionId} {inHand : Option String} {panel : Panel κ ν} {memory : ClientMemory}

omit [Numeric ν]

theorem handles_iff (owned : Owned appSessionId inHand panel memory) (requestId : String) :
    (memory.handles requestId).isSome ↔ panel.chat.active.handle = some requestId ∨ requestId ∈ memory.jobs := by
  rw [owned.handles.isSome_iff]
  unfold Panel.handleOwners
  split_ifs <;> simp [*]

theorem submissions_iff (owned : Owned appSessionId none panel memory) (requestId : String) :
    (memory.submissions requestId).isSome ↔ panel.unanswered requestId := by
  rw [owned.submissions.isSome_iff]
  unfold Panel.submissionOwners
  cases panel.unanswered requestId <;> simp

/-- A cancelled request has had one thread, and another none. -/
theorem count_cancelDeliveries (owned : Owned appSessionId inHand panel memory) (orderly : Orderly panel)
    {transfer : Transfer} (member : transfer ∈ panel.transfers) :
    (memory.cancelDeliveries.map (·.ids)).count (handleIds appSessionId transfer.submission) =
      if transfer.cancelRequested then 1 else 0 := by
  have distinct : (memory.cancelDeliveries.map (·.ids)).Nodup := by
    refine List.Nodup.of_map (·.requestId) ?_
    rw [List.map_map]
    exact owned.once
  split_ifs with cancelled
  · obtain ⟨delivery, isDelivery, ids⟩ := owned.posted transfer member cancelled
    exact List.count_eq_one_of_mem distinct (List.mem_map.mpr ⟨delivery, isDelivery, ids⟩)
  · refine List.count_eq_zero_of_not_mem fun posted => cancelled ?_
    obtain ⟨delivery, isDelivery, same⟩ := List.mem_map.mp posted
    obtain ⟨twin, known, isCancelled, ids⟩ := owned.delivered delivery isDelivery
    have sameIds := congrArg (·.requestId) (ids.symm.trans same)
    rwa [orderly.inj known member (Option.some.inj sameIds)] at isCancelled

/-- Without a transfer that runs, a callback that waits or a job there is no memory of a request. -/
theorem nothing_left (owned : Owned appSessionId none panel memory)
    (finished : ∀ transfer ∈ panel.transfers, transfer.finished) (emptied : panel.queue = []) (noJob : memory.jobs = [])
    (requestId : String) : memory.handles requestId = none ∧ memory.submissions requestId = none := by
  have silent : panel.unanswered requestId = false := by
    refine Bool.eq_false_iff.mpr fun waits => ?_
    obtain ⟨transfer, found, running | awaits⟩ := Panel.unanswered_eq_true waits
    · rw [finished transfer (Panel.findTransfer_eq_some found).1] at running
      cases running
    · unfold Panel.awaits at awaits
      rw [emptied] at awaits
      cases awaits
  constructor
  · refine Option.not_isSome_iff_eq_none.mp fun alive => ?_
    rcases (owned.handles_iff requestId).mp alive with holds | isJob
    · have waits := owned.holding requestId holds
      rw [silent] at waits
      cases waits
    · rw [noJob] at isJob
      cases isJob
  · refine Option.not_isSome_iff_eq_none.mp fun alive => ?_
    have waits := (owned.submissions_iff requestId).mp alive
    rw [silent] at waits
    cases waits

end Owned

/-- In every run of the panel, the jobs and the main loop nothing is used that was freed: a handle is there for the
panel that holds it and for its job, a submission until its result was handed over, each cancelled request has had one
thread that posts its cancellation, and nothing is left of requests that are over. -/
theorem client_memory_safe (configured : Preferences) (content : κ) (events : List (MemoryEvent κ ν)) :
    let last := run (memoryStep host appSessionId) (initialRun configured content) events
    ∃ memory, last.memory = some memory ∧
      (∀ requestId, (memory.handles requestId).isSome ↔
        last.panel.chat.active.handle = some requestId ∨ requestId ∈ memory.jobs) ∧
      (∀ requestId, (memory.submissions requestId).isSome ↔ last.panel.unanswered requestId) ∧
      (∀ transfer ∈ last.panel.transfers,
        (memory.cancelDeliveries.map (·.ids)).count (handleIds appSessionId transfer.submission) =
          if transfer.cancelRequested then 1 else 0) ∧
      (last.Quiet → ∀ requestId, memory.handles requestId = none ∧ memory.submissions requestId = none) := by
  intro last
  have kept : ∀ (state : ClientRun κ ν) (event : MemoryEvent κ ν), state.Kept appSessionId host → True →
      (memoryStep host appSessionId state event).Kept appSessionId host :=
    fun _ event kept _ => memoryStep_kept appSessionId host kept event
  have invariant : last.Kept appSessionId host :=
    @run_invariant _ _ (memoryStep host appSessionId) _ (ClientRun.Kept appSessionId host) _ kept
      (initialRun_kept appSessionId host configured content) events (everyStep_of_forall (fun _ _ => trivial) _ events)
  obtain ⟨wired, orderly, memory, isMemory, owned⟩ := invariant
  refine ⟨memory, isMemory, owned.handles_iff, owned.submissions_iff,
    fun transfer member => owned.count_cancelDeliveries orderly member, fun quiet requestId => ?_⟩
  obtain ⟨finished, emptied, noJob⟩ := quiet
  rw [isMemory] at noJob
  exact owned.nothing_left finished emptied (by simpa using noJob) requestId

end MemorySafety

end DarktableAgent.Chat
