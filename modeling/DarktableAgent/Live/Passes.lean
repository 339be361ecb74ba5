import DarktableAgent.Protocol.Narrowing
import DarktableAgent.Live.ExactlyOnce

/-! The passes of a refinement run, as the client asks for them and the server counts them.

Each side trusts what the other echoes. The client asks for one pass more after a
response that says so; the server says so only while passes are left.
-/

set_option autoImplicit false

namespace DarktableAgent.Live

open Foundation Protocol Client Chat

section Wire

/-- The `refinement` member of a request. -/
structure RefinementMember where
  mode : RefinementMode
  enabled : Bool
  passIndex : Int
  maxPasses : Int
  goalText : String
  deriving DecidableEq, Repr

/-- `MAX(1, (gint)passes)` -/
def serializedPasses (passes : Nat) : Int := max 1 (toGint passes)

/-- What `dt_agent_chat_request_serialize` writes for the request of a transfer. -/
def refinementMember (transfer : Transfer) : RefinementMember where
  mode := transfer.refinementMode
  enabled := transfer.submission.refinementEnabled
  passIndex := serializedPasses transfer.submission.refinementPassIndex
  maxPasses := serializedPasses transfer.submission.refinementMaxPasses
  goalText := transfer.submission.goalText

/-- The field constraints of `RefinementRequest` and its `validate_refinement_state`. -/
def validateRefinementState (member : RefinementMember) : Except String Unit :=
  rejectIf [
    (decide (member.maxPasses < 1), "maxPasses: Input should be greater than or equal to 1"),
    (decide (member.passIndex < 1), "passIndex: Input should be greater than or equal to 1"),
    (member.goalText == "", "goalText: String should have at least 1 character"),
    (member.mode != (if member.enabled then .multiTurn else .singleTurn), "refinement mode does not match enabled flag"),
    (decide (member.maxPasses < member.passIndex), "refinement passIndex must be <= maxPasses"),
    (!member.enabled && member.maxPasses != 1, "single-turn refinement must use maxPasses=1"),
    (!member.enabled && member.passIndex != 1, "single-turn refinement must use passIndex=1")]

/-- The server has read the request of the transfer. -/
structure Receives (request : RequestEnvelope) (transfer : Transfer) : Prop where
  mode : request.refinement.mode = (refinementMember transfer).mode
  enabled : request.refinement.enabled = (refinementMember transfer).enabled
  passIndex : request.refinement.passIndex = (refinementMember transfer).passIndex
  maxPasses : request.refinement.maxPasses = (refinementMember transfer).maxPasses

theorem serializedPasses_eq {passes : Nat} (positive : 1 ≤ passes) (fits : passes < 2 ^ 31) :
    serializedPasses passes = passes := by
  unfold serializedPasses
  rw [toGint_of_fits (by omega) (by omega)]
  omega

end Wire

section Echo

variable {request : RequestEnvelope} {plan : AgentPlan} {response : ChatResponse ℚ}

/-- The client's view of a refinement status. -/
structure Echoes (request : RequestEnvelope) (plan : AgentPlan) (response : ChatResponse ℚ) : Prop where
  status : response.status = "ok"
  mode : response.refinementMode = some request.refinement.mode
  enabled : response.refinementEnabled = request.refinement.enabled
  passIndex : (response.refinementPassIndex : Int) = request.refinement.passIndex
  maxPasses : (response.refinementMaxPasses : Int) = request.refinement.maxPasses
  continues : response.refinementContinue = canContinue request plan
  stopReason : response.refinementStopReason = some (Protocol.stopReason request plan).name

/-- A response that the client accepts echoes the refinement of its request, whatever the plan says. -/
theorem echoes_of_parsed (fits : request.refinement.maxPasses < 2 ^ 32)
    (parsed : chatResponseParseData (buildResponseFromPlan request plan).modelDump = .ok response) :
    Echoes request plan response := by
  obtain ⟨hasStatus, refinement, hasRefinement, mode, enabled, passIndex, maxPasses, continues, stopReason⟩ :=
    chatResponseParseData_refinement parsed
  have ok : requireStringMember (buildResponseFromPlan request plan).members "status" = .ok "ok" :=
    requireStringMember_found _ _ "ok" rfl (by unfold NulFree; decide) (by decide)
  have status : response.status = "ok" := Except.ok.inj (hasStatus.symm.trans ok)
  have ordered := request.refinement.passIndex_le
  have written : (buildResponseFromPlan request plan).members.lookup "refinement" =
      some (.obj (buildRefinementStatus request plan).members) := rfl
  have read := parseRefinement_found written ordered fits
  rw [status, decide_eq_true rfl, read] at hasRefinement
  obtain rfl := Except.ok.inj hasRefinement
  have positive := request.refinement.passIndexPositive
  refine ⟨status, mode, enabled, ?_, ?_, continues, stopReason⟩
  · rw [passIndex]
    exact toGuint_of_fits _ (by change 0 ≤ request.refinement.passIndex; omega) (lt_of_le_of_lt ordered fits)
  · rw [maxPasses]
    exact toGuint_of_fits _ (by change 0 ≤ request.refinement.maxPasses; omega) fits

/-- The four conditions of `continue` are those of the flag. -/
theorem stopReason_continue_iff (request : RequestEnvelope) (plan : AgentPlan) :
    Protocol.stopReason request plan = .continue ↔ canContinue request plan = true := by
  unfold Protocol.stopReason
  split_ifs with single empty last goes
  · simp only [false_iff, canContinue]
    simp_all
  · simp only [false_iff, canContinue]
    simp [empty]
  · simp only [false_iff, canContinue]
    simp [last]
  · simp [goes]
  · simp [goes]

theorem stopReason_name_continue {reason : StopReason} : reason.name = "continue" ↔ reason = .continue := by
  cases reason <;> decide

theorem RefinementRequest.mode_eq (refinement : RefinementRequest) :
    refinement.mode = if refinement.enabled then .multiTurn else .singleTurn := by
  have quiet := rejectIf_ok.mp refinement.valid
  simp only [List.forall_mem_cons, bne_eq_false_iff_eq] at quiet
  exact quiet.1

/-- The client goes on with exactly the responses whose stop reason is `continue`. -/
theorem shouldContinueRefinement_iff {submission : ChatSubmission} (echoes : Echoes request plan response)
    (sameEnabled : submission.refinementEnabled = request.refinement.enabled) :
    shouldContinueRefinement submission response = true ↔ response.refinementStopReason = some "continue" := by
  rw [echoes.stopReason, Option.some_inj, stopReason_name_continue, stopReason_continue_iff]
  have passIndex := echoes.passIndex
  have maxPasses := echoes.maxPasses
  unfold shouldContinueRefinement
  rw [sameEnabled, echoes.status, echoes.mode, echoes.continues, RefinementRequest.mode_eq]
  cases enabled : request.refinement.enabled with
  | false => simp [canContinue, enabled]
  | true =>
    constructor
    · intro should
      simp only [Bool.and_eq_true] at should
      exact should.1.2
    · intro goes
      have before : request.refinement.passIndex < request.refinement.maxPasses := by
        simp only [canContinue, Bool.and_eq_true, decide_eq_true_eq] at goes
        exact goes.2
      rw [goes]
      simp
      omega

end Echo

section Chain

variable {transfer : Transfer}

/-- What every request of a chain has. -/
structure Sound (transfer : Transfer) : Prop where
  enabled : transfer.submission.refinementEnabled = decide (transfer.refinementMode = .multiTurn)
  message : stripped transfer.submission.promptText ≠ ""
  goal : transfer.submission.goalText ≠ ""
  passIndexPositive : 1 ≤ transfer.submission.refinementPassIndex
  passIndex_le : transfer.submission.refinementPassIndex ≤ transfer.submission.refinementMaxPasses
  fits : transfer.submission.refinementMaxPasses < 2 ^ 31
  single : transfer.refinementMode = .singleTurn → transfer.submission.refinementMaxPasses = 1

theorem Sound.passIndex (sound : Sound transfer) :
    (refinementMember transfer).passIndex = transfer.submission.refinementPassIndex :=
  serializedPasses_eq sound.passIndexPositive (lt_of_le_of_lt sound.passIndex_le sound.fits)

theorem Sound.maxPasses (sound : Sound transfer) :
    (refinementMember transfer).maxPasses = transfer.submission.refinementMaxPasses :=
  serializedPasses_eq (le_trans sound.passIndexPositive sound.passIndex_le) sound.fits

/-- The server's validator accepts such a request. -/
theorem Sound.valid (sound : Sound transfer) : validateRefinementState (refinementMember transfer) = .ok () := by
  have passIndexPositive := sound.passIndexPositive
  have passIndex_le := sound.passIndex_le
  unfold validateRefinementState
  rw [rejectIf_ok, sound.passIndex, sound.maxPasses]
  simp only [List.forall_mem_cons, decide_eq_false_iff_not, not_lt, beq_eq_false_iff_ne, List.not_mem_nil,
    IsEmpty.forall_iff, implies_true, and_true]
  refine ⟨by omega, by omega, sound.goal, ?_, by omega, ?_, ?_⟩
  · change (transfer.refinementMode != if transfer.submission.refinementEnabled then .multiTurn else .singleTurn) = false
    rw [sound.enabled]
    cases transfer.refinementMode <;> rfl
  · change (!transfer.submission.refinementEnabled && _) = false
    rw [sound.enabled]
    cases mode : transfer.refinementMode with
    | multiTurn => rfl
    | singleTurn => simp [sound.single mode]
  · change (!transfer.submission.refinementEnabled && _) = false
    rw [sound.enabled]
    cases mode : transfer.refinementMode with
    | multiTurn => rfl
    | singleTurn =>
      have one := sound.single mode
      simp
      omega

theorem mem_dropWhile {α : Type} {skip : α → Bool} {item : α} {items : List α} (member : item ∈ items)
    (kept : skip item = false) : item ∈ items.dropWhile skip := by
  induction items with
  | nil => cases member
  | cons first rest ih =>
    rw [List.dropWhile_cons]
    split_ifs with skipped
    · rcases List.mem_cons.mp member with rfl | later
      · exact absurd skipped (by rw [kept]; decide)
      · exact ih later
    · exact member

theorem stripped_ne_empty_iff (text : String) : stripped text ≠ "" ↔ ∃ char ∈ text.toList, isAsciiSpace char = false := by
  constructor
  · intro present
    by_contra blank
    push Not at blank
    have allSpace : text.toList.dropWhile isAsciiSpace = [] :=
      List.dropWhile_eq_nil_iff.mpr fun char member => by simpa using blank char member
    exact present (by rw [stripped, allSpace]; rfl)
  · rintro ⟨char, member, graphic⟩ empty
    have front := mem_dropWhile member graphic
    have back := mem_dropWhile (List.mem_reverse.mpr front) graphic
    have listed : ((text.toList.dropWhile isAsciiSpace).reverse.dropWhile isAsciiSpace).reverse = [] := by
      have chars := congrArg String.toList empty
      simpa [stripped] using chars
    rw [List.reverse_eq_nil_iff.mp listed] at back
    cases back

/-- A message that was stripped once is not emptied by stripping it again. -/
theorem stripped_stripped_ne_empty {text : String} (present : stripped text ≠ "") : stripped (stripped text) ≠ "" := by
  obtain ⟨char, member, graphic⟩ := (stripped_ne_empty_iff text).mp present
  refine (stripped_ne_empty_iff _).mpr ⟨char, ?_, graphic⟩
  rw [stripped, String.toList_ofList, List.mem_reverse]
  exact mem_dropWhile (List.mem_reverse.mpr (mem_dropWhile member graphic)) graphic

variable {κ W : Type} {host : Host κ ℚ W} {panel : Panel κ ℚ} {arguments : SubmitArguments} {outcome : SubmitOutcome}

theorem build_bounds (built : arguments.build outcome = .ok ()) :
    1 ≤ arguments.refinementPassIndex ∧ arguments.refinementPassIndex ≤ arguments.refinementMaxPasses := by
  unfold SubmitArguments.build at built
  cases outcome with
  | buildFailed message => cases built
  | queued | queueFailed =>
    dsimp only at built
    split_ifs at built with wrong
    omega

/-- A submission sends nothing, or one request that has a message and a pass within its bound. -/
theorem submitInternal_sent (host : Host κ ℚ W) (panel : Panel κ ℚ) (arguments : SubmitArguments)
    (outcome : SubmitOutcome) :
    (panel.submitInternal host arguments outcome).sent = false ∧
        (panel.submitInternal host arguments outcome).panel.transfers = panel.transfers ∨
      (panel.submitInternal host arguments outcome).sent = true ∧
        (∃ transfer, (panel.submitInternal host arguments outcome).panel.transfers = panel.transfers ++ [transfer]) ∧
        arguments.message ≠ "" ∧ 1 ≤ arguments.refinementPassIndex ∧
        arguments.refinementPassIndex ≤ arguments.refinementMaxPasses := by
  unfold Panel.submitInternal
  dsimp only
  split_ifs with refused
  · exact .inl ⟨rfl, rfl⟩
  · have message : arguments.message ≠ "" := fun empty => refused (.inr empty)
    split
    · exact .inl ⟨rfl, rfl⟩
    · exact .inl ⟨rfl, rfl⟩
    · rename_i built
      refine .inr ⟨rfl, ⟨_, rfl⟩, message, ?_⟩
      exact build_bounds built

theorem submitInternal_queued (quiet : (panel.reopened host).chat.isLoading = false) (message : arguments.message ≠ "")
    (passIndexPositive : 1 ≤ arguments.refinementPassIndex)
    (passIndex_le : arguments.refinementPassIndex ≤ arguments.refinementMaxPasses) :
    (panel.submitInternal host arguments .queued).sent = true := by
  have built : arguments.build .queued = .ok () := by
    unfold SubmitArguments.build
    dsimp only
    rw [if_neg (by omega)]
  unfold Panel.submitInternal
  dsimp only
  unfold Panel.reopened at quiet
  rw [quiet, if_neg (by simp [message]), built]

/-- What is known of a request that was sent. -/
structure SentWith (arguments : SubmitArguments) (transfer : Transfer) : Prop where
  sound : Sound transfer
  passIndex : transfer.submission.refinementPassIndex = arguments.refinementPassIndex
  maxPasses : transfer.submission.refinementMaxPasses = arguments.refinementMaxPasses
  goalText : transfer.submission.goalText = arguments.goal

theorem sentWith (sent : (panel.submitInternal host arguments outcome).panel.transfers = panel.transfers ++ [transfer])
    (fits : arguments.refinementMaxPasses < 2 ^ 31)
    (single : arguments.refinementMode = .singleTurn → arguments.refinementMaxPasses = 1) :
    SentWith arguments transfer := by
  obtain ⟨submission, mode, -⟩ := sent_core sent
  have grown : ¬ (panel.submitInternal host arguments outcome).panel.transfers = panel.transfers := by
    intro same
    have longer := congrArg List.length (sent.symm.trans same)
    simp at longer
  rcases submitInternal_sent host panel arguments outcome with
    ⟨-, same⟩ | ⟨-, -, message, positive, within⟩
  · exact absurd same grown
  · refine ⟨⟨?_, ?_, ?_, ?_, ?_, ?_, ?_⟩, ?_, ?_, ?_⟩
    all_goals rw [submission]
    · rw [mode]; rfl
    · exact stripped_stripped_ne_empty message
    · change arguments.goal ≠ ""
      unfold SubmitArguments.goal
      split_ifs with given
      · exact given
      · exact message
    · exact positive
    · exact within
    · exact fits
    · rw [mode]
      exact single
    all_goals rfl

/-- The first request of a chain, as the panel sends it. The turn limit is an `int`, of the spin button and in the
configuration alike. -/
structure InitialRequest (host : Host κ ℚ W) (transfer : Transfer) : Prop where
  sent : ∃ (panel : Panel κ ℚ) (prompt : String) (outcome : SubmitOutcome),
    panel.chat.preferences.maxRefinementPasses < 2 ^ 31 ∧
      (panel.submit host prompt outcome).transfers = panel.transfers ++ [transfer]

/-- The client has asked for the later request after the response to the earlier one. -/
def ContinuedBy (host : Host κ ℚ W) (earlier later : Transfer) : Prop :=
  ∃ (request : RequestEnvelope) (plan : AgentPlan) (response : ChatResponse ℚ) (panel : Panel κ ℚ)
    (outcome : SubmitOutcome), Receives request earlier ∧
    chatResponseParseData (buildResponseFromPlan request plan).modelDump = .ok response ∧
    (panel.continueRefinement host earlier.submission response outcome).panel.transfers = panel.transfers ++ [later]

theorem InitialRequest.sentWith (initial : InitialRequest host transfer) :
    Sound transfer ∧ transfer.submission.refinementPassIndex = 1 := by
  obtain ⟨panel, prompt, outcome, fits, sent⟩ := initial
  have passes : panel.chat.maxRefinementPasses < 2 ^ 31 := by
    unfold AgentChat.maxRefinementPasses
    split_ifs
    · decide
    · exact fits
  have made := Live.sentWith sent
    (by dsimp only; split_ifs; exacts [passes, by decide])
    (by dsimp only; split_ifs <;> simp)
  exact ⟨made.sound, made.passIndex⟩

/-- The later request asks for the pass after the earlier one, within the same bound and for the same goal. -/
structure NextPass (earlier later : Transfer) : Prop where
  sound : Sound later
  passIndex : later.submission.refinementPassIndex = earlier.submission.refinementPassIndex + 1
  maxPasses : later.submission.refinementMaxPasses = earlier.submission.refinementMaxPasses
  goalText : later.submission.goalText = earlier.submission.goalText

theorem Receives.echoes {request : RequestEnvelope} {plan : AgentPlan} {response : ChatResponse ℚ}
    (receives : Receives request transfer) (sound : Sound transfer)
    (parsed : chatResponseParseData (buildResponseFromPlan request plan).modelDump = .ok response) :
    Echoes request plan response ∧ response.refinementPassIndex = transfer.submission.refinementPassIndex ∧
      response.refinementMaxPasses = transfer.submission.refinementMaxPasses := by
  have fits := sound.fits
  have maxPasses := receives.maxPasses.trans sound.maxPasses
  have passIndex := receives.passIndex.trans sound.passIndex
  have echoes := echoes_of_parsed (by rw [maxPasses]; omega) parsed
  have samePass := echoes.passIndex.trans passIndex
  have sameMax := echoes.maxPasses.trans maxPasses
  exact ⟨echoes, by omega, by omega⟩

theorem nextPass_of_continued {earlier later : Transfer} (sound : Sound earlier)
    (continued : ContinuedBy host earlier later) : NextPass earlier later := by
  obtain ⟨request, plan, response, panel, outcome, receives, parsed, sent⟩ := continued
  obtain ⟨echoes, passIndex, maxPasses⟩ := receives.echoes sound parsed
  unfold Panel.continueRefinement at sent
  split_ifs at sent with goes
  · have made := sentWith sent
      (by unfold Panel.continuation; rw [maxPasses, max_self]; exact sound.fits)
      (fun other => nomatch other)
    refine ⟨made.sound, ?_, ?_, ?_⟩
    · rw [made.passIndex, Panel.continuation, passIndex]
    · rw [made.maxPasses, Panel.continuation, maxPasses, max_self]
    · rw [made.goalText, SubmitArguments.goal, Panel.continuation, if_pos sound.goal]
  · have longer := congrArg List.length sent
    simp at longer

/-- Where a request stands in a chain that starts with `first`. -/
structure Along (first : Transfer) (index : Nat) (transfer : Transfer) : Prop where
  sound : Sound transfer
  passIndex : transfer.submission.refinementPassIndex = first.submission.refinementPassIndex + index
  maxPasses : transfer.submission.refinementMaxPasses = first.submission.refinementMaxPasses
  goalText : transfer.submission.goalText = first.submission.goalText

theorem along_chain {first : Transfer} {rest : List Transfer} (sound : Sound first)
    (chain : List.IsChain (ContinuedBy host) (first :: rest)) :
    ∀ index transfer, (first :: rest)[index]? = some transfer → Along first index transfer := by
  induction rest generalizing first with
  | nil =>
    intro index transfer found
    cases index with
    | zero =>
      obtain rfl := Option.some.inj found
      exact ⟨sound, rfl, rfl, rfl⟩
    | succ index => simp at found
  | cons second rest ih =>
    intro index transfer found
    obtain ⟨continued, later⟩ := List.isChain_cons_cons.mp chain
    have next := nextPass_of_continued sound continued
    cases index with
    | zero =>
      obtain rfl := Option.some.inj found
      exact ⟨sound, rfl, rfl, rfl⟩
    | succ index =>
      have along := ih next.sound later index transfer found
      refine ⟨along.sound, ?_, along.maxPasses.trans next.maxPasses, along.goalText.trans next.goalText⟩
      rw [along.passIndex, next.passIndex]
      omega

theorem chain_length_le {first : Transfer} {rest : List Transfer} (sound : Sound first)
    (firstPass : first.submission.refinementPassIndex = 1)
    (chain : List.IsChain (ContinuedBy host) (first :: rest)) :
    (first :: rest).length ≤ first.submission.refinementMaxPasses := by
  obtain ⟨last, isLast⟩ : ∃ last, (first :: rest)[rest.length]? = some last :=
    ⟨_, List.getElem?_eq_getElem (by simp)⟩
  have along := along_chain sound chain rest.length last isLast
  have within := along.sound.passIndex_le
  rw [along.passIndex, along.maxPasses, firstPass] at within
  rw [List.length_cons]
  omega

end Chain

section GoesOn

variable {κ W : Type} {host : Host κ ℚ W} {panel : Panel κ ℚ} {submission : ChatSubmission} {response : ChatResponse ℚ}

def answered (response : ChatResponse ℚ) : ClientResult ℚ := { response := some response }

/-- The visible panel takes a response, and all its operations have been applied, live or now. -/
structure AllApplied (host : Host κ ℚ W) (panel : Panel κ ℚ) (submission : ChatSubmission)
    (response : ChatResponse ℚ) : Prop where
  visible : panel.develop.visible = true
  current : isStaleResponse (panel.settle submission (answered response)).chat panel.develop submission
    (answered response) = false
  revision : revisionMismatch host panel.develop submission (answered response)
    (panel.chat.liveAppliedFor submission) = false
  applied : response.operations.length ≤ panel.chat.liveAppliedFor submission ∨
    (panel.execution host (response.operations.drop (panel.chat.liveAppliedFor submission))).ok = true

/-- The panel that the response is handled on: settled and no longer loading. -/
def quieted (panel : Panel κ ℚ) (submission : ChatSubmission) (response : ChatResponse ℚ) : Panel κ ℚ :=
  (panel.settle submission (answered response)).onChat fun chat =>
    if chat.matchesCurrentSession submission then chat.setLoading false else chat

def handledResponse (host : Host κ ℚ W) (panel : Panel κ ℚ) (submission : ChatSubmission) (response : ChatResponse ℚ) :
    Panel.Handled κ ℚ :=
  ((quieted panel submission response).onChat (·.setError "")).handleResponse host submission response
    (panel.chat.liveAppliedFor submission)

theorem applyRest_ok (operations : List (ChatOperation ℚ)) :
    (panel.applyRest host submission operations).ok = (panel.execution host operations).ok := by
  unfold Panel.applyRest
  dsimp only
  split <;> simp_all

theorem handleResponse_ok {liveApplied : Nat} (status : response.status = "ok")
    (applied : response.operations.length ≤ liveApplied ∨
      (panel.execution host (response.operations.drop liveApplied)).ok = true) :
    (panel.handleResponse host submission response liveApplied).ok = true := by
  unfold Panel.handleResponse
  dsimp only
  rw [if_neg (by rw [status]; decide)]
  by_cases nothing : response.operations.length ≤ liveApplied
  · rw [if_pos (le_min nothing le_rfl)]
  · have within : min liveApplied response.operations.length = liveApplied := by omega
    rw [within, if_neg nothing]
    rw [applyRest_ok]
    exact applied.resolve_left nothing

/-- The result of such a response is the submission of the next pass, or nothing. -/
theorem requestFinished_transfers (applied : AllApplied host panel submission response)
    (status : response.status = "ok") (outcome : SubmitOutcome) :
    (panel.requestFinished host submission (answered response) outcome).transfers =
      ((handledResponse host panel submission response).panel.continueRefinement host submission response
        outcome).panel.transfers := by
  have ok : (handledResponse host panel submission response).ok = true := handleResponse_ok status applied.applied
  have notStale : ¬ ((panel.settle submission (answered response)).develop.visible = true ∧
      isStaleResponse (panel.settle submission (answered response)).chat
        (panel.settle submission (answered response)).develop
        submission (answered response) = true) := fun stale => absurd (stale.2.symm.trans applied.current) (by decide)
  have notMismatched : ¬ revisionMismatch host (quieted panel submission response).develop submission (answered response)
      (panel.chat.liveAppliedFor submission) = true :=
    fun mismatched => absurd (mismatched.symm.trans applied.revision) (by decide)
  have visible : ¬ ¬ (quieted panel submission response).develop.visible = true := not_not.mpr applied.visible
  have finished : panel.requestFinished host submission (answered response) outcome =
      (quieted panel submission response).finishVisible host submission response (panel.chat.liveAppliedFor submission)
        outcome :=
    (if_neg notStale).trans ((if_neg notMismatched).trans (if_neg visible))
  rw [finished]
  unfold Panel.finishVisible
  change (if ¬ (handledResponse host panel submission response).ok then _ else _ : Panel κ ℚ).transfers = _
  rw [if_neg (not_not.mpr ok)]
  dsimp only
  split <;> rfl

theorem handledResponse_core (host : Host κ ℚ W) (panel : Panel κ ℚ) (submission : ChatSubmission)
    (response : ChatResponse ℚ) :
    (handledResponse host panel submission response).panel.core = (quieted panel submission response).core ∨
      ∃ operations, (handledResponse host panel submission response).panel.core =
        ((quieted panel submission response).afterExecution host submission operations).core := by
  have cleared : ((quieted panel submission response).onChat (·.setError "")).core =
      (quieted panel submission response).core := Panel.core_onChat rfl
  have handled := Panel.core_handleResponse host ((quieted panel submission response).onChat (·.setError "")) submission
    response (panel.chat.liveAppliedFor submission)
  unfold handledResponse
  rw [handled]
  split_ifs
  · exact .inl cleared
  · exact .inr ⟨_, Panel.core_afterExecution host cleared submission _⟩

/-- The panel that asks for the next pass is wired and no longer loading, and it is visible when it was. -/
theorem handledResponse_quiet (wired : Wired host panel) (applied : AllApplied host panel submission response) :
    Wired host (handledResponse host panel submission response).panel ∧
      (handledResponse host panel submission response).panel.develop.visible = true ∧
      (handledResponse host panel submission response).panel.chat.isLoading = false ∧
      (handledResponse host panel submission response).panel.transfers = panel.transfers := by
  have settled := wired.settle submission (answered response)
  have quiet : Wired host (quieted panel submission response) := settled.calms (Panel.quiets_calms _ submission)
  have lowered : (quieted panel submission response).chat.isLoading = false := by
    have current := applied.current
    unfold isStaleResponse at current
    simp only [Bool.or_eq_false_iff, decide_eq_false_iff_not, not_not] at current
    have matching : (panel.settle submission (answered response)).chat.matchesCurrentSession submission = true := by
      unfold AgentChat.matchesCurrentSession
      simp [current.1.1.1.2, current.1.1.2]
    unfold quieted Panel.onChat
    dsimp only
    rw [if_pos matching]
    rfl
  rcases handledResponse_core host panel submission response with same | ⟨operations, same⟩
  · refine ⟨quiet.of_core same, ?_, ?_, ?_⟩
    · exact (congrArg (·.develop.visible) same).trans applied.visible
    · exact (congrArg (·.chat.isLoading) same).trans lowered
    · exact congrArg (·.transfers) same
  · have executed : Wired host ((quieted panel submission response).afterExecution host submission operations) :=
      quiet.executes submission (some operations)
    refine ⟨executed.of_core same, ?_, ?_, ?_⟩
    · exact (congrArg (·.develop.visible) same).trans applied.visible
    · exact (congrArg (·.chat.isLoading) same).trans lowered
    · exact congrArg (·.transfers) same

/-- The response makes the client send one more request, if it can be built and queued. -/
def GoesOn (host : Host κ ℚ W) (panel : Panel κ ℚ) (submission : ChatSubmission) (response : ChatResponse ℚ) : Prop :=
  ∃ next, (panel.requestFinished host submission (answered response) .queued).transfers = panel.transfers ++ [next]

/-- The next request is sent exactly when the client decides to go on. -/
theorem goesOn_iff {transfer : Transfer} (wired : Wired host panel) (sound : Sound transfer)
    (applied : AllApplied host panel transfer.submission response) (status : response.status = "ok") :
    GoesOn host panel transfer.submission response ↔ shouldContinueRefinement transfer.submission response = true := by
  unfold GoesOn
  rw [requestFinished_transfers applied status]
  obtain ⟨handledWired, visible, quiet, sameTransfers⟩ := handledResponse_quiet wired applied
  generalize (handledResponse host panel transfer.submission response).panel = handled at *
  unfold Panel.continueRefinement
  constructor
  · rintro ⟨next, sent⟩
    by_contra stops
    rw [if_pos stops] at sent
    have longer := congrArg List.length (sent.symm.trans sameTransfers)
    simp at longer
  · intro goes
    rw [if_neg (not_not.mpr goes)]
    dsimp only
    -- the line about the next pass is appended before the request is sent
    have toldWired : Wired host (handled.onChat (·.appendMessage "system" ("Continuing refinement pass "
        ++ toString (Panel.continuation transfer.submission response).refinementPassIndex ++ "/"
        ++ toString (Panel.continuation transfer.submission response).refinementMaxPasses))) :=
      handledWired.of_core (Panel.core_onChat rfl)
    have reopenedQuiet : (Panel.reopened host _).chat.isLoading = false :=
      Bool.eq_false_iff.mpr fun loading =>
        absurd ((Anchored.loading_of_reopened toldWired visible loading).symm.trans quiet) (by decide)
    have message : (Panel.continuation transfer.submission response).message ≠ "" := sound.message
    have within : response.refinementPassIndex + 1 ≤ response.refinementMaxPasses := by
      unfold shouldContinueRefinement at goes
      simp only [Bool.and_eq_true, decide_eq_true_eq] at goes
      exact goes.2
    have sent := submitInternal_queued reopenedQuiet message (Nat.le_add_left 1 _)
      (le_trans within (le_max_right _ _))
    rcases submitInternal_sent host _ _ _ with ⟨notSent, -⟩ | ⟨-, ⟨next, grown⟩, -⟩
    · exact absurd (sent.symm.trans notSent) (by decide)
    · exact ⟨next, grown.trans (by rw [← sameTransfers]; rfl)⟩

/-- A chain of passes has at most `maxPasses` requests. The server accepts every one of them, with the bound and the
goal of the first one and with the pass that is its place in the chain. The client goes on after a response that it
takes and whose operations were all applied exactly when the stop reason is `continue`. -/
theorem refinement_bounded (host : Host κ ℚ W) {first : Transfer} {rest : List Transfer}
    (initial : InitialRequest host first) (chain : List.IsChain (ContinuedBy host) (first :: rest)) :
    ((first :: rest).length : Int) ≤ (refinementMember first).maxPasses ∧
      (∀ (index : Nat) transfer, (first :: rest)[index]? = some transfer →
        validateRefinementState (refinementMember transfer) = .ok () ∧
          (refinementMember transfer).maxPasses = (refinementMember first).maxPasses ∧
          (refinementMember transfer).goalText = (refinementMember first).goalText ∧
          (refinementMember transfer).passIndex = index + 1) ∧
      ∀ transfer ∈ first :: rest, ∀ configured content events request plan response,
        Receives request transfer →
        chatResponseParseData (buildResponseFromPlan request plan).modelDump = .ok response →
        AllApplied host (run (step host) (initialPanel configured content) events) transfer.submission response →
          (GoesOn host (run (step host) (initialPanel configured content) events) transfer.submission response ↔
            response.refinementStopReason = some "continue") := by
  obtain ⟨sound, firstPass⟩ := initial.sentWith
  refine ⟨?_, ?_, ?_⟩
  · rw [sound.maxPasses]
    exact_mod_cast chain_length_le sound firstPass chain
  · intro index transfer found
    have along := along_chain sound chain index transfer found
    refine ⟨along.sound.valid, ?_, along.goalText, ?_⟩
    · rw [along.sound.maxPasses, sound.maxPasses, along.maxPasses]
    · rw [along.sound.passIndex, along.passIndex, firstPass]
      omega
  · intro transfer member configured content events request plan response receives parsed applied
    obtain ⟨index, found⟩ := List.mem_iff_getElem?.mp member
    have along := along_chain sound chain index transfer found
    obtain ⟨echoes, -, -⟩ := receives.echoes along.sound parsed
    rw [goesOn_iff (wired_of_run host configured content events) along.sound applied echoes.status]
    exact shouldContinueRefinement_iff echoes receives.enabled.symm

end GoesOn

/-! The exposure is raised in up to four passes; the plan of the first pass asks for a second one. -/

def passesRequest : RequestEnvelope :=
  { raisingRequest with refinement := ⟨.multiTurn, true, 4, 1, by decide, one_positive, rfl⟩ }

def continuingPlan : AgentPlan := { raisedPlan with continueRefining := true }

def continuingResponse : ChatResponse ℚ :=
  { raisedResponse raisedPlan.operations with
    refinementMaxPasses := 4
    refinementContinue := true
    refinementStopReason := some "continue" }

def continuingProgress : ClientProgress ℚ := { raisedProgress with response := some continuingResponse }

theorem passesRequest_receives : Receives passesRequest raisingTransfer := by
  constructor <;> decide +kernel

theorem continuingResponse_parsed :
    chatResponseParseData (buildResponseFromPlan passesRequest continuingPlan).modelDump = .ok continuingResponse := by
  decide +kernel

def passEvents : List (Event SampleEdit ℚ) :=
  [.enter 1 ⟨0, 0⟩, .submit "brighten" .queued, .streamed (sampleUuid 2) continuingProgress, .dispatch .queued]

def passPanel : Panel SampleEdit ℚ := run (step raisingHost) sampleStart passEvents

def secondTransfer : Transfer where
  submission := { raisingTransfer.submission with
    requestId := sampleUuid 3
    baseImageRevisionId := "image-1-history-2-2"
    refinementPassIndex := 2 }
  refinementMode := .multiTurn
  historyPosition := 2
  historyCount := 2

theorem raisingTransfer_initial : InitialRequest raisingHost raisingTransfer :=
  ⟨step raisingHost sampleStart (.enter 1 ⟨0, 0⟩), "brighten", .queued, by decide, by decide +kernel⟩

theorem secondTransfer_continued : ContinuedBy raisingHost raisingTransfer secondTransfer := by
  refine ⟨passesRequest, continuingPlan, continuingResponse,
    (handledResponse raisingHost passPanel raisingTransfer.submission continuingResponse).panel, .queued,
    passesRequest_receives, continuingResponse_parsed, ?_⟩
  decide +kernel

theorem continuingResponse_applied : AllApplied raisingHost passPanel raisingTransfer.submission continuingResponse := by
  constructor <;> decide +kernel

theorem refinement_bounded_two :
    2 ≤ (refinementMember raisingTransfer).maxPasses ∧
      validateRefinementState (refinementMember secondTransfer) = .ok () ∧
      GoesOn raisingHost passPanel raisingTransfer.submission continuingResponse := by
  obtain ⟨length, requests, goesOn⟩ := refinement_bounded raisingHost raisingTransfer_initial
    (List.isChain_cons_cons.mpr ⟨secondTransfer_continued, .singleton secondTransfer⟩)
  refine ⟨length, (requests 1 secondTransfer rfl).1, ?_⟩
  exact (goesOn raisingTransfer List.mem_cons_self samplePreferences ⟨0, 0⟩ passEvents passesRequest continuingPlan
    continuingResponse passesRequest_receives continuingResponse_parsed continuingResponse_applied).mpr rfl

/-- Both operations have been applied live when the darkroom is left. -/
def leftAfterEdits : List (Event SampleEdit ℚ) :=
  passEvents ++ [.leave, .ended (sampleUuid 2) (.completed continuingResponse)]

/-- The response to a chain's request is not taken while the darkroom is hidden. -/
theorem continue_not_taken_hidden :
    ¬ ∀ (events : List (Event SampleEdit ℚ)) (request : RequestEnvelope) (plan : AgentPlan) (response : ChatResponse ℚ),
      Receives request raisingTransfer →
      chatResponseParseData (buildResponseFromPlan request plan).modelDump = .ok response →
      .result raisingTransfer.submission (answered response) ∈ (run (step raisingHost) sampleStart events).queue →
      response.operations.length ≤
          (run (step raisingHost) sampleStart events).chat.liveAppliedFor raisingTransfer.submission →
        (GoesOn raisingHost (run (step raisingHost) sampleStart events) raisingTransfer.submission response ↔
          response.refinementStopReason = some "continue") := by
  intro always
  have goes := (always leftAfterEdits passesRequest continuingPlan continuingResponse passesRequest_receives
    continuingResponse_parsed (by decide +kernel) (by decide +kernel)).mpr rfl
  obtain ⟨next, sent⟩ := goes
  have length : ((run (step raisingHost) sampleStart leftAfterEdits).requestFinished raisingHost
      raisingTransfer.submission (answered continuingResponse) .queued).transfers.length = 1 := by decide +kernel
  have before : (run (step raisingHost) sampleStart leftAfterEdits).transfers.length = 1 := by decide +kernel
  rw [sent, List.length_append, before] at length
  cases length

end DarktableAgent.Live
