import DarktableAgent.Protocol.Narrowing

/-! Every response that the client accepts is well-formed.

Whatever document arrives, an accepted one has all its required texts, passes in
order, error details exactly when it is an error, and operations that the executor
has no structural complaint about.
-/

set_option autoImplicit false

namespace DarktableAgent.Protocol

open Foundation

/-- A text that the reader of a C string finds: not empty, and without a terminator inside. -/
def CText (text : String) : Prop := text ≠ "" ∧ NulFree text

theorem cString_nulFree (text : String) : NulFree (cString text) := by
  unfold NulFree cString
  rw [String.toList_ofList]
  intro member
  simpa using List.mem_takeWhile_imp member

section Members

variable {object : JsonObject} {member : String}

theorem requireStringMember_cText {text : String} (found : requireStringMember object member = .ok text) : CText text := by
  rw [requireStringMember, bind_eq_ok] at found
  obtain ⟨node, -, isText⟩ := found
  cases node with
  | str value =>
    simp only at isText
    split_ifs at isText with absent
    obtain rfl := Except.ok.inj isText
    exact ⟨absent, cString_nulFree value⟩
  | _ => simp at isText

theorem parseSession_cTexts {app image conversation turn : String}
    (parsed : parseSession object = .ok (app, image, conversation, turn)) :
    CText app ∧ CText image ∧ CText conversation ∧ CText turn := by
  simp only [parseSession, bind_eq_ok] at parsed
  obtain ⟨session, -, _, isApp, _, isImage, _, isConversation, _, isTurn, same⟩ := parsed
  obtain ⟨rfl, rfl, rfl, rfl⟩ : _ = app ∧ _ = image ∧ _ = conversation ∧ _ = turn := by simpa using Except.ok.inj same
  exact ⟨requireStringMember_cText isApp, requireStringMember_cText isImage, requireStringMember_cText isConversation,
    requireStringMember_cText isTurn⟩

theorem parseMessage_cTexts {role text : String} (parsed : parseMessage object member = .ok (role, text)) :
    CText role ∧ CText text := by
  simp only [parseMessage, bind_eq_ok] at parsed
  obtain ⟨message, -, _, isRole, _, isText, same⟩ := parsed
  obtain ⟨rfl, rfl⟩ : _ = role ∧ _ = text := by simpa using Except.ok.inj same
  exact ⟨requireStringMember_cText isRole, requireStringMember_cText isText⟩

/-- An error has both details or neither. -/
theorem parseError_cTexts {code message : Option String} (parsed : parseError object = .ok (code, message)) :
    (code = none ∧ message = none) ∨ ∃ known detail, code = some known ∧ message = some detail ∧ CText known ∧ CText detail := by
  unfold parseError at parsed
  split at parsed
  · cases parsed
  · cases parsed
    exact .inl ⟨rfl, rfl⟩
  · simp only [bind_eq_ok] at parsed
    obtain ⟨known, isKnown, detail, isDetail, same⟩ := parsed
    cases same
    exact .inr ⟨known, detail, rfl, rfl, requireStringMember_cText isKnown, requireStringMember_cText isDetail⟩
  · cases parsed

theorem toGuint_lt (value : Int) : toGuint value < 2 ^ 32 := by
  unfold toGuint
  omega

/-- Passes are counted from one, in order, in a field of 32 bits. -/
structure PassesInOrder (mode : Option RefinementMode) (passIndex maxPasses : Nat) : Prop where
  mode : mode.isSome
  positive : 0 < passIndex
  ordered : passIndex ≤ maxPasses
  narrow : maxPasses < 2 ^ 32

theorem parseRefinement_inOrder {requireContinueMember : Bool} {refinement : ParsedRefinement}
    (parsed : parseRefinement object member requireContinueMember = .ok refinement) :
    PassesInOrder refinement.mode refinement.passIndex refinement.maxPasses ∧
      (requireContinueMember = false → refinement.continueRefining = false) := by
  simp only [parseRefinement, bind_eq_ok] at parsed
  obtain ⟨members, -, modeName, -, enabled, -, passIndex, -, maxPasses, isMax, parsed⟩ := parsed
  obtain ⟨written, -, -, rfl⟩ := requireUintMember_ok.mp isMax
  have checked : ∀ continueRefining stopReason, (if (refinementModeFromString modeName).isNone then
      .error ("unsupported refinement mode '" ++ modeName ++ "'")
      else if passIndex = 0 ∨ toGuint written = 0 ∨ toGuint written < passIndex then
        .error "refinement passIndex/maxPasses must satisfy 1 <= passIndex <= maxPasses"
      else pure (⟨refinementModeFromString modeName, enabled, passIndex, toGuint written, continueRefining,
        stopReason⟩ : ParsedRefinement)) = Except.ok refinement →
      PassesInOrder refinement.mode refinement.passIndex refinement.maxPasses ∧
        refinement.continueRefining = continueRefining := by
    intro continueRefining stopReason rest
    split_ifs at rest with unknown outOfRange
    obtain rfl := Except.ok.inj rest
    refine ⟨⟨Option.ne_none_iff_isSome.mp fun none => unknown (Option.isNone_iff_eq_none.mpr none), ?_, ?_, toGuint_lt written⟩,
      rfl⟩
    · change 0 < passIndex
      omega
    · change passIndex ≤ toGuint written
      omega
  cases requireContinueMember with
  | true =>
    simp only [if_true, bind_eq_ok] at parsed
    obtain ⟨continueRefining, -, stopReason, -, rest⟩ := parsed
    exact ⟨(checked continueRefining stopReason rest).1, fun impossible => Bool.noConfusion impossible⟩
  | false =>
    simp only [Bool.false_eq_true, if_false, bind_eq_ok] at parsed
    obtain ⟨continueRefining, isContinue, stopReason, -, rest⟩ := parsed
    obtain ⟨inOrder, same⟩ := checked continueRefining stopReason rest
    exact ⟨inOrder, fun _ => same.trans (Except.ok.inj isContinue).symm⟩

end Members

section Operations

/-- The choice of an operation, if it has one, fits its field, and an id that is there is not empty. -/
structure ChoiceKept (operation : ChatOperation ℚ) : Prop where
  value : -2 ^ 31 ≤ operation.choiceValue ∧ operation.choiceValue < 2 ^ 31
  choiceId : ∀ choiceId, operation.choiceId = some choiceId → CText choiceId

/-- An operation that carries what its kind asks for. -/
structure OperationReady (operation : ChatOperation ℚ) : Prop where
  texts : ∀ text ∈ [operation.operationId, operation.kindName, operation.targetType, operation.actionPath,
    operation.settingId], CText text
  sequence : -2 ^ 31 ≤ operation.sequence ∧ operation.sequence < 2 ^ 31
  kind : ∃ kind : OperationKind, operation.kind = some kind ∧ operation.kindName = kind.name
  status : operation.status = "planned"
  targetType : operation.targetType = darktableAction
  mode : operation.valueMode.isSome
  choice : operation.hasChoiceValue ↔ operation.kind = some .setChoice
  bool : operation.hasBoolValue ↔ operation.kind = some .setBool
  kept : ChoiceKept operation

theorem toGint_bounds (value : Int) : -2 ^ 31 ≤ toGint value ∧ toGint value < 2 ^ 31 := by
  unfold toGint
  constructor
  · exact Int.le_bmod (by decide)
  · exact Int.bmod_lt (by decide)

theorem parseTarget_cTexts {target : JsonObject} {targetType actionPath settingId : String}
    (parsed : parseTarget target = .ok (targetType, actionPath, settingId)) :
    CText targetType ∧ CText actionPath ∧ CText settingId := by
  simp only [parseTarget, bind_eq_ok] at parsed
  obtain ⟨_, isType, _, isPath, _, isSetting, same⟩ := parsed
  obtain ⟨rfl, rfl, rfl⟩ : _ = targetType ∧ _ = actionPath ∧ _ = settingId := by simpa using Except.ok.inj same
  exact ⟨requireStringMember_cText isType, requireStringMember_cText isPath, requireStringMember_cText isSetting⟩

/-- A value object fills in the value of its kind and nothing else. -/
theorem parseValue_ready {kind : OperationKind} {value : JsonObject} {head operation : ChatOperation ℚ}
    (parsed : parseValue (some kind) value head = .ok operation) (noChoice : head.hasChoiceValue = false)
    (zero : head.choiceValue = 0) (noId : head.choiceId = none) (noBool : head.hasBoolValue = false) :
    ({ head with
        number := operation.number
        hasChoiceValue := operation.hasChoiceValue
        choiceValue := operation.choiceValue
        choiceId := operation.choiceId
        hasBoolValue := operation.hasBoolValue
        boolValue := operation.boolValue } = operation) ∧
      (operation.hasChoiceValue ↔ kind = .setChoice) ∧ (operation.hasBoolValue ↔ kind = .setBool) ∧
      ChoiceKept operation := by
  have nothing : ChoiceKept head := ⟨by rw [zero]; decide, by simp [noId]⟩
  cases kind with
  | setFloat =>
    obtain ⟨number, -, same⟩ := bind_eq_ok.mp parsed
    obtain rfl := Except.ok.inj same
    exact ⟨rfl, by simp [noChoice], by simp [noBool], ⟨nothing.value, nothing.choiceId⟩⟩
  | setChoice =>
    simp only [parseValue] at parsed
    split at parsed
    · rename_i choiceValue written
      obtain rfl := Except.ok.inj parsed
      refine ⟨rfl, by simp, by simp [noBool], ⟨toGint_bounds choiceValue, ?_⟩⟩
      intro choiceId given
      dsimp only at given
      split at given
      · rename_i text _
        split_ifs at given with absent
        obtain rfl := Option.some.inj given
        exact ⟨absent, cString_nulFree text⟩
      · cases given
    · cases parsed
  | setBool =>
    simp only [parseValue] at parsed
    split at parsed
    · obtain rfl := Except.ok.inj parsed
      exact ⟨rfl, by simp [noChoice], by simp, ⟨nothing.value, nothing.choiceId⟩⟩
    · cases parsed

theorem parseOperation_ready {entry : JsonObject} {operation : ChatOperation ℚ}
    (parsed : parseOperation entry = .ok operation) : OperationReady operation := by
  simp only [parseOperation, bind_eq_ok, guard_eq_ok] at parsed
  obtain ⟨operationId, isId, kindName, isKind, isKnown, parsed⟩ := parsed
  split at parsed
  · rename_i target value hasTarget hasValue
    simp only [bind_eq_ok, guard_eq_ok] at parsed
    obtain ⟨⟨targetType, actionPath, settingId⟩, isTarget, isAction, modeName, -, isMode, parsed⟩ := parsed
    obtain ⟨typeText, pathText, settingText⟩ := parseTarget_cTexts isTarget
    obtain ⟨kind, known⟩ := Option.ne_none_iff_exists'.mp fun none => isKnown (Option.isNone_iff_eq_none.mpr none)
    rw [known] at parsed
    obtain ⟨same, choice, bool, kept⟩ := parseValue_ready parsed rfl rfl rfl rfl
    have texts := requireStringMember_cText isKind
    have action : targetType = darktableAction := not_not.mp isAction
    rw [← same]
    constructor
    case texts =>
      simp only [List.forall_mem_cons]
      exact ⟨requireStringMember_cText isId, texts, typeText, pathText, settingText, List.forall_mem_nil _⟩
    case sequence =>
      dsimp only
      split
      · exact toGint_bounds _
      · exact ⟨by decide, by decide⟩
    case kind => exact ⟨kind, rfl, operationKindFromString_some known⟩
    case status => rfl
    case targetType => exact action
    case mode => exact Option.ne_none_iff_isSome.mp fun none => isMode (Option.isNone_iff_eq_none.mpr none)
    case choice => exact choice.trans (by simp)
    case bool => exact bool.trans (by simp)
    case kept => exact ⟨kept.value, kept.choiceId⟩
  · cases parsed
  · cases parsed
  · cases parsed

end Operations

section Responses

variable {object : JsonObject} {response : ChatResponse ℚ}

/-- An ok response has a plan and no error, an error response has an error and nothing else. -/
inductive Outcome (response : ChatResponse ℚ) : Prop where
  | ok (status : response.status = "ok") (noCode : response.errorCode = none) (noMessage : response.errorMessage = none)
    (planned : ∃ planId revision, response.planId = some planId ∧ response.baseImageRevisionId = some revision ∧
      CText planId ∧ CText revision)
  | error (status : response.status = "error") (detailed : ∃ code message, response.errorCode = some code ∧
      response.errorMessage = some message ∧ CText code ∧ CText message)
    (noPlan : response.planId = none ∧ response.baseImageRevisionId = none ∧ response.operations = [])
    (final : response.refinementContinue = false)

structure ResponseWellFormed (response : ChatResponse ℚ) : Prop where
  version : response.schemaVersion = schemaVersion
  texts : ∀ text ∈ [response.requestId, response.appSessionId, response.imageSessionId, response.conversationId,
    response.turnId, response.messageText], CText text
  role : response.messageRole = "assistant"
  passes : PassesInOrder response.refinementMode response.refinementPassIndex response.refinementMaxPasses
  operations : ∀ operation ∈ response.operations, OperationReady operation
  outcome : Outcome response

theorem parsePlan_cTexts {plan : ParsedPlan} (parsed : parsePlan object = .ok plan) :
    ∃ planId revision, plan.planId = some planId ∧ plan.baseImageRevisionId = some revision ∧
      CText planId ∧ CText revision := by
  simp only [parsePlan, bind_eq_ok] at parsed
  obtain ⟨members, -, planId, isPlan, revision, isRevision, parsed⟩ := parsed
  split at parsed
  · cases parsed
  · obtain ⟨operations, -, same⟩ := bind_eq_ok.mp parsed
    obtain rfl := Except.ok.inj same
    exact ⟨planId, revision, rfl, rfl, requireStringMember_cText isPlan, requireStringMember_cText isRevision⟩
  · cases parsed

theorem operations_ready (parsed : chatResponseParseData (.obj object) = .ok response) :
    ∀ operation ∈ response.operations, OperationReady operation := by
  rcases chatResponseParseData_operations parsed with ⟨-, none⟩ | ⟨-, plan, items, -, -, read⟩
  · intro operation member
    rw [none] at member
    exact absurd member List.not_mem_nil
  · intro operation member
    have entries := (parseOperations_related read).flip
    obtain ⟨item, -, entry, -, parsedEntry⟩ := exists_related entries operation member
    exact parseOperation_ready parsedEntry

/-- Whatever document is accepted, the response is well-formed. -/
theorem accepted_wellFormed {document : Json} (accepted : chatResponseParseData document = .ok response) :
    ResponseWellFormed response := by
  cases document with
  | obj object =>
    have ready := operations_ready accepted
    simp only [chatResponseParseData, bind_eq_ok, guard_eq_ok] at accepted
    obtain ⟨version, -, requestId, isRequest, ⟨app, image, conversation, turn⟩, isSession, status, -,
      ⟨role, text⟩, isMessage, ⟨code, message⟩, isError, isVersion, isStatus, isRole, needsDetails, refusesDetails,
      refinement, isRefinement, rest⟩ := accepted
    obtain ⟨appText, imageText, conversationText, turnText⟩ := parseSession_cTexts isSession
    obtain ⟨-, messageText⟩ := parseMessage_cTexts isMessage
    obtain ⟨inOrder, unasked⟩ := parseRefinement_inOrder isRefinement
    obtain ⟨requestText, knownVersion⟩ := And.intro (requireStringMember_cText isRequest) (not_not.mp isVersion)
    have texts : ∀ given ∈ [requestId, app, image, conversation, turn, text], CText given := by
      simp only [List.forall_mem_cons]
      exact ⟨requestText, appText, imageText, conversationText, turnText, messageText,
        List.forall_mem_nil _⟩
    split_ifs at rest with ok
    · obtain ⟨plan, isPlan, same⟩ := bind_eq_ok.mp rest
      obtain rfl := Except.ok.inj same
      refine ⟨knownVersion, texts, not_not.mp isRole, inOrder, ready, .ok ok ?_ ?_ (parsePlan_cTexts isPlan)⟩
      · exact Option.not_isSome_iff_eq_none.mp fun given => refusesDetails ⟨ok, .inl given⟩
      · exact Option.not_isSome_iff_eq_none.mp fun given => refusesDetails ⟨ok, .inr given⟩
    · obtain ⟨plan, noPlan, same⟩ := bind_eq_ok.mp rest
      obtain rfl := Except.ok.inj noPlan
      obtain rfl := Except.ok.inj same
      have failed : status = "error" := by simpa [ok] using isStatus
      refine ⟨knownVersion, texts, not_not.mp isRole, inOrder, ready, .error failed ?_ ⟨rfl, rfl, rfl⟩ ?_⟩
      · rcases parseError_cTexts isError with ⟨rfl, rfl⟩ | ⟨known, detail, rfl, rfl, both⟩
        · exact absurd ⟨failed, .inl rfl⟩ needsDetails
        · exact ⟨known, detail, rfl, rfl, both⟩
      · exact unasked (decide_eq_false ok)
  | _ => cases accepted

/-- The response inside a snapshot went through the parser of responses. -/
theorem parseProgressPayload_wellFormed {request : ClientRequest} {document : Json} {progress : ClientProgress ℚ}
    (accepted : parseProgressPayload request document = .ok progress) {response : ChatResponse ℚ}
    (answered : progress.response = some response) : ResponseWellFormed response := by
  cases document with
  | obj object =>
    obtain ⟨inner, parsed, same⟩ : ∃ inner : Option (ChatResponse ℚ), (inner = none ∨
        (chatResponseParseData (buildProgressResponseJson request (object.lookup "operations"))).map some = .ok inner) ∧
          progress.response = inner := by
      unfold parseProgressPayload at accepted
      dsimp only at accepted
      split at accepted
      case h_3 => cases accepted
      all_goals
        by_cases found : optionalBool object "found"
        · rw [if_pos found] at accepted
          obtain ⟨inner, parsed, same⟩ := bind_eq_ok.mp accepted
          exact ⟨inner, .inr parsed, by rw [← Except.ok.inj same]⟩
        · rw [if_neg found] at accepted
          obtain ⟨inner, none, same⟩ := bind_eq_ok.mp accepted
          exact ⟨inner, .inl (Except.ok.inj none).symm, by rw [← Except.ok.inj same]⟩
    rw [answered] at same
    rw [← same] at parsed
    rcases parsed with none | parsed
    · cases none
    · cases read : chatResponseParseData (buildProgressResponseJson request (object.lookup "operations")) with
      | error complaint => simp [read, Except.map] at parsed
      | ok found =>
        rw [read] at parsed
        obtain rfl := Option.some.inj (Except.ok.inj parsed)
        exact accepted_wellFormed read
  | _ => cases accepted

end Responses

end DarktableAgent.Protocol
