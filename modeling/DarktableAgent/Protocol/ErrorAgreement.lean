import DarktableAgent.Protocol.WellFormed

/-! Error responses are read back by the client.

The parser keeps the code and the message of an error, and asks for no plan and no
wish to continue. Ids may be absent from what the server received, so an error can
come back with ids that the parser does not take.
-/

set_option autoImplicit false

namespace DarktableAgent.Protocol

open Foundation

/-- A refinement status reads back without its wish to continue, which is not asked for in an error. -/
theorem parseRefinement_unasked {object : JsonObject} {refinement : RefinementStatus}
    (found : object.lookup "refinement" = some (.obj refinement.members))
    (ordered : refinement.passIndex ≤ refinement.maxPasses) (fits : refinement.maxPasses < 2 ^ 32) :
    parseRefinement object "refinement" false = .ok {
      mode := some refinement.mode
      enabled := refinement.enabled
      passIndex := toGuint refinement.passIndex
      maxPasses := toGuint refinement.maxPasses
      continueRefining := false
      stopReason := some refinement.stopReason.name } := by
  have modeText := refinement.mode.name_plain
  have passIndexPositive := refinement.passIndexPositive
  have maxPassesPositive := refinement.maxPassesPositive
  have passIndex := toGuint_of_fits refinement.passIndex (by omega) (by omega)
  have maxPasses := toGuint_of_fits refinement.maxPasses (by omega) fits
  have inRange : ¬ (toGuint refinement.passIndex = 0 ∨ toGuint refinement.maxPasses = 0 ∨
      toGuint refinement.maxPasses < toGuint refinement.passIndex) := by omega
  have members : requireObjectMember object "refinement" = .ok refinement.members :=
    requireObjectMember_found _ _ found
  have modeRead := requireStringMember_found refinement.members "mode" _ rfl modeText.1 modeText.2
  have enabledRead := requireBooleanMember_found refinement.members "enabled" rfl
  have passIndexRead := requireUintMember_found refinement.members "passIndex" rfl (by omega)
  have maxPassesRead := requireUintMember_found refinement.members "maxPasses" rfl (by omega)
  have reasonRead := parseOptionalStringMember_found refinement.members "stopReason" rfl refinement.stopReason.name_plain
  simp only [parseRefinement, members, modeRead, enabledRead, passIndexRead, maxPassesRead,
    reasonRead, refinementModeFromString_name, inRange, bind, Except.bind, pure, Except.pure, if_false,
    Option.isNone_some, Bool.false_eq_true]

/-- What a response says when it reports an error. -/
structure ReportsError (response : ResponseEnvelope) (error : ErrorInfo) : Prop where
  status : response.status = .error
  plan : response.plan = none
  error : response.error = some error

/-- What the builder of error responses puts into one. -/
theorem buildErrorPayload_eq_ok {requestId code : String} {message : PyJson} {session : ResponseSession}
    {refinement : Option RefinementStatus} {response : ResponseEnvelope}
    (built : buildErrorPayload requestId session refinement code message = .ok response) :
    ∃ error : ErrorInfo, ReportsError response error ∧ error.code = code ∧ message.text? = some error.message ∧
      response.requestId = requestId ∧ response.session = session ∧ response.assistantMessage.text = error.message ∧
      response.refinement = refinement.getD defaultErrorRefinement := by
  obtain ⟨codePresent, textPresent⟩ := (buildErrorPayload_isOk requestId session refinement code message).mp
    ⟨response, built⟩
  unfold buildErrorPayload requireText at built
  obtain ⟨text, present, given, asText⟩ | ⟨absent, -⟩ := requireTextValue_cases "text" message
  · obtain ⟨again, presentAgain, givenAgain, asMessage⟩ | ⟨absent, -⟩ := requireTextValue_cases "message" message
    · obtain rfl := Option.some.inj (given.symm.trans givenAgain)
      simp only [ne_eq, asText, asMessage, codePresent, not_false_eq_true, dite_true, bind, Except.bind, pure,
        Except.pure, Except.ok.injEq] at built
      subst built
      exact ⟨⟨code, text, codePresent, present⟩, ⟨rfl, rfl, rfl⟩, rfl, given, rfl, rfl, rfl, rfl⟩
    · exact absurd absent textPresent
  · exact absurd absent textPresent

/-- The ids of a response, which need not be there when the request could not be read. -/
def ResponseEnvelope.ids (response : ResponseEnvelope) : List String :=
  [response.requestId, response.session.appSessionId, response.session.imageSessionId,
    response.session.conversationId, response.session.turnId]

/-- An error response without NUL, with passes that fit the client's fields. -/
structure ErrorFits (response : ResponseEnvelope) (error : ErrorInfo) : Prop where
  reports : ReportsError response error
  ids : ∀ id ∈ response.ids, NulFree id
  messageText : NulFree response.assistantMessage.text
  code : NulFree error.code
  message : NulFree error.message
  ordered : response.refinement.passIndex ≤ response.refinement.maxPasses
  maxPasses : response.refinement.maxPasses < 2 ^ 32
  final : response.refinement.continueRefining = false

section Read

variable {response : ResponseEnvelope} {error : ErrorInfo}

/-- The response that the client fills in. -/
def errorRead (response : ResponseEnvelope) (error : ErrorInfo) : ChatResponse ℚ where
  schemaVersion := schemaVersion
  requestId := response.requestId
  appSessionId := response.session.appSessionId
  imageSessionId := response.session.imageSessionId
  conversationId := response.session.conversationId
  turnId := response.session.turnId
  planId := none
  baseImageRevisionId := none
  status := "error"
  messageRole := "assistant"
  messageText := response.assistantMessage.text
  operations := []
  refinementMode := some response.refinement.mode
  refinementEnabled := response.refinement.enabled
  refinementPassIndex := toGuint response.refinement.passIndex
  refinementMaxPasses := toGuint response.refinement.maxPasses
  refinementContinue := false
  refinementStopReason := some response.refinement.stopReason.name
  errorCode := some error.code
  errorMessage := some error.message

theorem errorRead_agrees (fits : ErrorFits response error) : ResponseAgrees response (errorRead response error) := by
  have passIndexPositive := response.refinement.passIndexPositive
  have maxPassesPositive := response.refinement.maxPassesPositive
  have ordered := fits.ordered
  have passIndex := toGuint_of_fits response.refinement.passIndex (by omega)
    (lt_of_le_of_lt ordered fits.maxPasses)
  have maxPasses := toGuint_of_fits response.refinement.maxPasses (by omega) fits.maxPasses
  constructor
  case passIndex => exact passIndex
  case maxPasses => exact maxPasses
  case continueRefining => exact fits.final.symm
  case status => rw [fits.reports.status]; rfl
  case planId | baseImageRevisionId => rw [fits.reports.plan]; rfl
  case errorCode | errorMessage => rw [fits.reports.error]; rfl
  case operations => rw [fits.reports.plan]; exact .nil
  all_goals rfl

theorem parseError_members (fits : ErrorFits response error) :
    parseError response.members = .ok (some error.code, some error.message) := by
  have found : response.members.lookup "error" = some error.modelDump := by
    simp [ResponseEnvelope.members, lookup_cons_if, fits.reports.error, optionalJson]
  let members : JsonObject := [("code", .str error.code), ("message", .str error.message)]
  have code := requireStringMember_found members "code" _ rfl fits.code error.codePresent
  have message := requireStringMember_found members "message" _ rfl fits.message error.messagePresent
  have dump : error.modelDump = .obj members := rfl
  simp only [parseError, found, dump, code, message, bind, Except.bind, pure, Except.pure]

theorem chatResponseParseData_errorRead (fits : ErrorFits response error) (present : ∀ id ∈ response.ids, id ≠ "") :
    chatResponseParseData response.modelDump = .ok (errorRead response error) := by
  have texts := fits.ids
  simp only [ResponseEnvelope.ids, List.forall_mem_cons] at texts present
  obtain ⟨requestFree, appFree, imageFree, conversationFree, turnFree, -⟩ := texts
  obtain ⟨requestThere, appThere, imageThere, conversationThere, turnThere, -⟩ := present
  have version := requireStringMember_found response.members "schemaVersion" schemaVersion rfl
    (by unfold NulFree; decide) (by decide)
  have request := requireStringMember_found response.members "requestId" _ rfl requestFree requestThere
  have session : parseSession response.members = .ok (response.session.appSessionId, response.session.imageSessionId,
      response.session.conversationId, response.session.turnId) := by
    have members : requireObjectMember response.members "session" = .ok response.session.members :=
      requireObjectMember_found _ _ rfl
    have app := requireStringMember_found response.session.members "appSessionId" _ rfl appFree appThere
    have image := requireStringMember_found response.session.members "imageSessionId" _ rfl imageFree imageThere
    have conversation := requireStringMember_found response.session.members "conversationId" _ rfl conversationFree
      conversationThere
    have turn := requireStringMember_found response.session.members "turnId" _ rfl turnFree turnThere
    simp only [parseSession, members, app, image, conversation, turn, bind, Except.bind, pure, Except.pure]
  have status : requireStringMember response.members "status" = .ok "error" := by
    refine requireStringMember_found _ _ "error" ?_ (by unfold NulFree; decide) (by decide)
    simp [ResponseEnvelope.members, lookup_cons_if, fits.reports.status, ResponseStatus.name]
  have message : parseMessage response.members "assistantMessage" = .ok ("assistant", response.assistantMessage.text) := by
    let members : JsonObject := [("role", .str "assistant"), ("text", .str response.assistantMessage.text)]
    have found : requireObjectMember response.members "assistantMessage" = .ok members :=
      requireObjectMember_found _ _ rfl
    have role := requireStringMember_found members "role" "assistant" rfl (by unfold NulFree; decide) (by decide)
    have text := requireStringMember_found members "text" _ rfl fits.messageText response.assistantMessage.present
    simp only [parseMessage, found, role, text, bind, Except.bind, pure, Except.pure]
  have refinement : parseRefinement response.members "refinement" false = .ok _ :=
    parseRefinement_unasked rfl fits.ordered fits.maxPasses
  simp [ResponseEnvelope.modelDump, chatResponseParseData, version, request, session, status, message,
    parseError_members fits, refinement, bind, Except.bind, pure, Except.pure, errorRead]

/-- The client reads an error response back exactly when none of its ids is empty. -/
theorem error_readable_iff (fits : ErrorFits response error) :
    (∃ parsed, chatResponseParseData response.modelDump = .ok parsed ∧ ResponseAgrees response parsed) ↔
      ∀ id ∈ response.ids, id ≠ "" := by
  constructor
  · rintro ⟨parsed, accepted, agrees⟩
    have texts := (accepted_wellFormed accepted).texts
    simp only [List.forall_mem_cons, agrees.requestId, agrees.appSessionId, agrees.imageSessionId,
      agrees.conversationId, agrees.turnId] at texts
    obtain ⟨request, app, image, conversation, turn, -⟩ := texts
    simp only [ResponseEnvelope.ids, List.forall_mem_cons]
    exact ⟨request.1, app.1, image.1, conversation.1, turn.1, List.forall_mem_nil _⟩
  · intro present
    exact ⟨_, chatResponseParseData_errorRead fits present, errorRead_agrees fits⟩

end Read

section Refusal

/-- An entry of `exc.errors()`: where it is, if that is a tuple, and its message, if that is a text. -/
structure ErrorDetail where
  location : Option (List String)
  message : Option String

def ErrorDetail.part (detail : ErrorDetail) : Option String :=
  detail.message.map fun message => detail.location.elim "request" (String.intercalate "/") ++ ": " ++ message

end Refusal

end DarktableAgent.Protocol
