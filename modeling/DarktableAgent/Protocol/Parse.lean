import DarktableAgent.Protocol.Response

/-! The client's reading of chat results.

The parser looks members up by name, one required member after the other, and
stops at the first complaint. Strings it keeps are C strings: they end at the
first NUL. Integers are narrowed to the C types of the fields they fill.
-/

set_option autoImplicit false

namespace DarktableAgent.Protocol

open Foundation

/-- A parsed operation; numbers are of type `ν`. The enumerations' UNKNOWN members are `none`. -/
structure ChatOperation (ν : Type) where
  operationId : String
  sequence : Int
  kind : Option OperationKind
  kindName : String
  status : String
  targetType : String
  actionPath : String
  settingId : String
  valueMode : Option OperationMode
  number : ν
  hasChoiceValue : Bool
  choiceValue : Int
  choiceId : Option String
  hasBoolValue : Bool
  boolValue : Bool
  deriving DecidableEq, Repr

structure ChatResponse (ν : Type) where
  schemaVersion : String
  requestId : String
  appSessionId : String
  imageSessionId : String
  conversationId : String
  turnId : String
  planId : Option String
  baseImageRevisionId : Option String
  status : String
  messageRole : String
  messageText : String
  operations : List (ChatOperation ν)
  refinementMode : Option RefinementMode
  refinementEnabled : Bool
  refinementPassIndex : Nat
  refinementMaxPasses : Nat
  refinementContinue : Bool
  refinementStopReason : Option String
  errorCode : Option String
  errorMessage : Option String
  deriving DecidableEq, Repr

structure ClientProgress (ν : Type) where
  transportError : Option String := none
  cancelled : Bool := false
  found : Bool := false
  response : Option (ChatResponse ν) := none
  status : Option String := none
  message : Option String := none
  lastToolName : Option String := none
  toolCallsUsed : Nat := 0
  toolCallsMax : Nat := 0
  appliedOperationCount : Nat := 0
  requiresRenderCallback : Bool := false
  deriving DecidableEq, Repr

def cString (text : String) : String := String.ofList (text.toList.takeWhile (· ≠ '\x00'))

/-- `(guint)value` -/
def toGuint (value : Int) : Nat := (value % 2 ^ 32).toNat

/-- `(gint)value` -/
def toGint (value : Int) : Int := Int.bmod value (2 ^ 32)

abbrev Parse := Except String

variable (object : JsonObject) (member : String)

def requireMember : Parse Json :=
  match object.lookup member with
  | none => .error ("missing required member '" ++ member ++ "'")
  | some node => .ok node

def requireStringMember : Parse String := do
  match ← requireMember object member with
  | .str value =>
    if cString value = "" then .error ("member '" ++ member ++ "' must not be empty")
    else .ok (cString value)
  | _ => .error ("member '" ++ member ++ "' must be a string")

def requireNumberMember : Parse ℚ := do
  match ← requireMember object member with
  | .real value => .ok value
  | _ => .error ("member '" ++ member ++ "' must be numeric")

def requireUintMember : Parse Nat := do
  match ← requireMember object member with
  | .int value =>
    if value < 0 then .error ("member '" ++ member ++ "' must be >= 0") else .ok (toGuint value)
  | _ => .error ("member '" ++ member ++ "' must be an integer")

def requireBooleanMember : Parse Bool := do
  match ← requireMember object member with
  | .bool value => .ok value
  | _ => .error ("member '" ++ member ++ "' must be a boolean")

def requireObjectMember : Parse JsonObject := do
  match ← requireMember object member with
  | .obj members => .ok members
  | _ => .error ("member '" ++ member ++ "' must be an object")

def parseOptionalStringMember : Parse (Option String) :=
  match object.lookup member with
  | none | some .null => .ok none
  | some (.str value) => .ok (some (cString value))
  | some _ => .error ("member '" ++ member ++ "' must be a string or null")

def parseMessage : Parse (String × String) := do
  let message ← requireObjectMember object member
  return (← requireStringMember message "role", ← requireStringMember message "text")

def operationKindFromString (name : String) : Option OperationKind :=
  if name = "set-float" then some .setFloat
  else if name = "set-choice" then some .setChoice
  else if name = "set-bool" then some .setBool
  else none

def valueModeFromString (name : String) : Option OperationMode :=
  if name = "set" then some .set else if name = "delta" then some .delta else none

def refinementModeFromString (name : String) : Option RefinementMode :=
  if name = "single-turn" then some .singleTurn
  else if name = "multi-turn" then some .multiTurn
  else none

structure ParsedRefinement where
  mode : Option RefinementMode
  enabled : Bool
  passIndex : Nat
  maxPasses : Nat
  continueRefining : Bool
  stopReason : Option String

def parseRefinement (requireContinueMember : Bool) : Parse ParsedRefinement := do
  let refinement ← requireObjectMember object member
  let modeName ← requireStringMember refinement "mode"
  let enabled ← requireBooleanMember refinement "enabled"
  let passIndex ← requireUintMember refinement "passIndex"
  let maxPasses ← requireUintMember refinement "maxPasses"
  let continueRefining ←
    if requireContinueMember then requireBooleanMember refinement "continueRefining" else .ok false
  let stopReason ← parseOptionalStringMember refinement "stopReason"
  if (refinementModeFromString modeName).isNone then
    .error ("unsupported refinement mode '" ++ modeName ++ "'")
  else if passIndex = 0 ∨ maxPasses = 0 ∨ maxPasses < passIndex then
    .error "refinement passIndex/maxPasses must satisfy 1 <= passIndex <= maxPasses"
  else
    return ⟨refinementModeFromString modeName, enabled, passIndex, maxPasses, continueRefining, stopReason⟩

def parseError : Parse (Option String × Option String) :=
  match object.lookup "error" with
  | none => .error "missing required member 'error'"
  | some .null => .ok (none, none)
  | some (.obj error) => do
    return (some (← requireStringMember error "code"), some (← requireStringMember error "message"))
  | some _ => .error "member 'error' must be an object or null"

def parseSession : Parse (String × String × String × String) := do
  let session ← requireObjectMember object "session"
  return (← requireStringMember session "appSessionId", ← requireStringMember session "imageSessionId",
    ← requireStringMember session "conversationId", ← requireStringMember session "turnId")

/-- The members of a target and value object that `_parse_operation` requires. -/
def parseTarget (target : JsonObject) : Parse (String × String × String) := do
  return (← requireStringMember target "type", ← requireStringMember target "actionPath",
    ← requireStringMember target "settingId")

/-- The value members that the kind of an operation calls for. -/
def parseValue (kind : Option OperationKind) (value : JsonObject) (operation : ChatOperation ℚ) :
    Parse (ChatOperation ℚ) :=
  match kind with
  | some .setFloat => do return { operation with number := ← requireNumberMember value "number" }
  | some .setChoice =>
    match value.lookup "choiceValue" with
    | some (.int choiceValue) =>
      let choiceId := match value.lookup "choiceId" with
        | some (.str text) => if cString text = "" then none else some (cString text)
        | _ => none
      .ok { operation with hasChoiceValue := true, choiceValue := toGint choiceValue, choiceId }
    | _ => .error "choice operations require integer choiceValue"
  | some .setBool =>
    match value.lookup "boolValue" with
    | some (.bool boolValue) => .ok { operation with hasBoolValue := true, boolValue }
    | _ => .error "bool operations require boolean boolValue"
  | none => .ok operation

def parseOperation : Parse (ChatOperation ℚ) := do
  let operationId ← requireStringMember object "operationId"
  let kindName ← requireStringMember object "kind"
  let kind := operationKindFromString kindName
  if kind.isNone then throw ("unsupported operation kind '" ++ kindName ++ "'")
  match object.lookup "target", object.lookup "value" with
  | some (.obj target), some (.obj value) => do
    let (targetType, actionPath, settingId) ← parseTarget target
    if targetType ≠ darktableAction then throw ("unsupported target type '" ++ targetType ++ "'")
    let valueMode := valueModeFromString (← requireStringMember value "mode")
    -- a sequence of another type is passed over, it is not an error
    let sequence := match object.lookup "sequence" with
      | some (.int sequence) => toGint sequence
      | _ => 0
    if valueMode.isNone then throw "unsupported value mode"
    parseValue kind value {
      operationId, sequence, kind, kindName, status := "planned", targetType, actionPath, settingId, valueMode
      number := 0
      hasChoiceValue := false
      choiceValue := 0
      choiceId := none
      hasBoolValue := false
      boolValue := false }
  | none, _ | _, none => .error "operation must include target and value objects"
  | some _, some _ => .error "operation target and value must be objects"

/-- The operations of a plan. An entry that is no object is reported with its position. -/
def parseOperations : Nat → List Json → Parse (List (ChatOperation ℚ))
  | _, [] => .ok []
  | index, .obj operation :: rest => do
    let first ← parseOperation operation
    return first :: (← parseOperations (index + 1) rest)
  | index, _ :: _ => .error ("operation " ++ toString index ++ " must be an object")

structure ParsedPlan where
  planId : Option String
  baseImageRevisionId : Option String
  operations : List (ChatOperation ℚ)

def parsePlan : Parse ParsedPlan := do
  let plan ← requireObjectMember object "plan"
  let planId ← requireStringMember plan "planId"
  let baseImageRevisionId ← requireStringMember plan "baseImageRevisionId"
  match plan.lookup "operations" with
  | none => .error "plan must include operations"
  | some (.arr operations) =>
    return ⟨some planId, some baseImageRevisionId, ← parseOperations 0 operations⟩
  | some _ => .error "plan operations must be an array"

/-- `dt_agent_chat_response_parse_data` on a document that the JSON library has loaded. -/
def chatResponseParseData : Json → Parse (ChatResponse ℚ)
  | .obj object => do
    let schemaVersion' ← requireStringMember object "schemaVersion"
    let requestId ← requireStringMember object "requestId"
    let (appSessionId, imageSessionId, conversationId, turnId) ← parseSession object
    let status ← requireStringMember object "status"
    let (messageRole, messageText) ← parseMessage object "assistantMessage"
    let (errorCode, errorMessage) ← parseError object
    if schemaVersion' ≠ schemaVersion then throw ("unsupported schemaVersion '" ++ schemaVersion' ++ "'")
    if status ∉ ["ok", "error"] then throw ("unsupported response status '" ++ status ++ "'")
    if messageRole ≠ "assistant" then throw "response message role must be 'assistant'"
    if status = "error" ∧ (errorCode.isNone ∨ errorMessage.isNone) then
      throw "error responses require error details"
    if status = "ok" ∧ (errorCode.isSome ∨ errorMessage.isSome) then
      throw "ok responses must not include error details"
    let refinement ← parseRefinement object "refinement" (status = "ok")
    let plan ← if status = "ok" then parsePlan object else .ok ⟨none, none, []⟩
    return {
      schemaVersion := schemaVersion', requestId, appSessionId, imageSessionId, conversationId, turnId
      planId := plan.planId
      baseImageRevisionId := plan.baseImageRevisionId
      status, messageRole, messageText
      operations := plan.operations
      refinementMode := refinement.mode
      refinementEnabled := refinement.enabled
      refinementPassIndex := refinement.passIndex
      refinementMaxPasses := refinement.maxPasses
      refinementContinue := refinement.continueRefining
      refinementStopReason := refinement.stopReason
      errorCode, errorMessage }
  | _ => .error "response root must be an object"

/-- The identifiers the client keeps with a running request. -/
structure ClientRequest where
  requestId : Option String
  appSessionId : Option String
  imageSessionId : Option String
  conversationId : Option String
  turnId : Option String
  deriving DecidableEq, Repr

/-- The operations of a progress payload, wrapped into a response of its own. -/
def buildProgressResponseJson (request : ClientRequest) (operationsNode : Option Json) : Json :=
  .obj [
    ("schemaVersion", .str schemaVersion),
    ("requestId", .str (request.requestId.getD "progress")),
    ("session", .obj [
      ("appSessionId", .str (request.appSessionId.getD "app")),
      ("imageSessionId", .str (request.imageSessionId.getD "image")),
      ("conversationId", .str (request.conversationId.getD "conversation")),
      ("turnId", .str (request.turnId.getD "turn"))]),
    ("status", .str "ok"),
    ("assistantMessage", .obj [("role", .str "assistant"), ("text", .str "Live progress update.")]),
    ("refinement", .obj [("mode", .str "multi-turn"), ("enabled", .bool true), ("passIndex", .int 1),
      ("maxPasses", .int 1), ("continueRefining", .bool false), ("stopReason", .str "continue")]),
    ("plan", .obj [
      ("planId", .str "live-progress"),
      ("baseImageRevisionId", .str "live-progress"),
      ("operations", match operationsNode with | some (.arr operations) => .arr operations | _ => .arr [])]),
    ("operationResults", .arr []),
    ("error", .null)]

def optionalStr (object : JsonObject) (member : String) : Option String :=
  match object.lookup member with
  | some (.str value) => some (cString value)
  | _ => none

def optionalBool (object : JsonObject) (member : String) : Bool :=
  match object.lookup member with
  | some (.bool value) => value
  | _ => false

def optionalCount (object : JsonObject) (member : String) : Nat :=
  match object.lookup member with
  | some (.int value) => toGuint (max 0 value)
  | _ => 0

/-- `_parse_progress_payload`: optional members are passed over when they have another type. -/
def parseProgressPayload (request : ClientRequest) : Json → Parse (ClientProgress ℚ)
  | .obj object => do
    let operationsNode := object.lookup "operations"
    match operationsNode with
    | none | some (.arr _) => pure ()
    | some _ => throw "progress response operations must be an array"
    let found := optionalBool object "found"
    let reported := optionalCount object "appliedOperationCount"
    let response ←
      if found then (chatResponseParseData (buildProgressResponseJson request operationsNode)).map some
      else .ok none
    let status := optionalStr object "status"
    return {
      cancelled := status == some "cancelled"
      found, response, status
      message := optionalStr object "message"
      lastToolName := optionalStr object "lastToolName"
      toolCallsUsed := optionalCount object "toolCallsUsed"
      toolCallsMax := optionalCount object "maxToolCalls"
      appliedOperationCount :=
        match response with
        | some response => if reported = 0 then response.operations.length else reported
        | none => reported
      requiresRenderCallback := optionalBool object "requiresRenderCallback" }
  | _ => .error "progress response root must be an object"

end DarktableAgent.Protocol
