import DarktableAgent.Foundation.Reading
import DarktableAgent.Protocol.Agreement

/-! What an accepted chat result has stored, member by member.

The reader takes 64-bit integers from the document and stores them in 32-bit fields.
It rejects negative pass counts but compares nothing with the width of a field.
-/

set_option autoImplicit false

namespace DarktableAgent.Protocol

open Foundation

section Inversion

variable {object : JsonObject} {member : String}

theorem bind_eq_ok {α β : Type} {first : Parse α} {rest : α → Parse β} {value : β} :
    (first >>= rest) = .ok value ↔ ∃ found, first = .ok found ∧ rest found = .ok value := by
  cases first with
  | error message => simp [bind, Except.bind]
  | ok found => simp [bind, Except.bind]

theorem guard_eq_ok {α β : Type} {complaint : Prop} [Decidable complaint] {message : String} {jump : α → Parse β}
    {rest : Parse β} {value : β} :
    (if complaint then throw message >>= jump else rest) = .ok value ↔ ¬ complaint ∧ rest = .ok value := by
  split_ifs with complains
  · simp [complains, throw, throwThe, MonadExceptOf.throw, bind, Except.bind]
  · simp [complains]

theorem requireMember_ok {node : Json} : requireMember object member = .ok node ↔ object.lookup member = some node := by
  unfold requireMember
  cases object.lookup member <;> simp

theorem requireObjectMember_ok {members : JsonObject} :
    requireObjectMember object member = .ok members ↔ object.lookup member = some (.obj members) := by
  rw [requireObjectMember, bind_eq_ok]
  simp only [requireMember_ok]
  constructor
  · rintro ⟨node, found, isObject⟩
    cases node <;> simp_all
  · intro found
    exact ⟨_, found, rfl⟩

/-- An unsigned member is stored modulo the width of the field. -/
theorem requireUintMember_ok {stored : Nat} : requireUintMember object member = .ok stored ↔
    ∃ value, object.lookup member = some (.int value) ∧ 0 ≤ value ∧ stored = toGuint value := by
  rw [requireUintMember, bind_eq_ok]
  simp only [requireMember_ok]
  constructor
  · rintro ⟨node, found, isInteger⟩
    cases node with
    | int value =>
      simp only at isInteger
      split_ifs at isInteger with negative
      exact ⟨value, found, not_lt.mp negative, (Except.ok.inj isInteger).symm⟩
    | _ => simp at isInteger
  · rintro ⟨value, found, positive, rfl⟩
    refine ⟨_, found, ?_⟩
    simp only [if_neg (not_lt.mpr positive)]

/-- What an accepted document says about refinement, whatever else it says. -/
theorem chatResponseParseData_refinement {response : ChatResponse ℚ}
    (parsed : chatResponseParseData (.obj object) = .ok response) :
    requireStringMember object "status" = .ok response.status ∧
      ∃ refinement, parseRefinement object "refinement" (response.status = "ok") = .ok refinement ∧
        response.refinementMode = refinement.mode ∧ response.refinementEnabled = refinement.enabled ∧
        response.refinementPassIndex = refinement.passIndex ∧ response.refinementMaxPasses = refinement.maxPasses ∧
        response.refinementContinue = refinement.continueRefining ∧
        response.refinementStopReason = refinement.stopReason := by
  simp only [chatResponseParseData, bind_eq_ok, guard_eq_ok] at parsed
  obtain ⟨version, -, requestId, -, session, -, status, hasStatus, message, -, error, -, -, -, -, -, -, refinement,
    hasRefinement, rest⟩ := parsed
  split_ifs at rest with ok
  · obtain ⟨plan, -, same⟩ := bind_eq_ok.mp rest
    obtain rfl := Except.ok.inj same
    exact ⟨hasStatus, refinement, hasRefinement, rfl, rfl, rfl, rfl, rfl, rfl⟩
  · obtain ⟨plan, -, same⟩ := bind_eq_ok.mp rest
    obtain rfl := Except.ok.inj same
    exact ⟨hasStatus, refinement, hasRefinement, rfl, rfl, rfl, rfl, rfl, rfl⟩

/-- The operations of an accepted document are those of its plan; a document without success has none. -/
theorem chatResponseParseData_operations {response : ChatResponse ℚ}
    (parsed : chatResponseParseData (.obj object) = .ok response) :
    (response.status ≠ "ok" ∧ response.operations = []) ∨
      (response.status = "ok" ∧ ∃ plan items, object.lookup "plan" = some (.obj plan) ∧
        plan.lookup "operations" = some (.arr items) ∧ parseOperations 0 items = .ok response.operations) := by
  simp only [chatResponseParseData, bind_eq_ok, guard_eq_ok] at parsed
  obtain ⟨version, -, requestId, -, session, -, status, -, message, -, error, -, -, -, -, -, -, refinement, -,
    rest⟩ := parsed
  split_ifs at rest with ok
  · obtain ⟨parsedPlan, hasPlan, same⟩ := bind_eq_ok.mp rest
    obtain rfl := Except.ok.inj same
    simp only [parsePlan, bind_eq_ok, requireObjectMember_ok] at hasPlan
    obtain ⟨plan, inObject, planId, -, revision, -, operations⟩ := hasPlan
    split at operations
    · cases operations
    · obtain ⟨read, isRead, same⟩ := bind_eq_ok.mp operations
      obtain rfl := Except.ok.inj same
      exact .inr ⟨ok, plan, _, inObject, ‹_›, isRead⟩
    · cases operations
  · obtain ⟨plan, noPlan, same⟩ := bind_eq_ok.mp rest
    obtain rfl := Except.ok.inj noPlan
    obtain rfl := Except.ok.inj same
    exact .inl ⟨ok, rfl⟩

/-- Each operation of a plan is read from the entry at its place. -/
theorem parseOperations_related {items : List Json} {operations : List (ChatOperation ℚ)} {start : Nat}
    (parsed : parseOperations start items = .ok operations) :
    List.Forall₂ (fun item operation => ∃ entry, item = .obj entry ∧ parseOperation entry = .ok operation)
      items operations := by
  induction items generalizing start operations with
  | nil =>
    obtain rfl := Except.ok.inj parsed
    exact .nil
  | cons item rest ih =>
    cases item with
    | obj entry =>
      rw [parseOperations, bind_eq_ok] at parsed
      obtain ⟨first, isFirst, later⟩ := parsed
      obtain ⟨others, areOthers, same⟩ := bind_eq_ok.mp later
      obtain rfl := Except.ok.inj same
      exact .cons ⟨entry, rfl, isFirst⟩ (ih areOthers)
    | _ => simp [parseOperations] at parsed

end Inversion

section Fields

variable {value : Int}

theorem toGuint_eq_iff : (toGuint value : Int) = value ↔ 0 ≤ value ∧ value < 2 ^ 32 := by
  constructor
  · intro same
    unfold toGuint at same
    omega
  · rintro ⟨positive, fits⟩
    exact toGuint_of_fits value positive fits

theorem toGint_eq_iff : toGint value = value ↔ -2 ^ 31 ≤ value ∧ value < 2 ^ 31 := by
  constructor
  · intro same
    have above : -(2 ^ 32 : Int) ≤ 2 * toGint value := by
      have := Int.le_bmod (x := value) (m := 2 ^ 32) (by omega)
      unfold toGint
      omega
    have below : 2 * toGint value < 2 ^ 32 := by
      have := Int.bmod_lt (x := value) (m := 2 ^ 32) (by omega)
      unfold toGint
      omega
    omega
  · rintro ⟨lower, upper⟩
    exact toGint_of_fits lower upper

end Fields

section Written

variable (document : Json) (member : String)

/-- A text as the client keeps it. -/
def textOf : Option String := ((document.member? member).bind Json.str?).map cString

def integerOf : Option Int := (document.member? member).bind Json.int?

/-- The choice value that the entry of a choice operation writes. -/
def choiceValueOf (entry : Json) : Option Int :=
  if textOf entry "kind" = some OperationKind.setChoice.name then
    (entry.member? "value").bind (integerOf · "choiceValue")
  else none

end Written

/-- The integers of a chat result: two of its refinement status, and one of each choice operation of
a successful plan. -/
inductive IntegerPlace where
  | passIndex
  | maxPasses
  | choiceValue (index : Nat)
  deriving DecidableEq, Repr

namespace IntegerPlace

def written (document : Json) : IntegerPlace → Option Int
  | passIndex => (document.member? "refinement").bind (integerOf · "passIndex")
  | maxPasses => (document.member? "refinement").bind (integerOf · "maxPasses")
  | choiceValue index =>
    if textOf document "status" = some "ok" then do
      let plan ← document.member? "plan"
      let operations ← (← plan.member? "operations").items?
      choiceValueOf (← operations[index]?)
    else none

def stored (response : ChatResponse ℚ) : IntegerPlace → Option Int
  | passIndex => some response.refinementPassIndex
  | maxPasses => some response.refinementMaxPasses
  | choiceValue index =>
    response.operations[index]?.bind fun operation =>
      if operation.hasChoiceValue then some operation.choiceValue else none

/-- The narrowing store at a place: a `guint` or a `gint`. -/
def narrow (value : Int) : IntegerPlace → Int
  | passIndex | maxPasses => toGuint value
  | choiceValue _ => toGint value

/-- The values of the C field at a place. -/
def Fits (value : Int) : IntegerPlace → Prop
  | passIndex | maxPasses => 0 ≤ value ∧ value < 2 ^ 32
  | choiceValue _ => -2 ^ 31 ≤ value ∧ value < 2 ^ 31

theorem narrow_eq_iff (place : IntegerPlace) (value : Int) : place.narrow value = value ↔ place.Fits value := by
  cases place with
  | passIndex | maxPasses => exact toGuint_eq_iff
  | choiceValue index => exact toGint_eq_iff

end IntegerPlace

section Stored

variable {object : JsonObject} {response : ChatResponse ℚ}

theorem requireStringMember_ok {members : JsonObject} {member text : String}
    (found : requireStringMember members member = .ok text) : textOf (.obj members) member = some text := by
  rw [requireStringMember, bind_eq_ok] at found
  obtain ⟨node, isNode, isText⟩ := found
  rw [requireMember_ok] at isNode
  unfold textOf
  cases node with
  | str value =>
    simp only at isText
    split_ifs at isText
    simp [isNode, Except.ok.inj isText]
  | _ => simp at isText

theorem operationKindFromString_some {name : String} {kind : OperationKind}
    (found : operationKindFromString name = some kind) : name = kind.name := by
  unfold operationKindFromString at found
  split_ifs at found with float choice bool
  · exact Option.some.inj found ▸ float
  · exact Option.some.inj found ▸ choice
  · exact Option.some.inj found ▸ bool

theorem choiceValueOf_other {entry : Json} {kind : OperationKind} (text : textOf entry "kind" = some kind.name)
    (other : kind ≠ .setChoice) : choiceValueOf entry = none := by
  unfold choiceValueOf
  rw [text]
  cases kind with
  | setChoice => exact absurd rfl other
  | setFloat | setBool => exact if_neg (by decide)

/-- The choice value an operation holds is the narrowed one of its entry. -/
theorem parseOperation_choiceValue {entry : JsonObject} {operation : ChatOperation ℚ}
    (parsed : parseOperation entry = .ok operation) :
    (if operation.hasChoiceValue then some operation.choiceValue else none) =
      (choiceValueOf (.obj entry)).map toGint := by
  simp only [parseOperation, bind_eq_ok, guard_eq_ok] at parsed
  obtain ⟨operationId, -, kindName, isKind, isKnown, parsed⟩ := parsed
  have text := requireStringMember_ok isKind
  split at parsed
  · rename_i target value hasTarget hasValue
    simp only [bind_eq_ok, guard_eq_ok] at parsed
    obtain ⟨names, -, -, modeName, -, -, parsed⟩ := parsed
    cases kind : operationKindFromString kindName with
    | none => exact absurd (by rw [kind]; rfl) isKnown
    | some known =>
      rw [operationKindFromString_some kind] at text
      rw [kind] at parsed
      cases known with
      | setFloat =>
        obtain ⟨number, -, same⟩ := bind_eq_ok.mp parsed
        rw [choiceValueOf_other text (by decide), ← Except.ok.inj same]
        rfl
      | setChoice =>
        simp only [parseValue] at parsed
        split at parsed
        · rename_i choiceValue written
          rw [← Except.ok.inj parsed]
          simp [choiceValueOf, text, integerOf, hasValue, written]
        · cases parsed
      | setBool =>
        simp only [parseValue] at parsed
        split at parsed
        · rw [choiceValueOf_other text (by decide), ← Except.ok.inj parsed]
          rfl
        · cases parsed
  · cases parsed
  · cases parsed
  · cases parsed

/-- The refinement status of an accepted document holds the narrowed pass counts. -/
theorem parseRefinement_passes {requireContinueMember : Bool} {refinement : ParsedRefinement}
    (parsed : parseRefinement object "refinement" requireContinueMember = .ok refinement) :
    ∃ members passIndex maxPasses, object.lookup "refinement" = some (.obj members) ∧
      members.lookup "passIndex" = some (.int passIndex) ∧ refinement.passIndex = toGuint passIndex ∧
      members.lookup "maxPasses" = some (.int maxPasses) ∧ refinement.maxPasses = toGuint maxPasses := by
  unfold parseRefinement at parsed
  obtain ⟨members, found, parsed⟩ := bind_eq_ok.mp parsed
  obtain ⟨modeName, -, parsed⟩ := bind_eq_ok.mp parsed
  obtain ⟨enabled, -, parsed⟩ := bind_eq_ok.mp parsed
  obtain ⟨storedIndex, isIndex, parsed⟩ := bind_eq_ok.mp parsed
  obtain ⟨storedMax, isMax, parsed⟩ := bind_eq_ok.mp parsed
  obtain ⟨passIndex, writtenIndex, -, rfl⟩ := requireUintMember_ok.mp isIndex
  obtain ⟨maxPasses, writtenMax, -, rfl⟩ := requireUintMember_ok.mp isMax
  refine ⟨members, passIndex, maxPasses, requireObjectMember_ok.mp found, writtenIndex, ?_, writtenMax, ?_⟩
  -- whether or not the continue member is required, both counts are kept as they were narrowed
  all_goals
    cases requireContinueMember <;>
      simp only [Bool.false_eq_true, if_false, if_true, bind_eq_ok] at parsed <;>
      obtain ⟨continueRefining, -, stopReason, -, rest⟩ := parsed <;>
      split_ifs at rest <;>
      rw [← Except.ok.inj rest]

/-- What an accepted document has stored is what it writes, narrowed to the field. -/
theorem stored_eq_narrowed {document : Json} (accepted : chatResponseParseData document = .ok response)
    (place : IntegerPlace) : place.stored response = (place.written document).map place.narrow := by
  cases document with
  | obj object =>
    obtain ⟨status, refinement, isRefinement, -, -, samePass, sameMax, -, -⟩ :=
      chatResponseParseData_refinement accepted
    obtain ⟨members, passIndex, maxPasses, found, isIndex, index, isMax, max⟩ := parseRefinement_passes isRefinement
    cases place with
    | passIndex =>
      simp [IntegerPlace.stored, IntegerPlace.written, IntegerPlace.narrow, integerOf, found, isIndex, samePass, index]
    | maxPasses =>
      simp [IntegerPlace.stored, IntegerPlace.written, IntegerPlace.narrow, integerOf, found, isMax, sameMax, max]
    | choiceValue index =>
      have isStatus := requireStringMember_ok status
      rcases chatResponseParseData_operations accepted with ⟨failed, none⟩ | ⟨ok, plan, items, isPlan, areItems, parsed⟩
      · simp [IntegerPlace.stored, IntegerPlace.written, isStatus, failed, none]
      · rw [IntegerPlace.stored, IntegerPlace.written, isStatus, if_pos (by rw [ok])]
        simp only [Json.member?_obj, Json.items?_arr, isPlan, areItems, Option.bind_eq_bind, Option.bind_some]
        rcases related_at (parseOperations_related parsed) index with
          ⟨noItem, noOperation⟩ | ⟨item, operation, isItem, isOperation, entry, rfl, isRead⟩
        · rw [noItem, noOperation]
          rfl
        · rw [isItem, isOperation]
          exact parseOperation_choiceValue isRead
  | _ => cases accepted

/-- An accepted document is stored as it is written exactly when every integer in it fits its field. -/
theorem integers_survive {document : Json} (accepted : chatResponseParseData document = .ok response) :
    (∀ place : IntegerPlace, place.stored response = place.written document) ↔
      ∀ (place : IntegerPlace) (value : Int), place.written document = some value → place.Fits value := by
  simp only [stored_eq_narrowed accepted]
  constructor
  · intro same place value isWritten
    have narrowed := same place
    rw [isWritten, Option.map_some, Option.some.injEq] at narrowed
    exact (place.narrow_eq_iff value).mp narrowed
  · intro fits place
    cases isWritten : place.written document with
    | none => rfl
    | some value => rw [Option.map_some, (place.narrow_eq_iff value).mpr (fits place value isWritten)]

end Stored

/-! A result without operations, of pass 1 out of a given number. -/

def passesDocument (maxPasses : Int) : Json :=
  .obj [
    ("schemaVersion", .str schemaVersion),
    ("requestId", .str "req-1"),
    ("session", .obj [("appSessionId", .str "app-1"), ("imageSessionId", .str "image-1"),
      ("conversationId", .str "conversation-1"), ("turnId", .str "turn-1")]),
    ("status", .str "ok"),
    ("assistantMessage", .obj [("role", .str "assistant"), ("text", .str "Done.")]),
    ("refinement", .obj [("mode", .str "multi-turn"), ("enabled", .bool true), ("passIndex", .int 1),
      ("maxPasses", .int maxPasses), ("continueRefining", .bool false), ("stopReason", .null)]),
    ("plan", .obj [("planId", .str "plan-1"), ("baseImageRevisionId", .str "image-1-history-3-3"),
      ("operations", .arr [])]),
    ("error", .null)]

def passesResponse (maxPasses : Nat) : ChatResponse ℚ where
  schemaVersion := schemaVersion
  requestId := "req-1"
  appSessionId := "app-1"
  imageSessionId := "image-1"
  conversationId := "conversation-1"
  turnId := "turn-1"
  planId := some "plan-1"
  baseImageRevisionId := some "image-1-history-3-3"
  status := "ok"
  messageRole := "assistant"
  messageText := "Done."
  operations := []
  refinementMode := some .multiTurn
  refinementEnabled := true
  refinementPassIndex := 1
  refinementMaxPasses := maxPasses
  refinementContinue := false
  refinementStopReason := none
  errorCode := none
  errorMessage := none

theorem passesDocument_accepted : chatResponseParseData (passesDocument 3) = .ok (passesResponse 3) := by
  decide +kernel

theorem integers_survive_threePasses :
    (∀ place : IntegerPlace, place.stored (passesResponse 3) = place.written (passesDocument 3)) ↔
      ∀ (place : IntegerPlace) (value : Int), place.written (passesDocument 3) = some value → place.Fits value :=
  integers_survive passesDocument_accepted

/-- A maximum of `2 ^ 32 + 3` passes is accepted and stored as 3. -/
theorem passesDocument_narrowed :
    ¬ ∀ document response, chatResponseParseData document = .ok response →
      ∀ place : IntegerPlace, place.stored response = place.written document := by
  intro claimed
  have accepted : chatResponseParseData (passesDocument (2 ^ 32 + 3)) = .ok (passesResponse 3) := by
    decide +kernel
  have same := claimed _ _ accepted .maxPasses
  exact absurd same (by decide)

end DarktableAgent.Protocol
