import DarktableAgent.Server.Envelope
import DarktableAgent.Server.Registry

/-! The endpoint that takes cancellations.

A cancellation names a request by its own id and its four session ids. It is accepted before
the request has come, while it runs and after it has ended.
-/

set_option autoImplicit false

namespace DarktableAgent.Server

open Foundation Protocol

structure CancelRequestEnvelope where
  requestId : String
  session : RequestSession
  reason : Option String
  requestIdPresent : requestId ≠ ""

/-- `CancelRequestEnvelope`; other members are ignored. -/
def validateCancelRequest : Json → Option CancelRequestEnvelope
  | .obj object => do
    let requestId ← textMember object "requestId"
    let session ← requiredMember validateSession object "session"
    let reason ← optionalMember Json.str? object "reason"
    return ⟨requestId, session, reason, text_present requestId⟩
  | _ => none

def CancelRequestEnvelope.key (request : CancelRequestEnvelope) : CancelRequestKey :=
  ⟨request.requestId, request.session.appSessionId, request.session.imageSessionId, request.session.conversationId,
    request.session.turnId⟩

structure CancelResponseEnvelope where
  requestId : String
  canceled : Bool
  message : String
  deriving DecidableEq, Repr

/-- `cancel_chat`; the answer is the same whether the request runs or has yet to come, but for its message. -/
def cancelChat (bridge : BridgeState) (request : CancelRequestEnvelope) : BridgeState × CancelResponseEnvelope :=
  let (after, canceled) := bridge.cancelRequest request.key request.reason
  (after, {
    requestId := request.requestId
    canceled := true
    message :=
      if canceled then "Cancellation requested for the active chat turn"
      else "Cancellation recorded for this chat turn" })

namespace CancelRequestKey

/-- None of the five texts is empty. -/
def Present (key : CancelRequestKey) : Prop :=
  key.requestId ≠ "" ∧ key.appSessionId ≠ "" ∧ key.imageSessionId ≠ "" ∧ key.conversationId ≠ "" ∧ key.turnId ≠ ""

instance (key : CancelRequestKey) : Decidable key.Present := inferInstanceAs (Decidable (_ ∧ _))

end CancelRequestKey

theorem present_cancelKeyOf (request : RequestEnvelope) : (cancelKeyOf request).Present := by
  have present := request.session.present
  simp only [List.forall_mem_cons] at present
  obtain ⟨app, image, conversation, turn, -⟩ := present
  exact ⟨request.requestIdPresent, app, image, conversation, turn⟩

/-- A session object of four texts is accepted when none of them is empty. -/
theorem validateSession_obj (app image conversation turn : String) :
    validateSession (.obj [("appSessionId", .str app), ("imageSessionId", .str image),
      ("conversationId", .str conversation), ("turnId", .str turn)]) =
      if present : ∀ text ∈ [app, image, conversation, turn], text ≠ "" then
        some ⟨app, image, conversation, turn, present⟩
      else none := by
  rfl

namespace Registry

variable (registry : Registry)

/-- What a posted cancellation does. -/
def serveCancel (payload : Json) : Registry :=
  match validateCancelRequest payload with
  | some request => registryStep registry (.cancel request.key request.reason)
  | none => registry

variable {registry}

theorem known_step {event : RegistryEvent} {key : CancelRequestKey} (known : key ∈ (registryStep registry event).known) :
    key ∈ registry.known ∨ key = event.subject ∧ ∃ request, event = .register request := by
  cases event with
  | register request =>
    rcases List.mem_cons.mp known with own | older
    · exact .inr ⟨own, request, rfl⟩
    · exact .inl older
  | unregister | cancel | progress => exact .inl known

theorem arrived_step {event : RegistryEvent} {key : CancelRequestKey}
    (arrived : key ∈ (registryStep registry event).arrived) :
    key ∈ registry.arrived ∨ key = event.subject ∧ ∃ reason, event = .cancel key reason := by
  cases event with
  | cancel cancelled reason =>
    rcases List.mem_cons.mp arrived with own | older
    · exact .inr ⟨own, reason, by rw [own]⟩
    · exact .inl older
  | register | unregister | progress => exact .inl arrived

/-- What has arrived stays noted. -/
theorem arrived_of_step (event : RegistryEvent) {key : CancelRequestKey} (arrived : key ∈ registry.arrived) :
    key ∈ (registryStep registry event).arrived := by
  cases event with
  | cancel cancelled reason => exact List.mem_cons_of_mem _ arrived
  | register | unregister | progress => exact arrived

/-- A plan that is held was held before, or has just been registered. -/
theorem held_step {event : RegistryEvent} {key : CancelRequestKey}
    (held : ((registryStep registry event).held.get? key).isSome) :
    (registry.held.get? key).isSome ∨ key = event.subject := by
  by_cases same : key = event.subject
  · exact .inr same
  · rw [held_of_other same] at held
    exact .inl held

/-- The endpoint does what the registry does, and its answer tells whether the plan is running. -/
theorem cancelChat_answers (consistent : registry.Consistent fun _ => True) {payload : Json}
    {request : CancelRequestEnvelope} (accepted : validateCancelRequest payload = some request) :
    cancelChat registry.bridge request = ((registry.serveCancel payload).bridge, {
      requestId := request.requestId
      canceled := true
      message :=
        if (registry.held.get? request.key).isSome then "Cancellation requested for the active chat turn"
        else "Cancellation recorded for this chat turn" }) := by
  have serves : (registry.serveCancel payload).bridge =
      (registry.bridge.cancelRequest request.key request.reason).1 := by
    unfold serveCancel
    rw [accepted]
    rfl
  have matched : (registry.bridge.cancelRequest request.key request.reason).2 =
      (registry.held.get? request.key).isSome := by
    rcases cancelRequest_cases registry.bridge request.key request.reason with
      ⟨active, changed, found, isKey, -, -, isMatched, -⟩ | ⟨absent, unmatched, -⟩
    · have held := consistent.running _ active trivial found
      rw [isMatched, ← isKey, held]
    · rw [unmatched]
      symm
      rw [Bool.eq_false_iff]
      intro held
      obtain ⟨flag, isHeld⟩ := Option.isSome_iff_exists.mp held
      obtain ⟨active, found, isKey, -⟩ := consistent.recorded _ flag trivial isHeld
      exact absent active found isKey
  rw [serves, ← matched]
  rfl

end Registry

end DarktableAgent.Server
