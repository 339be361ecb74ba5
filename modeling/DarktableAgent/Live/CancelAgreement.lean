import DarktableAgent.Chat.Posted
import DarktableAgent.Server.CancelEndpoint

/-! The requests that the panel cancels are the plans that the bridge stops.

A cancellation is posted by a thread of its own, so that it can overtake the request, or
arrive when the plan is over. Other clients share the bridge.
-/

set_option autoImplicit false

namespace DarktableAgent.Live

open Foundation Protocol Client Chat Server

section Payload

/-- The key that a cancellation is written with. -/
def cancelKeyOfIds (ids : ClientRequest) : CancelRequestKey where
  requestId := ids.requestId.getD ""
  appSessionId := ids.appSessionId.getD ""
  imageSessionId := ids.imageSessionId.getD ""
  conversationId := ids.conversationId.getD ""
  turnId := ids.turnId.getD ""

/-- The server reads the ids that the client wrote, and refuses a cancellation that lacks one of them. -/
theorem validateCancelRequest_payload (delivery : CancelDelivery) :
    ((cancelKeyOfIds delivery.ids).Present →
      ∃ request, validateCancelRequest (serializeCancelPayload delivery) = some request ∧
        request.key = cancelKeyOfIds delivery.ids ∧ request.reason = delivery.reason.filter (· ≠ "")) ∧
    (¬ (cancelKeyOfIds delivery.ids).Present →
      validateCancelRequest (serializeCancelPayload delivery) = none) := by
  obtain ⟨ids, reason⟩ := delivery
  unfold serializeCancelPayload cancelKeyOfIds CancelRequestKey.Present
  dsimp only
  generalize ids.requestId.getD "" = requestId, ids.appSessionId.getD "" = app, ids.imageSessionId.getD "" = image,
    ids.conversationId.getD "" = conversation, ids.turnId.getD "" = turn
  have read : ∀ rest : JsonObject, validateCancelRequest (.obj ([("requestId", .str requestId),
      ("session", .obj [("appSessionId", .str app), ("imageSessionId", .str image),
        ("conversationId", .str conversation), ("turnId", .str turn)])] ++ rest)) =
      (if present : requestId ≠ "" then some (⟨requestId, present⟩ : { text : String // text ≠ "" }) else none).bind
        fun requestId => (if present : ∀ text ∈ [app, image, conversation, turn], text ≠ "" then
            some (⟨app, image, conversation, turn, present⟩ : RequestSession) else none).bind
          fun session => (optionalMember Json.str? rest "reason").bind
            fun reason => some ⟨requestId, session, reason, text_present requestId⟩ := fun _ => rfl
  rw [read]
  have given : optionalMember Json.str?
      ((reason.filter (· ≠ "")).toList.map fun reason => ("reason", Json.str reason)) "reason" =
      some (reason.filter (· ≠ "")) := by
    cases reason.filter (· ≠ "") <;> rfl
  rw [given]
  constructor
  · rintro ⟨named, isApp, isImage, isConversation, isTurn⟩
    have present : ∀ text ∈ [app, image, conversation, turn], text ≠ "" := by
      simp only [List.forall_mem_cons]
      exact ⟨isApp, isImage, isConversation, isTurn, List.forall_mem_nil _⟩
    rw [dif_pos named, dif_pos present]
    exact ⟨_, rfl, rfl, rfl⟩
  · intro lacking
    split_ifs with named present
    · simp only [List.forall_mem_cons] at present
      obtain ⟨isApp, isImage, isConversation, isTurn, -⟩ := present
      exact absurd ⟨named, isApp, isImage, isConversation, isTurn⟩ lacking
    · rfl
    · rfl
    · rfl

/-- The bridge knows a request under the ids that its handle keeps. -/
theorem cancelKeyOf_validateRequest {library : SchemaLibrary} {request : ChatRequest} {document : Json}
    (serialized : chatRequestSerialize request = .ok document) {envelope : RequestEnvelope}
    (accepted : validateRequest library document = some envelope) :
    cancelKeyOf envelope = cancelKeyOfIds (requestHandle request) := by
  unfold chatRequestSerialize at serialized
  cases texts : requestTexts request with
  | none =>
    rw [texts] at serialized
    cases serialized
  | some written =>
    rw [texts] at serialized
    dsimp only at serialized
    split_ifs at serialized
    obtain rfl := Except.ok.inj serialized
    have given := requestTexts_of texts
    have requestId : textMember (requestDocument request written) "requestId" =
      if present : written.requestId ≠ "" then some ⟨written.requestId, present⟩ else none := rfl
    have session : requiredMember validateSession (requestDocument request written) "session" =
      validateSession (.obj [("appSessionId", .str written.appSessionId),
        ("imageSessionId", .str written.imageSessionId), ("conversationId", .str written.conversationId),
        ("turnId", .str written.turnId)]) := rfl
    unfold validateRequest objectOf at accepted
    dsimp only at accepted
    rw [requestId, session, validateSession_obj] at accepted
    simp only [Option.bind_eq_bind, Option.bind_eq_some_iff] at accepted
    obtain ⟨-, -, -, -, named, isNamed, shown, isSession, accepted⟩ := accepted
    split_ifs at isNamed isSession
    obtain rfl := Option.some.inj isNamed
    obtain rfl := Option.some.inj isSession
    obtain ⟨-, -, -, -, refinement, -, -, -, capabilities, -, snapshot, -, accepted⟩ := accepted
    split_ifs at accepted
    obtain rfl := Option.some.inj accepted
    unfold cancelKeyOf cancelKeyOfIds requestHandle
    dsimp only
    rw [given.requestId, given.appSessionId, given.imageSessionId, given.conversationId, given.turnId]
    rfl

/-- A cancellation of the client is one of the request whose ids it carries, or is refused. -/
theorem serveCancel_payload (registry : Registry) (delivery : CancelDelivery) :
    ((cancelKeyOfIds delivery.ids).Present ∧ ∃ reason,
      registry.serveCancel (serializeCancelPayload delivery) =
        registryStep registry (.cancel (cancelKeyOfIds delivery.ids) reason)) ∨
    (¬ (cancelKeyOfIds delivery.ids).Present ∧
      registry.serveCancel (serializeCancelPayload delivery) = registry) := by
  obtain ⟨accepts, refuses⟩ := validateCancelRequest_payload delivery
  unfold Registry.serveCancel
  by_cases present : (cancelKeyOfIds delivery.ids).Present
  · obtain ⟨request, accepted, key, -⟩ := accepts present
    rw [accepted, ← key]
    exact .inl ⟨by rw [key]; exact present, request.reason, rfl⟩
  · rw [refuses present]
    exact .inr ⟨present, rfl⟩

end Payload

section CancelAgreement

variable {κ ν W : Type}

/-- The client and the bridge, with what has come over from one to the other. -/
structure CancelRun (κ ν : Type) where
  client : ClientRun κ ν
  registry : Registry
  -- the requests and the cancellations that have reached the server
  requests : List ClientRequest
  arrived : List CancelDelivery

inductive CancelEvent (κ ν : Type) where
  | client (event : MemoryEvent κ ν)
  -- what a job posts
  | requestArrives (request : ChatRequest)
  -- what a cancel thread posts
  | cancelArrives (delivery : CancelDelivery)
  | planOver (request : RequestEnvelope)
  -- what other clients do
  | others (event : RegistryEvent)

variable [Numeric ν] (library : SchemaLibrary) (host : Host κ ν W) (appSessionId : String)

/-- A job posts its request once, a cancel thread what it was started for, and a plan is over once. -/
def cancelStep (state : CancelRun κ ν) : CancelEvent κ ν → CancelRun κ ν
  | .client event => { state with client := memoryStep host appSessionId state.client event }
  | .requestArrives request =>
    if requestHandle request ∈ state.client.panel.sent.map (handleIds appSessionId) ∧
        requestHandle request ∉ state.requests then
      { state with
        requests := requestHandle request :: state.requests
        registry := match (chatRequestSerialize request).toOption.bind (validateRequest library) with
          | some envelope => registryStep state.registry (.register envelope)
          | none => state.registry }
    else state
  | .cancelArrives delivery =>
    if state.client.memory.any (delivery ∈ ·.cancelDeliveries) then
      { state with
        registry := state.registry.serveCancel (serializeCancelPayload delivery)
        arrived := delivery :: state.arrived }
    else state
  | .planOver request =>
    if (state.registry.held.get? (cancelKeyOf request)).isSome then
      { state with registry := registryStep state.registry (.unregister request) }
    else state
  | .others event => { state with registry := registryStep state.registry event }

/-- A request id that the client draws. -/
def Own (requestId : String) : Prop := ∃ n, requestId = host.uuid n

/-- Another client has ids of its own. -/
def Foreign (key : CancelRequestKey) : Prop := key.appSessionId ≠ appSessionId ∧ ¬ Own host key.requestId

def CancelEvent.Apart : CancelEvent κ ν → Prop
  | .others event => Foreign host appSessionId event.subject
  | .client _ | .requestArrives _ | .cancelArrives _ | .planOver _ => True

/-- The key of a request of the client that has reached the server. -/
def Posted (state : CancelRun κ ν) (key : CancelRequestKey) : Prop :=
  ∃ submission ∈ state.client.panel.sent, handleIds appSessionId submission ∈ state.requests ∧
    cancelKeyOfIds (handleIds appSessionId submission) = key

/-- What every event keeps. -/
structure Agreeing (state : CancelRun κ ν) : Prop where
  kept : state.client.Kept appSessionId host
  consistent : state.registry.Consistent (Own host)
  known : ∀ key ∈ state.registry.known,
    key.Present ∧ (Foreign host appSessionId key ∨ Posted appSessionId state key)
  held : ∀ key, (state.registry.held.get? key).isSome → Own host key.requestId ∨ Foreign host appSessionId key
  posted : ∀ delivery ∈ state.arrived, ∃ memory, state.client.memory = some memory ∧
    delivery ∈ memory.cancelDeliveries
  noted : ∀ delivery ∈ state.arrived, (cancelKeyOfIds delivery.ids).Present →
    cancelKeyOfIds delivery.ids ∈ state.registry.arrived
  asked : ∀ key ∈ state.registry.arrived, key.appSessionId = appSessionId →
    ∃ delivery ∈ state.arrived, cancelKeyOfIds delivery.ids = key

namespace Agreeing

variable {library host appSessionId} {state : CancelRun κ ν} {submission : ChatSubmission} {key : CancelRequestKey}

omit [Numeric ν] in
theorem own_of_sent (agreeing : Agreeing host appSessionId state) (sent : submission ∈ state.client.panel.sent) :
    Own host submission.requestId := by
  obtain ⟨transfer, isTransfer, rfl⟩ := List.mem_map.mp sent
  obtain ⟨n, -, drawn⟩ := agreeing.kept.1.drawn transfer isTransfer
  exact ⟨n, drawn⟩

omit [Numeric ν] in
/-- The request id tells which request was sent. -/
theorem sent_inj (agreeing : Agreeing host appSessionId state) {other : ChatSubmission}
    (sent : submission ∈ state.client.panel.sent) (otherSent : other ∈ state.client.panel.sent)
    (same : submission.requestId = other.requestId) : submission = other := by
  obtain ⟨-, orderly, -⟩ := agreeing.kept
  obtain ⟨transfer, isTransfer, rfl⟩ := List.mem_map.mp sent
  obtain ⟨twin, isTwin, rfl⟩ := List.mem_map.mp otherSent
  rw [orderly.inj isTransfer isTwin same]

omit [Numeric ν] in
/-- A plan under an own id is that of a request that was posted. -/
theorem posted_of_known (agreeing : Agreeing host appSessionId state) (own : Own host key.requestId)
    (known : key ∈ state.registry.known) : key.Present ∧ Posted appSessionId state key := by
  obtain ⟨present, foreign | posted⟩ := agreeing.known key known
  · exact absurd own foreign.2
  · exact ⟨present, posted⟩

omit [Numeric ν] in
/-- A request that has not reached the server yet is not known there, nor is its id. -/
theorem unknown_of_unposted (agreeing : Agreeing host appSessionId state) (sent : submission ∈ state.client.panel.sent)
    (unposted : handleIds appSessionId submission ∉ state.requests) (known : key ∈ state.registry.known) :
    key.requestId ≠ submission.requestId := by
  intro same
  obtain ⟨-, other, otherSent, reached, rfl⟩ :=
    agreeing.posted_of_known (same ▸ agreeing.own_of_sent sent) known
  have isSame := agreeing.sent_inj otherSent sent same
  rw [isSame] at reached
  exact unposted reached

/-- A request of the client is registered under the key of its submission. -/
theorem requestArrives (agreeing : Agreeing host appSessionId state) (request : ChatRequest) :
    Agreeing host appSessionId (cancelStep library host appSessionId state (.requestArrives request)) := by
  unfold cancelStep
  dsimp only
  split_ifs with posts
  · obtain ⟨submission, member, isRequest⟩ := List.mem_map.mp posts.1
    have unposted : handleIds appSessionId submission ∉ state.requests := isRequest ▸ posts.2
    have stays : ∀ {other}, Posted appSessionId state other → Posted appSessionId
        { state with requests := requestHandle request :: state.requests } other :=
      fun ⟨earlier, sent, reached, isKey⟩ => ⟨earlier, sent, List.mem_cons_of_mem _ reached, isKey⟩
    cases accepted : (chatRequestSerialize request).toOption.bind (validateRequest library) with
    | none =>
      exact { agreeing with
        known := fun other known => ⟨(agreeing.known other known).1, (agreeing.known other known).2.imp_right stays⟩ }
    | some envelope =>
      obtain ⟨document, serialized, validated⟩ := Option.bind_eq_some_iff.mp accepted
      have written : chatRequestSerialize request = .ok document := by
        cases result : chatRequestSerialize request with
        | error message =>
          rw [result] at serialized
          cases serialized
        | ok other =>
          rw [result] at serialized
          rw [Option.some.inj serialized]
      have key : cancelKeyOf envelope = cancelKeyOfIds (handleIds appSessionId submission) := by
        rw [cancelKeyOf_validateRequest written validated, isRequest]
      have named : envelope.requestId = submission.requestId := congrArg CancelRequestKey.requestId key
      have own := agreeing.own_of_sent member
      have registers : (registryStep state.registry (.register envelope)).Consistent (Own host) := by
        refine agreeing.consistent.register (fun _ known => ?_) fun _ other isHeld shared => ?_
        · exact agreeing.unknown_of_unposted member unposted known named
        · rw [named] at shared
          have known := agreeing.consistent.registered other (shared ▸ own) isHeld
          exact agreeing.unknown_of_unposted member unposted known shared
      exact { agreeing with
        consistent := registers
        known := by
          intro other known
          rcases Registry.known_step known with older | ⟨rfl, -⟩
          · exact ⟨(agreeing.known other older).1, (agreeing.known other older).2.imp_right stays⟩
          · refine ⟨present_cancelKeyOf envelope, .inr ⟨submission, member, ?_, key.symm⟩⟩
            rw [isRequest]
            exact List.mem_cons_self
        held := by
          intro other isHeld
          rcases Registry.held_step isHeld with older | rfl
          · exact agreeing.held other older
          · refine .inl ?_
            change Own host envelope.requestId
            rw [named]
            exact own
        noted := fun delivery arrives present => Registry.arrived_of_step _ (agreeing.noted delivery arrives present)
        asked := by
          intro other asks
          rcases Registry.arrived_step asks with older | ⟨-, reason, isCancel⟩
          · exact agreeing.asked other older
          · cases isCancel }
  · exact agreeing

omit [Numeric ν] in
/-- A posted cancellation carries the ids of a cancelled transfer. -/
theorem transfer_of_delivery (agreeing : Agreeing host appSessionId state) {delivery : CancelDelivery}
    {memory : ClientMemory} (isMemory : state.client.memory = some memory)
    (posts : delivery ∈ memory.cancelDeliveries) :
    ∃ transfer ∈ state.client.panel.transfers, transfer.cancelRequested ∧
      delivery.ids = handleIds appSessionId transfer.submission := by
  obtain ⟨-, -, other, isOther, owned⟩ := agreeing.kept
  obtain rfl := Option.some.inj (isMemory.symm.trans isOther)
  exact owned.delivered delivery posts

/-- The bridge learns of a cancellation of the client. -/
theorem cancelArrives (agreeing : Agreeing host appSessionId state) (delivery : CancelDelivery) :
    Agreeing host appSessionId (cancelStep library host appSessionId state (.cancelArrives delivery)) := by
  unfold cancelStep
  dsimp only
  split_ifs with posts
  · obtain ⟨memory, isMemory, member⟩ := (Option.any_eq_true _ _).mp posts
    have posted : ∀ arrival ∈ delivery :: state.arrived, ∃ memory, state.client.memory = some memory ∧
        arrival ∈ memory.cancelDeliveries := by
      intro arrival arrives
      rcases List.mem_cons.mp arrives with rfl | older
      · exact ⟨memory, isMemory, of_decide_eq_true member⟩
      · exact agreeing.posted arrival older
    rcases serveCancel_payload state.registry delivery with ⟨present, reason, served⟩ | ⟨lacking, served⟩
    · obtain ⟨transfer, isTransfer, -, ids⟩ := agreeing.transfer_of_delivery isMemory (of_decide_eq_true member)
      have own : Own host (cancelKeyOfIds delivery.ids).requestId := by
        rw [ids]
        exact agreeing.own_of_sent (List.mem_map_of_mem isTransfer)
      rw [served]
      exact { agreeing with
        consistent := agreeing.consistent.cancel _ reason
        known := by
          intro other known
          rcases Registry.known_step known with older | ⟨-, request, isRegister⟩
          · exact agreeing.known other older
          · cases isRegister
        held := by
          intro other isHeld
          rcases Registry.held_step isHeld with older | rfl
          · exact agreeing.held other older
          · exact .inl own
        posted
        noted := by
          intro arrival arrives arrivalPresent
          rcases List.mem_cons.mp arrives with rfl | older
          · exact List.mem_cons_self
          · exact Registry.arrived_of_step _ (agreeing.noted arrival older arrivalPresent)
        asked := by
          intro other asks isOwn
          rcases Registry.arrived_step asks with older | ⟨isKey, -⟩
          · obtain ⟨arrival, arrives, names⟩ := agreeing.asked other older isOwn
            exact ⟨arrival, List.mem_cons_of_mem _ arrives, names⟩
          · exact ⟨delivery, List.mem_cons_self, isKey.symm⟩ }
    · rw [served]
      exact { agreeing with
        posted
        noted := by
          intro arrival arrives present
          rcases List.mem_cons.mp arrives with rfl | older
          · exact absurd present lacking
          · exact agreeing.noted arrival older present
        asked := by
          intro other asks isOwn
          obtain ⟨arrival, arrives, names⟩ := agreeing.asked other asks isOwn
          exact ⟨arrival, List.mem_cons_of_mem _ arrives, names⟩ }
  · exact agreeing

theorem planOver (agreeing : Agreeing host appSessionId state) (request : RequestEnvelope) :
    Agreeing host appSessionId (cancelStep library host appSessionId state (.planOver request)) := by
  unfold cancelStep
  dsimp only
  split_ifs with running
  · exact { agreeing with
      consistent := agreeing.consistent.unregister fun _ => running
      known := agreeing.known
      held := by
        intro other isHeld
        rcases Registry.held_step isHeld with older | rfl
        · exact agreeing.held other older
        · exact agreeing.held _ running
      noted := agreeing.noted
      asked := agreeing.asked }
  · exact agreeing

/-- Another client says nothing of this client's requests, whatever it does with its own ids. -/
theorem others (agreeing : Agreeing host appSessionId state) {event : RegistryEvent}
    (foreign : Foreign host appSessionId event.subject) :
    Agreeing host appSessionId (cancelStep library host appSessionId state (.others event)) :=
  { agreeing with
    consistent := agreeing.consistent.step (fun own => absurd own foreign.2) fun own => absurd own foreign.2
    known := by
      intro other known
      rcases Registry.known_step known with older | ⟨rfl, request, rfl⟩
      · exact agreeing.known other older
      · exact ⟨present_cancelKeyOf request, .inl foreign⟩
    held := by
      intro other isHeld
      rcases Registry.held_step isHeld with older | rfl
      · exact agreeing.held other older
      · exact .inr foreign
    noted := fun delivery arrives present => Registry.arrived_of_step event (agreeing.noted delivery arrives present)
    asked := by
      intro other asks own
      rcases Registry.arrived_step asks with older | ⟨rfl, -⟩
      · exact agreeing.asked other older own
      · exact absurd own foreign.1 }

theorem step (agreeing : Agreeing host appSessionId state) {event : CancelEvent κ ν}
    (apart : event.Apart host appSessionId) :
    Agreeing host appSessionId (cancelStep library host appSessionId state event) := by
  cases event with
  | client event =>
    have keeps := memoryStep_kept appSessionId host agreeing.kept event
    obtain ⟨grows, posts⟩ := @memoryStep_grows _ _ _ host _ appSessionId state.client event
    exact { agreeing with
      kept := keeps
      known := fun key known => ⟨(agreeing.known key known).1, (agreeing.known key known).2.imp_right
        fun ⟨submission, sent, reached, isKey⟩ => ⟨submission, grows.subset sent, reached, isKey⟩⟩
      posted := by
        intro delivery arrives
        obtain ⟨memory, isMemory, member⟩ := agreeing.posted delivery arrives
        obtain ⟨-, -, after, isAfter, -⟩ := keeps
        exact ⟨after, isAfter, (posts memory after isMemory isAfter).subset member⟩ }
  | requestArrives request => exact agreeing.requestArrives request
  | cancelArrives delivery => exact agreeing.cancelArrives delivery
  | planOver request => exact agreeing.planOver request
  | others event => exact agreeing.others apart

variable {transfer : Transfer}

end Agreeing

end CancelAgreement

end DarktableAgent.Live
