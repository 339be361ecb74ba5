import DarktableAgent.Foundation.Runs
import DarktableAgent.Server.RequestState

/-! Registrations and cancellations of several requests, in any order.

A running plan holds the record that was made when its request was registered, and
looks at the record's cancel flag. The bridge finds the record under the request id
alone, while a cancellation names all five ids.
-/

set_option autoImplicit false

namespace DarktableAgent.Server

open Foundation Protocol

structure Registry where
  bridge : BridgeState
  -- `cancel_event` of the record that each running plan holds
  held : Dict CancelRequestKey Bool
  -- the log of the run: every key that was ever registered, and every key a cancellation named
  known : List CancelRequestKey
  arrived : List CancelRequestKey

inductive RegistryEvent where
  | register (request : RequestEnvelope)
  | unregister (request : RequestEnvelope)
  | cancel (key : CancelRequestKey) (reason : Option String)
  | progress (key : CancelRequestKey)

def RegistryEvent.subject : RegistryEvent → CancelRequestKey
  | .register request | .unregister request => cancelKeyOf request
  | .cancel key _ | .progress key => key

def registryStep (registry : Registry) : RegistryEvent → Registry
  | .register request =>
    let key := cancelKeyOf request
    { registry with
      bridge := registry.bridge.registerRequest request
      held := registry.held.set key (registry.bridge.cancelledRequests.get? key).isSome
      known := key :: registry.known }
  | .unregister request =>
    { registry with
      bridge := registry.bridge.unregisterRequest request.requestId
      held := registry.held.erase (cancelKeyOf request) }
  | .cancel key reason =>
    let (bridge, matched) := registry.bridge.cancelRequest key reason
    { registry with
      bridge
      held := if matched then registry.held.set key true else registry.held
      arrived := key :: registry.arrived }
  -- a snapshot changes nothing
  | .progress _ => registry

/-- A bridge that starts. -/
def emptyRegistry : Registry := ⟨⟨.empty, .empty, .empty⟩, .empty, [], []⟩

namespace Registry

variable (registry : Registry)

def found (key : CancelRequestKey) : Bool := (registry.bridge.getRequestProgress key).found

/-- Each request is registered once, and a plan unregisters its own request. -/
def Admits : RegistryEvent → Prop
  | .register request => cancelKeyOf request ∉ registry.known
  | .unregister request => (registry.held.get? (cancelKeyOf request)).isSome
  | .cancel .. | .progress _ => True

/-- No request is registered under the id of one that is still running. -/
def Unshared : RegistryEvent → Prop
  | .register request => ∀ key, (registry.held.get? key).isSome → key.requestId ≠ request.requestId
  | .unregister _ | .cancel .. | .progress _ => True

/-- A registered request is flagged exactly when it was cancelled, and it is found. -/
def Faithful : Prop :=
  ∀ key flag, registry.held.get? key = some flag →
    (flag = true ↔ key ∈ registry.arrived) ∧ registry.found key = true

/-- The event leaves every other request registered, flagged and found as it was. -/
def Spares (event : RegistryEvent) : Prop :=
  ∀ key flag, key ≠ event.subject → registry.held.get? key = some flag →
    (registryStep registry event).held.get? key = some flag ∧
      (registryStep registry event).found key = registry.found key

def Isolates (event : RegistryEvent) : Prop :=
  (registryStep registry event).Faithful ∧ registry.Spares event

/-- For the request ids of some clients, the bridge has one record for each running plan, under an id of its own, and
remembers every cancellation of a request that was not registered yet. -/
structure Consistent (own : String → Prop) : Prop where
  named : ∀ requestId active, registry.bridge.activeRequests.get? requestId = some active →
    active.cancelKey.requestId = requestId
  recorded : ∀ key flag, own key.requestId → registry.held.get? key = some flag →
    ∃ active, registry.bridge.activeRequests.get? key.requestId = some active ∧ active.cancelKey = key ∧
      active.cancelled = flag
  flagged : ∀ key flag, own key.requestId → registry.held.get? key = some flag →
    (flag = true ↔ key ∈ registry.arrived)
  running : ∀ requestId active, own requestId → registry.bridge.activeRequests.get? requestId = some active →
    (registry.held.get? active.cancelKey).isSome
  registered : ∀ key, own key.requestId → (registry.held.get? key).isSome → key ∈ registry.known
  early : ∀ key, own key.requestId → key ∉ registry.known →
    ((registry.bridge.cancelledRequests.get? key).isSome ↔ key ∈ registry.arrived)

variable {registry} {own : String → Prop}

theorem found_iff (key : CancelRequestKey) : registry.found key = true ↔
    ∃ active, registry.bridge.activeRequests.get? key.requestId = some active ∧ active.cancelKey = key := by
  unfold found BridgeState.getRequestProgress
  cases registry.bridge.activeRequests.get? key.requestId with
  | none => simp [BridgeState.notFound]
  | some active =>
    dsimp only
    split_ifs with other
    · simp [BridgeState.notFound, other]
    · simp [not_not.mp other]

/-- A plan under an own id is flagged exactly when it was cancelled, and it is found. -/
theorem Consistent.faithful_at (consistent : registry.Consistent own) {key : CancelRequestKey} {flag : Bool}
    (isOwn : own key.requestId) (held : registry.held.get? key = some flag) :
    (flag = true ↔ key ∈ registry.arrived) ∧ registry.found key = true := by
  obtain ⟨active, found, isKey, -⟩ := consistent.recorded key flag isOwn held
  exact ⟨consistent.flagged key flag isOwn held, (found_iff key).mpr ⟨active, found, isKey⟩⟩

theorem Consistent.faithful (consistent : registry.Consistent fun _ => True) : registry.Faithful :=
  fun _ _ held => consistent.faithful_at trivial held

/-- Two running plans never share an own request id. -/
theorem Consistent.requestId_injective (consistent : registry.Consistent own) {key other : CancelRequestKey}
    (isOwn : own key.requestId) (held : (registry.held.get? key).isSome)
    (otherHeld : (registry.held.get? other).isSome) (same : key.requestId = other.requestId) : key = other := by
  obtain ⟨flag, isHeld⟩ := Option.isSome_iff_exists.mp held
  obtain ⟨otherFlag, otherIsHeld⟩ := Option.isSome_iff_exists.mp otherHeld
  obtain ⟨active, found, isKey, -⟩ := consistent.recorded key flag isOwn isHeld
  obtain ⟨otherActive, otherFound, isOther, -⟩ := consistent.recorded other otherFlag (same ▸ isOwn) otherIsHeld
  rw [same, otherFound] at found
  rw [← isKey, ← isOther, Option.some.inj found]

theorem Consistent.register (consistent : registry.Consistent own) {request : RequestEnvelope}
    (fresh : own request.requestId → cancelKeyOf request ∉ registry.known)
    (unshared : own request.requestId → ∀ key, (registry.held.get? key).isSome → key.requestId ≠ request.requestId) :
    (registryStep registry (.register request)).Consistent own := by
  have heldNow : ∀ key, (registryStep registry (.register request)).held.get? key =
      if key = cancelKeyOf request then
        some (registry.bridge.cancelledRequests.get? (cancelKeyOf request)).isSome
      else registry.held.get? key := fun key => Dict.get?_set ..
  have activeNow : ∀ requestId, (registryStep registry (.register request)).bridge.activeRequests.get? requestId =
      if requestId = request.requestId then some {
        cancelKey := cancelKeyOf request
        cancelled := (registry.bridge.cancelledRequests.get? (cancelKeyOf request)).isSome
        cancelReason := registry.bridge.cancelledRequests.get? (cancelKeyOf request) }
      else registry.bridge.activeRequests.get? requestId := fun requestId => Dict.get?_set ..
  constructor
  case named =>
    intro requestId active found
    rw [activeNow] at found
    split_ifs at found with same
    · rw [← Option.some.inj found]
      exact same.symm
    · exact consistent.named requestId active found
  case recorded =>
    intro key flag isOwn held
    rw [heldNow] at held
    rw [activeNow]
    split_ifs at held with same
    · rw [same, if_pos (by rfl)]
      exact ⟨_, rfl, rfl, Option.some.inj held⟩
    · rw [if_neg ?_]
      · exact consistent.recorded key flag isOwn held
      · intro shared
        exact unshared (shared ▸ isOwn) key (Option.isSome_of_eq_some held) shared
  case flagged =>
    intro key flag isOwn held
    rw [heldNow] at held
    split_ifs at held with same
    · rw [same] at isOwn ⊢
      rw [← Option.some.inj held]
      exact consistent.early _ isOwn (fresh isOwn)
    · exact consistent.flagged key flag isOwn held
  case running =>
    intro requestId active isOwn found
    rw [activeNow] at found
    rw [heldNow]
    split_ifs at found with same
    · rw [← Option.some.inj found, if_pos rfl]
      rfl
    · have held := consistent.running requestId active isOwn found
      split_ifs
      · rfl
      · exact held
  case registered =>
    intro key isOwn held
    rw [heldNow] at held
    split_ifs at held with same
    · rw [same]
      exact List.mem_cons_self
    · exact List.mem_cons_of_mem _ (consistent.registered key isOwn held)
  case early =>
    intro key isOwn unknown
    exact consistent.early key isOwn fun known => unknown (List.mem_cons_of_mem _ known)

/-- What the end of a plan takes from the bridge is filed under its request id. -/
theorem unregisterRequest_cases (state : BridgeState) (requestId : String) :
    (∀ other, (state.unregisterRequest requestId).activeRequests.get? other =
      if other = requestId then none else state.activeRequests.get? other) ∧
    ((state.unregisterRequest requestId).cancelledRequests = state.cancelledRequests ∨
      ∃ active, state.activeRequests.get? requestId = some active ∧
        (state.unregisterRequest requestId).cancelledRequests = state.cancelledRequests.erase active.cancelKey) := by
  unfold BridgeState.unregisterRequest
  cases found : state.activeRequests.get? requestId with
  | none =>
    refine ⟨fun other => ?_, .inl rfl⟩
    split_ifs with same
    · rw [same]
      exact found
    · rfl
  | some active => exact ⟨fun other => Dict.get?_erase .., .inr ⟨active, rfl, rfl⟩⟩

theorem Consistent.unregister (consistent : registry.Consistent own) {request : RequestEnvelope}
    (running : own request.requestId → (registry.held.get? (cancelKeyOf request)).isSome) :
    (registryStep registry (.unregister request)).Consistent own := by
  obtain ⟨actives, cancelled⟩ := unregisterRequest_cases registry.bridge request.requestId
  have heldNow : ∀ key, (registryStep registry (.unregister request)).held.get? key =
      if key = cancelKeyOf request then none else registry.held.get? key := fun key => Dict.get?_erase ..
  have activeNow : ∀ requestId, (registryStep registry (.unregister request)).bridge.activeRequests.get? requestId =
      if requestId = request.requestId then none else registry.bridge.activeRequests.get? requestId := actives
  constructor
  case named =>
    intro requestId active found
    rw [activeNow] at found
    split_ifs at found
    exact consistent.named requestId active found
  case recorded =>
    intro key flag isOwn held
    rw [heldNow] at held
    split_ifs at held with other
    rw [activeNow, if_neg ?_]
    · exact consistent.recorded key flag isOwn held
    · intro shared
      exact other (consistent.requestId_injective isOwn (Option.isSome_of_eq_some held) (running (shared ▸ isOwn)) shared)
  case flagged =>
    intro key flag isOwn held
    rw [heldNow] at held
    split_ifs at held
    exact consistent.flagged key flag isOwn held
  case running =>
    intro requestId active isOwn found
    rw [activeNow] at found
    split_ifs at found with other
    rw [heldNow, if_neg ?_]
    · exact consistent.running requestId active isOwn found
    · intro same
      have named := consistent.named requestId active found
      rw [same] at named
      exact other named.symm
  case registered =>
    intro key isOwn held
    rw [heldNow] at held
    split_ifs at held
    · cases held
    · exact consistent.registered key isOwn held
  case early =>
    intro key isOwn unknown
    change ((registry.bridge.unregisterRequest request.requestId).cancelledRequests.get? key).isSome ↔ _
    rcases cancelled with same | ⟨active, found, same⟩
    · rw [same]
      exact consistent.early key isOwn unknown
    · rw [same, Dict.get?_erase, if_neg ?_]
      · exact consistent.early key isOwn unknown
      · -- only registered requests are unregistered
        rintro rfl
        rw [consistent.named _ active found] at isOwn
        have held := consistent.running _ active isOwn found
        exact unknown (consistent.registered _ (consistent.named _ active found ▸ isOwn) held)

/-- A cancellation marks the record of its key, where there is one, and nothing else. -/
theorem cancelRequest_cases (state : BridgeState) (key : CancelRequestKey) (reason : Option String) :
    (∃ active changed, state.activeRequests.get? key.requestId = some active ∧ active.cancelKey = key ∧
      changed.cancelKey = key ∧ changed.cancelled = true ∧ (state.cancelRequest key reason).2 = true ∧
      (state.cancelRequest key reason).1.activeRequests = state.activeRequests.set key.requestId changed) ∨
    (∀ active, state.activeRequests.get? key.requestId = some active → active.cancelKey ≠ key) ∧
      (state.cancelRequest key reason).2 = false ∧
      (state.cancelRequest key reason).1.activeRequests = state.activeRequests := by
  unfold BridgeState.cancelRequest
  dsimp only
  cases state.activeRequests.get? key.requestId with
  | none => exact .inr ⟨fun _ found => (by cases found), rfl, rfl⟩
  | some active =>
    dsimp only
    by_cases isKey : active.cancelKey = key
    · left
      rw [if_pos isKey]
      let changed : ActiveRequestState := { active with
        cancelled := true
        cancelReason := reason
        status := "cancel-requested"
        message := (reason.filter (· ≠ "")).getD "Cancellation requested" }
      refine ⟨active, changed, rfl, isKey, isKey, rfl, rfl, ?_⟩
      rw [← isKey]
      rfl
    · right
      rw [if_neg isKey]
      refine ⟨fun other found => ?_, rfl, rfl⟩
      rw [← Option.some.inj found]
      exact isKey

theorem cancelledRequests_cancelRequest (state : BridgeState) (key : CancelRequestKey) (reason : Option String) :
    ∃ noted, (state.cancelRequest key reason).1.cancelledRequests = state.cancelledRequests.set key noted := by
  unfold BridgeState.cancelRequest
  dsimp only
  cases state.activeRequests.get? key.requestId with
  | none => exact ⟨_, rfl⟩
  | some active =>
    dsimp only
    split_ifs <;> exact ⟨_, rfl⟩

theorem Consistent.cancel (consistent : registry.Consistent own) (key : CancelRequestKey) (reason : Option String) :
    (registryStep registry (.cancel key reason)).Consistent own := by
  have early : ∀ other, own other.requestId → other ∉ registry.known →
      (((registryStep registry (.cancel key reason)).bridge.cancelledRequests.get? other).isSome ↔
        other ∈ key :: registry.arrived) := by
    intro other isOwn unknown
    obtain ⟨noted, cancelled⟩ := cancelledRequests_cancelRequest registry.bridge key reason
    change (((registry.bridge.cancelRequest key reason).1.cancelledRequests.get? other).isSome ↔ _)
    rw [cancelled, Dict.get?_set, List.mem_cons]
    split_ifs with same
    · simp [same]
    · rw [consistent.early other isOwn unknown]
      simp [same]
  have arrived : ∀ {other}, other ≠ key → (other ∈ registry.arrived ↔ other ∈ key :: registry.arrived) := by
    intro other different
    rw [List.mem_cons, or_iff_right different]
  rcases cancelRequest_cases registry.bridge key reason with
    ⟨active, changed, found, isKey, sameKey, cancelled, matched, actives⟩ | ⟨absent, unmatched, actives⟩
  · have held : (registryStep registry (.cancel key reason)).held = registry.held.set key true := if_pos matched
    change (registryStep registry (.cancel key reason)).bridge.activeRequests = _ at actives
    constructor
    case named =>
      intro requestId other isFound
      rw [actives, Dict.get?_set] at isFound
      split_ifs at isFound with same
      · rw [← Option.some.inj isFound, sameKey]
        exact same.symm
      · exact consistent.named requestId other isFound
    case recorded =>
      intro other flag isOwn isHeld
      rw [held, Dict.get?_set] at isHeld
      rw [actives, Dict.get?_set]
      split_ifs at isHeld with same
      · rw [same, if_pos rfl]
        exact ⟨changed, rfl, sameKey, cancelled.trans (Option.some.inj isHeld)⟩
      · rw [if_neg ?_]
        · exact consistent.recorded other flag isOwn isHeld
        · intro shared
          have keyHeld := consistent.running _ active (shared ▸ isOwn) found
          rw [isKey] at keyHeld
          exact same (consistent.requestId_injective isOwn (Option.isSome_of_eq_some isHeld) keyHeld shared)
    case flagged =>
      intro other flag isOwn isHeld
      rw [held, Dict.get?_set] at isHeld
      change flag = true ↔ other ∈ key :: registry.arrived
      split_ifs at isHeld with same
      · simp [same, ← Option.some.inj isHeld]
      · rw [← arrived same]
        exact consistent.flagged other flag isOwn isHeld
    case running =>
      intro requestId other isOwn isFound
      rw [actives, Dict.get?_set] at isFound
      rw [held, Dict.get?_set]
      split_ifs at isFound with same
      · rw [← Option.some.inj isFound, sameKey, if_pos rfl]
        rfl
      · have isHeld := consistent.running requestId other isOwn isFound
        split_ifs
        · rfl
        · exact isHeld
    case registered =>
      intro other isOwn isHeld
      rw [held, Dict.get?_set] at isHeld
      split_ifs at isHeld with same
      · rw [same] at isOwn ⊢
        have keyHeld := consistent.running _ active isOwn found
        rw [isKey] at keyHeld
        exact consistent.registered _ isOwn keyHeld
      · exact consistent.registered other isOwn isHeld
    case early => exact early
  · have held : (registryStep registry (.cancel key reason)).held = registry.held := by
      have notMatched : ¬ (registry.bridge.cancelRequest key reason).2 = true := by
        rw [unmatched]
        exact Bool.false_ne_true
      exact if_neg notMatched
    change (registryStep registry (.cancel key reason)).bridge.activeRequests = _ at actives
    constructor
    case named =>
      rw [actives]
      exact consistent.named
    case recorded =>
      rw [held, actives]
      exact consistent.recorded
    case flagged =>
      intro other flag isOwn isHeld
      rw [held] at isHeld
      change flag = true ↔ other ∈ key :: registry.arrived
      rw [← arrived ?_]
      · exact consistent.flagged other flag isOwn isHeld
      · intro same
        obtain ⟨active, found, isKey, -⟩ := consistent.recorded other flag isOwn isHeld
        rw [same] at found isKey
        exact absent active found isKey
    case running =>
      rw [held, actives]
      exact consistent.running
    case registered =>
      rw [held]
      exact consistent.registered
    case early => exact early

/-- Only events under own request ids have to be orderly. -/
theorem Consistent.step (consistent : registry.Consistent own) {event : RegistryEvent}
    (admitted : own event.subject.requestId → registry.Admits event)
    (unshared : own event.subject.requestId → registry.Unshared event) :
    (registryStep registry event).Consistent own := by
  cases event with
  | register request => exact consistent.register admitted unshared
  | unregister request => exact consistent.unregister admitted
  | cancel key reason => exact consistent.cancel key reason
  | progress key => exact consistent

/-- The plan of another request keeps its record and its flag. -/
theorem held_of_other {event : RegistryEvent} {key : CancelRequestKey} (other : key ≠ event.subject) :
    (registryStep registry event).held.get? key = registry.held.get? key := by
  cases event with
  | register request => exact Dict.get?_set_ne other
  | unregister request => exact (Dict.get?_erase ..).trans (if_neg other)
  | cancel cancelled reason =>
    change (if (registry.bridge.cancelRequest cancelled reason).2 = true then registry.held.set cancelled true
      else registry.held).get? key = _
    split_ifs
    · exact Dict.get?_set_ne other
    · rfl
  | progress queried => rfl

theorem Consistent.spares (consistent : registry.Consistent fun _ => True) {event : RegistryEvent}
    (next : (registryStep registry event).Consistent fun _ => True) : registry.Spares event := by
  intro key flag other held
  have still : (registryStep registry event).held.get? key = some flag := (held_of_other other).trans held
  exact ⟨still, (next.faithful key flag still).2.trans (consistent.faithful key flag held).2.symm⟩

end Registry

theorem consistent_emptyRegistry (own : String → Prop) : emptyRegistry.Consistent own where
  named _ _ found := by cases found
  recorded _ _ _ held := by cases held
  flagged _ _ _ held := by cases held
  running _ _ _ found := by cases found
  registered _ _ held := by cases held
  early key _ _ := by
    unfold emptyRegistry
    simp

/-- While no request is registered under the id of a running one, cancellations are isolated and none is lost, in
every run. -/
theorem cancellations_isolated (events : List RegistryEvent)
    (admitted : EveryStep registryStep (fun registry event => registry.Admits event ∧ registry.Unshared event)
      emptyRegistry events) :
    EveryStep registryStep Registry.Isolates emptyRegistry events := by
  have kept : ∀ (registry : Registry) event, (registry.Consistent fun _ => True) →
      registry.Admits event ∧ registry.Unshared event → (registryStep registry event).Consistent fun _ => True :=
    fun _ _ consistent step => consistent.step (fun _ => step.1) fun _ => step.2
  have gives : ∀ (registry : Registry) event, (registry.Consistent fun _ => True) →
      registry.Admits event ∧ registry.Unshared event → registry.Isolates event := by
    intro registry event consistent step
    have next := kept registry event consistent step
    exact ⟨next.faithful, consistent.spares next⟩
  exact everyStep_of_invariant kept gives (consistent_emptyRegistry _) admitted

/-- The same request id in another conversation. -/
def sharingRequest : RequestEnvelope :=
  { exposureRequest with session := ⟨"app-1", "image-1", "conversation-2", "turn-1", by decide⟩ }

/-- The second registration hides the first request. -/
theorem sharedRequestId_hides :
    EveryStep registryStep Registry.Admits emptyRegistry [.register exposureRequest, .register sharingRequest] ∧
      ¬ EveryStep registryStep Registry.Isolates emptyRegistry [.register exposureRequest, .register sharingRequest] := by
  refine ⟨⟨?_, ?_, trivial⟩, fun isolated => ?_⟩
  · unfold Registry.Admits
    decide
  · unfold Registry.Admits
    decide
  · obtain ⟨-, ⟨faithful, -⟩, -⟩ := isolated
    have found := (faithful (cancelKeyOf exposureRequest) false (by rfl)).2
    revert found
    decide

theorem cancellations_isolated_early :
    EveryStep registryStep Registry.Isolates emptyRegistry
      [.cancel (cancelKeyOf exposureRequest) (some "image-changed"), .register exposureRequest,
        .progress (cancelKeyOf exposureRequest), .unregister exposureRequest, .register sharingRequest] := by
  refine cancellations_isolated _ ⟨⟨trivial, trivial⟩, ⟨?_, ?_⟩, ⟨trivial, trivial⟩, ⟨?_, trivial⟩, ⟨?_, ?_⟩, trivial⟩
  · unfold Registry.Admits
    decide
  · intro key held
    cases held
  · unfold Registry.Admits
    decide
  · unfold Registry.Admits
    decide
  · -- the first plan is over
    intro key held
    cases held

end DarktableAgent.Server
