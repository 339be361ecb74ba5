import DarktableAgent.Live.Handshake

/-! Which previews the tool accepts, and when it waits in vain.

A callback names the session and the turn but not the step, so the wait takes whatever
preview comes first. The client arms a render only with the snapshot on which it executes
something, and the event is cleared after the operation can be seen.
-/

set_option autoImplicit false

namespace DarktableAgent.Live

open Foundation

namespace Handshake

variable (state : Handshake)

/-- What one statement of the tool's thread leaves alone. -/
theorem serve_frame : state.serve.poll = state.poll ∧ state.serve.snapshots = state.snapshots ∧
    state.serve.client = state.client ∧ state.serve.posted = state.posted ∧ state.serve.signalling = state.signalling ∧
    state.context.appliedOperations ≤ state.serve.context.appliedOperations := by
  unfold serve
  cases state.staging with
  | waiting => dsimp only; split_ifs <;> simp
  | idle | appended | raised | cleared | returned | lowered | taken => simp

theorem timesOut_cases : state.timesOut = state ∨
    state.staging = .waiting ∧ state.timesOut = { state with staging := .returned false } := by
  unfold timesOut
  split_ifs with expired
  · exact .inr ⟨expired.1, rfl⟩
  · exact .inl rfl

theorem pollReturns_cases : state.poll = none ∧ state.pollReturns = state ∨
    ∃ operations, state.poll = some operations ∧ state.pollReturns = { state with
      poll := none
      snapshots := state.snapshots ++ [⟨operations, state.context.requiresRenderCallback⟩] } := by
  unfold pollReturns
  cases state.poll with
  | none => exact .inl ⟨rfl, rfl⟩
  | some operations => exact .inr ⟨operations, rfl, rfl⟩

/-- A snapshot is passed over or executed. -/
theorem takes_cases (visible dirties : Bool) : state.takes visible dirties = state ∨
    ∃ snapshot rest, state.snapshots = snapshot :: rest ∧
      (state.takes visible dirties = { state with snapshots := rest } ∨
        (visible = true ∧ state.client.liveAppliedCount < snapshot.operations) ∧
          state.takes visible dirties = { state with
            snapshots := rest
            client := {
              liveAppliedCount := snapshot.operations
              pendingMidTurnRender := state.client.pendingMidTurnRender || snapshot.requiresRenderCallback
              pipe := state.client.pipe.executed dirties } }) := by
  unfold takes LiveClient.progressFinished
  cases state.snapshots with
  | nil => exact .inl rfl
  | cons snapshot rest =>
    refine .inr ⟨snapshot, rest, rfl, ?_⟩
    dsimp only
    split_ifs with executes
    · exact .inr ⟨executes, rfl⟩
    · exact .inl rfl

theorem startsJob_cases : state.startsJob = state ∨
    state.startsJob = { state with client := { state.client with pipe := { state.client.pipe with
      status := .running
      job := some state.client.liveAppliedCount } } } := by
  unfold startsJob
  cases state.client.pipe.job with
  | none => exact .inr rfl
  | some shown => exact .inl rfl

theorem finishesJob_cases : state.finishesJob = state ∨
    ∃ shown, state.client.pipe.job = some shown ∧
      state.finishesJob = { state with client := { state.client with pipe := ⟨.valid, shown, none⟩ } } := by
  unfold finishesJob
  cases state.client.pipe.job with
  | none => exact .inl rfl
  | some shown => exact .inr ⟨shown, rfl, rfl⟩

theorem uiPipeFinished_cases (collected : Bool) : state.uiPipeFinished collected = state ∨
    state.client.pipe.status = .valid ∧ state.client.pendingMidTurnRender = true ∧
      state.uiPipeFinished collected = { state with
        client := { state.client with pendingMidTurnRender := false }
        posted := if collected then state.posted ++ [state.client.pipe.backbuf] else state.posted } := by
  unfold uiPipeFinished
  by_cases posts : state.client.pipe.status = .valid ∧ state.client.pendingMidTurnRender
  · rw [if_pos posts]
    exact .inr ⟨posts.1, posts.2, rfl⟩
  · exact .inl (if_neg posts)

theorem stores_cases (preview : Nat) : state.stores preview = state ∨
    preview ∈ state.posted ∧ state.stores preview = { state with
      posted := state.posted.erase preview
      signalling := state.signalling + 1
      context := { state.context with renderedPreview := some preview } } := by
  unfold stores
  split_ifs with posted
  · exact .inr ⟨posted, rfl⟩
  · exact .inl rfl

theorem signals_cases : state.signals = state ∨
    ∃ others, state.signalling = others + 1 ∧
      state.signals = { state with signalling := others, context := { state.context with renderEvent := true } } := by
  unfold signals
  cases state.signalling with
  | zero => exact .inl rfl
  | succ others => exact .inr ⟨others, rfl, rfl⟩

end Handshake

open Handshake

section Bounds

/-- Nothing is ahead of the operations that were appended. -/
structure Bounded (state : Handshake) : Prop where
  poll : ∀ operations, state.poll = some operations → operations ≤ state.context.appliedOperations
  snapshots : ∀ snapshot ∈ state.snapshots, snapshot.operations ≤ state.context.appliedOperations
  client : state.client.liveAppliedCount ≤ state.context.appliedOperations

variable {state : Handshake}

theorem Bounded.step (bounded : Bounded state) (event : HandshakeEvent) : Bounded (Handshake.step state event) := by
  cases event with
  | serve =>
    obtain ⟨poll, snapshots, client, -, -, grows⟩ := state.serve_frame
    constructor
    · intro operations polled
      exact (bounded.poll operations (poll ▸ polled)).trans grows
    · intro snapshot member
      exact (bounded.snapshots snapshot (snapshots ▸ member)).trans grows
    · exact (congrArg LiveClient.liveAppliedCount client).trans_le (bounded.client.trans grows)
  | timesOut =>
    rcases state.timesOut_cases with same | ⟨-, same⟩ <;> rw [Handshake.step, same]
    · exact bounded
    · exact { bounded with }
  | pollReads =>
    refine { bounded with poll := ?_ }
    rintro operations ⟨⟩
    exact le_rfl
  | pollReturns =>
    rcases state.pollReturns_cases with ⟨-, same⟩ | ⟨operations, polled, same⟩ <;> rw [Handshake.step, same]
    · exact bounded
    · refine { bounded with poll := ?_, snapshots := ?_ }
      · rintro _ ⟨⟩
      · intro snapshot member
        rcases List.mem_append.mp member with old | new
        · exact bounded.snapshots snapshot old
        · obtain rfl := List.mem_singleton.mp new
          exact bounded.poll operations polled
  | takes visible dirties =>
    rcases state.takes_cases visible dirties with same | ⟨snapshot, rest, queued, same⟩
    · rw [Handshake.step, same]
      exact bounded
    · have known := bounded.snapshots
      rw [queued] at known
      have others : ∀ other ∈ rest, other.operations ≤ state.context.appliedOperations :=
        fun other member => known other (List.mem_cons_of_mem _ member)
      rcases same with same | ⟨-, same⟩ <;> rw [Handshake.step, same]
      · exact { bounded with snapshots := others }
      · exact { bounded with snapshots := others, client := known snapshot List.mem_cons_self }
  | startsJob =>
    rcases state.startsJob_cases with same | same <;> rw [Handshake.step, same]
    · exact bounded
    · exact { bounded with }
  | finishesJob =>
    rcases state.finishesJob_cases with same | ⟨shown, -, same⟩ <;> rw [Handshake.step, same]
    · exact bounded
    · exact { bounded with }
  | uiPipeFinished collected =>
    rcases state.uiPipeFinished_cases collected with same | ⟨-, -, same⟩ <;> rw [Handshake.step, same]
    · exact bounded
    · exact { bounded with }
  | stores preview =>
    rcases state.stores_cases preview with same | ⟨-, same⟩ <;> rw [Handshake.step, same]
    · exact bounded
    · exact { bounded with }
  | signals =>
    rcases state.signals_cases with same | ⟨others, -, same⟩ <;> rw [Handshake.step, same]
    · exact bounded
    · exact { bounded with }

theorem bounded_beginning : Bounded beginning where
  poll _ polled := by cases polled
  snapshots _ member := by cases member
  client := le_rfl

end Bounds

section Freshness

/-- Between the moment the old bytes are dropped and the moment the bytes are read. -/
def Staging.awaits : Staging → Bool
  | .waiting | .returned _ | .lowered _ => true
  | .idle | .appended | .raised | .cleared | .taken _ _ => false

/-- The client has executed all operations before the new one, and a render that is armed or posted shows it. -/
structure Caught (state : Handshake) : Prop where
  client : state.context.appliedOperations ≤ state.client.liveAppliedCount + 1
  armed : state.client.pendingMidTurnRender = true → state.client.liveAppliedCount = state.context.appliedOperations
  posted : ∀ preview ∈ state.posted, state.context.appliedOperations ≤ preview

instance (state : Handshake) : Decidable (Caught state) :=
  decidable_of_iff (state.context.appliedOperations ≤ state.client.liveAppliedCount + 1 ∧
      (state.client.pendingMidTurnRender = true → state.client.liveAppliedCount = state.context.appliedOperations) ∧
      ∀ preview ∈ state.posted, state.context.appliedOperations ≤ preview)
    ⟨fun ⟨client, armed, posted⟩ => ⟨client, armed, posted⟩, fun caught => ⟨caught.client, caught.armed, caught.posted⟩⟩

/-- The client has the darkroom in view and finds new operations in the next snapshot. -/
def Executes (state : Handshake) (visible : Bool) : Prop :=
  visible = true ∧ ∃ snapshot ∈ state.snapshots.head?, state.client.liveAppliedCount < snapshot.operations

instance (state : Handshake) (visible : Bool) : Decidable (Executes state visible) := by
  unfold Executes
  infer_instance

/-- The wait begins with no older render on its way, no preview job ends that was started before the last
operation was executed, and an execution leaves no pipe valid. -/
def RendersInTime (state : Handshake) : HandshakeEvent → Prop
  | .serve => state.staging = .cleared → Caught state
  | .takes visible dirties => Executes state visible → state.client.pipe.status = .valid → dirties = true
  | .finishesJob => state.client.pipe.job = none ∨ state.client.pipe.job = some state.client.liveAppliedCount
  | _ => True

instance (state : Handshake) : DecidablePred (RendersInTime state)
  | .serve => inferInstanceAs (Decidable (state.staging = .cleared → Caught state))
  | .takes visible dirties => inferInstanceAs (Decidable
      (Executes state visible → state.client.pipe.status = .valid → dirties = true))
  | .finishesJob => inferInstanceAs (Decidable
      (state.client.pipe.job = none ∨ state.client.pipe.job = some state.client.liveAppliedCount))
  | .timesOut | .pollReads | .pollReturns | .startsJob | .uiPipeFinished _ | .stores _ | .signals =>
    inferInstanceAs (Decidable True)

/-- The preview for a step shows the operation of the step. -/
structure Current (state : Handshake) : Prop extends Bounded state where
  valid : state.client.pipe.status = .valid → state.client.pipe.backbuf = state.client.liveAppliedCount
  caught : state.staging.awaits = true → Caught state
  rendered : state.staging.awaits = true → ∀ preview, state.context.renderedPreview = some preview →
    state.context.appliedOperations ≤ preview
  taken : ∀ arrived preview, state.staging = .taken arrived (some preview) → state.context.appliedOperations ≤ preview
  accepted : ∀ step ∈ state.accepted, step.1 ≤ step.2

variable {state : Handshake}

theorem Current.serve (current : Current state) (timely : RendersInTime state .serve) : Current state.serve := by
  have bounded : Bounded state.serve := current.toBounded.step .serve
  have caught := current.caught
  have rendered := current.rendered
  have taken := current.taken
  have accepted := current.accepted
  have valid := current.valid
  unfold RendersInTime at timely
  unfold Handshake.serve at bounded ⊢
  cases staging : state.staging with
  | idle | appended | raised =>
    rw [staging] at bounded
    exact { bounded with
      valid
      caught := nofun
      rendered := nofun
      taken := nofun
      accepted }
  | cleared =>
    rw [staging] at bounded
    exact { bounded with
      valid
      caught := fun _ => { timely staging with }
      rendered := fun _ _ none => nomatch none
      taken := nofun
      accepted }
  | waiting =>
    rw [staging] at bounded caught rendered
    dsimp only at bounded ⊢
    split_ifs at bounded ⊢
    · exact { bounded with
        valid
        caught := fun _ => { caught rfl with }
        rendered := fun _ => rendered rfl
        taken := nofun
        accepted }
    · exact current
  | returned arrived =>
    rw [staging] at bounded caught rendered
    exact { bounded with
      valid
      caught := fun _ => { caught rfl with }
      rendered := fun _ => rendered rfl
      taken := nofun
      accepted }
  | lowered arrived =>
    rw [staging] at bounded rendered
    refine { bounded with valid, caught := nofun, rendered := nofun, taken := ?_, accepted }
    intro _ preview same
    injection same with _ read
    exact rendered rfl preview read
  | taken arrived preview =>
    rw [staging] at bounded taken
    refine { bounded with valid, caught := nofun, rendered := nofun, taken := nofun, accepted := ?_ }
    intro step member
    dsimp only at member
    split at member
    · rcases List.mem_append.mp member with old | new
      · exact accepted step old
      · obtain rfl := List.mem_singleton.mp new
        exact taken _ _ rfl
    · exact accepted step member

theorem Current.takes (current : Current state) {visible dirties : Bool}
    (timely : RendersInTime state (.takes visible dirties)) : Current (state.takes visible dirties) := by
  have bounded : Bounded (state.takes visible dirties) := current.toBounded.step (.takes visible dirties)
  rcases state.takes_cases visible dirties with same | ⟨snapshot, rest, queued, same⟩
  · rw [same]
    exact current
  · have known : snapshot.operations ≤ state.context.appliedOperations :=
      current.snapshots snapshot (by rw [queued]; exact List.mem_cons_self)
    rcases same with same | ⟨⟨shown, ahead⟩, same⟩ <;> rw [same] at bounded ⊢
    · exact { bounded, current with caught := fun awaits => { current.caught awaits with } }
    · have executes : Executes state visible := ⟨shown, snapshot, by rw [queued]; rfl, ahead⟩
      refine { bounded, current with
        valid := fun valid => absurd valid (state.client.pipe.executed_not_valid (timely executes))
        caught := ?_ }
      intro awaits
      have caught := current.caught awaits
      -- one operation is missing at most, so the snapshot shows all of them
      have reached : snapshot.operations = state.context.appliedOperations := by
        have close := caught.client
        omega
      exact ⟨Nat.le_succ_of_le reached.ge, fun _ => reached, caught.posted⟩

theorem Current.uiPipeFinished (current : Current state) (collected : Bool) :
    Current (state.uiPipeFinished collected) := by
  have bounded : Bounded (state.uiPipeFinished collected) := current.toBounded.step (.uiPipeFinished collected)
  rcases state.uiPipeFinished_cases collected with same | ⟨valid, armed, same⟩ <;> rw [same] at bounded ⊢
  · exact current
  · refine { bounded, current with caught := ?_ }
    intro awaits
    have caught := current.caught awaits
    refine ⟨caught.client, nofun, ?_⟩
    intro preview member
    dsimp only at member
    split at member
    · rcases List.mem_append.mp member with old | new
      · exact caught.posted preview old
      · obtain rfl := List.mem_singleton.mp new
        have shown := current.valid valid
        have executed := caught.armed armed
        exact (shown.trans executed).ge
    · exact caught.posted preview member

theorem Current.stores (current : Current state) (preview : Nat) : Current (state.stores preview) := by
  have bounded : Bounded (state.stores preview) := current.toBounded.step (.stores preview)
  rcases state.stores_cases preview with same | ⟨posted, same⟩ <;> rw [same] at bounded ⊢
  · exact current
  · refine { bounded, current with caught := ?_, rendered := ?_ }
    · intro awaits
      have caught := current.caught awaits
      exact ⟨caught.client, caught.armed, fun other member => caught.posted other (List.mem_of_mem_erase member)⟩
    · rintro awaits other ⟨⟩
      exact (current.caught awaits).posted preview posted

theorem Current.step (current : Current state) (event : HandshakeEvent) (timely : RendersInTime state event) :
    Current (Handshake.step state event) := by
  have bounded := current.toBounded.step event
  cases event with
  | serve => exact current.serve timely
  | takes visible dirties => exact current.takes timely
  | uiPipeFinished collected => exact current.uiPipeFinished collected
  | stores preview => exact current.stores preview
  | timesOut =>
    rcases state.timesOut_cases with same | ⟨waiting, same⟩ <;> rw [Handshake.step, same] at bounded ⊢
    · exact current
    · have awaits : state.staging.awaits = true := by rw [waiting]; rfl
      exact { bounded, current with
        caught := fun _ => { current.caught awaits with }
        rendered := fun _ => current.rendered awaits
        taken := nofun }
  | pollReads =>
    exact { bounded, current with caught := fun awaits => { current.caught awaits with } }
  | pollReturns =>
    rcases state.pollReturns_cases with ⟨-, same⟩ | ⟨operations, -, same⟩ <;> rw [Handshake.step, same] at bounded ⊢
    · exact current
    · exact { bounded, current with caught := fun awaits => { current.caught awaits with } }
  | startsJob =>
    rcases state.startsJob_cases with same | same <;> rw [Handshake.step, same] at bounded ⊢
    · exact current
    · exact { bounded, current with valid := nofun, caught := fun awaits => { current.caught awaits with } }
  | finishesJob =>
    rcases state.finishesJob_cases with same | ⟨shown, job, same⟩ <;> rw [Handshake.step, same] at bounded ⊢
    · exact current
    · have started : shown = state.client.liveAppliedCount := by
        rcases timely with none | same
        · exact absurd (job.symm.trans none) (by simp)
        · exact Option.some.inj (job.symm.trans same)
      exact { bounded, current with
        valid := fun _ => started
        caught := fun awaits => { current.caught awaits with } }
  | signals =>
    rcases state.signals_cases with same | ⟨others, -, same⟩ <;> rw [Handshake.step, same] at bounded ⊢
    · exact current
    · exact { bounded, current with caught := fun awaits => { current.caught awaits with } }

/-- The tool's thread appends an operation, raises the flag, clears the event and drops the old bytes. -/
def stage : List HandshakeEvent := [.serve, .serve, .serve, .serve]

/-- The client sees the operation, executes it and posts a preview of it. -/
def showOperation : List HandshakeEvent :=
  [.pollReads, .pollReturns, .takes true true, .startsJob, .finishesJob, .uiPipeFinished true]

/-- The wait returns, the flag is lowered, and the bytes are read and dropped. -/
def receive : List HandshakeEvent := [.serve, .serve, .serve, .serve]

/-- The second operation writes the value that its control holds: the pipe stays valid and is posted again. -/
example : (run Handshake.step beginning (stage ++ showOperation ++ [.stores 1, .signals] ++ receive ++ stage ++
    [.pollReads, .pollReturns, .takes true false, .uiPipeFinished true, .stores 1, .signals] ++ receive)).accepted =
      [(1, 1), (2, 1)] := by decide

end Freshness

section Wakeups

/-- A render is armed, posted, or stored and about to set the event. -/
def Outstanding (state : Handshake) : Prop :=
  state.client.pendingMidTurnRender = true ∨ state.posted ≠ [] ∨ 0 < state.signalling

instance (state : Handshake) : Decidable (Outstanding state) := by unfold Outstanding; infer_instance

/-- The event is not cleared behind the last callback for the new operation, no poll that shows the operation reads
the flag before it is raised, and a preview that is asked for can be collected. -/
def WakeupsKept (state : Handshake) : HandshakeEvent → Prop
  | .serve => state.staging = .raised →
      state.client.liveAppliedCount = state.context.appliedOperations → Outstanding state
  | .pollReturns => state.staging = .appended → state.poll ≠ some state.context.appliedOperations
  | .uiPipeFinished collected => state.client.pendingMidTurnRender = true → collected = true
  | _ => True

instance (state : Handshake) : DecidablePred (WakeupsKept state)
  | .serve => inferInstanceAs (Decidable (state.staging = .raised →
      state.client.liveAppliedCount = state.context.appliedOperations → Outstanding state))
  | .pollReturns => inferInstanceAs (Decidable
      (state.staging = .appended → state.poll ≠ some state.context.appliedOperations))
  | .uiPipeFinished collected => inferInstanceAs (Decidable
      (state.client.pendingMidTurnRender = true → collected = true))
  | .timesOut | .pollReads | .takes _ _ | .startsJob | .finishesJob | .stores _ | .signals =>
    inferInstanceAs (Decidable True)

/-- The tool waits, the client has executed the operation, and nothing is left that would set the event. -/
structure Stranded (state : Handshake) : Prop where
  waiting : state.staging = .waiting
  unset : state.context.renderEvent = false
  executed : state.context.appliedOperations ≤ state.client.liveAppliedCount
  quiet : ¬ Outstanding state
  idle : state.client.pipe.job = none

/-- From the raised flag to the end of the wait. -/
def Staging.asksForRender : Staging → Bool
  | .raised | .cleared | .waiting => true
  | .idle | .appended | .returned _ | .lowered _ | .taken _ _ => false

/-- While a render is asked for, the operation was executed only where something is left to set the event. -/
structure Awake (state : Handshake) : Prop extends Bounded state where
  unseen : state.staging = .appended → state.client.liveAppliedCount < state.context.appliedOperations ∧
    ∀ snapshot ∈ state.snapshots, snapshot.operations < state.context.appliedOperations
  flag : state.staging.asksForRender = true → state.context.requiresRenderCallback = true
  flagged : state.staging.asksForRender = true → ∀ snapshot ∈ state.snapshots,
    snapshot.operations = state.context.appliedOperations → snapshot.requiresRenderCallback = true
  woken : state.staging.asksForRender = true →
    state.client.liveAppliedCount = state.context.appliedOperations →
      Outstanding state ∨ state.context.renderEvent = true

variable {state : Handshake}

theorem Awake.serve (awake : Awake state) (kept : WakeupsKept state .serve) : Awake state.serve := by
  have bounded : Bounded state.serve := awake.toBounded.step .serve
  have flag := awake.flag
  have flagged := awake.flagged
  have woken := awake.woken
  have unseen := awake.unseen
  unfold WakeupsKept at kept
  unfold Handshake.serve at bounded ⊢
  cases staging : state.staging with
  | idle =>
    rw [staging] at bounded
    refine { bounded with unseen := fun _ => ⟨?_, ?_⟩, flag := nofun, flagged := nofun, woken := nofun }
    · exact Nat.lt_succ_of_le awake.client
    · exact fun snapshot member => Nat.lt_succ_of_le (awake.snapshots snapshot member)
  | appended =>
    rw [staging] at bounded unseen
    obtain ⟨ahead, fresh⟩ := unseen rfl
    refine { bounded with unseen := nofun, flag := fun _ => rfl, flagged := fun _ => ?_, woken := fun _ => ?_ }
    · exact fun snapshot member shows => absurd shows (fresh snapshot member).ne
    · exact fun executed => absurd executed ahead.ne
  | raised =>
    rw [staging] at bounded flag flagged
    exact { bounded with
      unseen := nofun
      flag := fun _ => flag rfl
      flagged := fun _ => flagged rfl
      woken := fun _ executed => .inl (kept staging executed) }
  | cleared =>
    rw [staging] at bounded flag flagged woken
    exact { bounded with
      unseen := nofun
      flag := fun _ => flag rfl
      flagged := fun _ => flagged rfl
      woken := fun _ => woken rfl }
  | waiting =>
    rw [staging] at bounded
    dsimp only at bounded ⊢
    split_ifs at bounded ⊢
    · exact { bounded with
        unseen := nofun
        flag := nofun
        flagged := nofun
        woken := nofun }
    · exact awake
  | returned | lowered | taken =>
    rw [staging] at bounded
    exact { bounded with
      unseen := nofun
      flag := nofun
      flagged := nofun
      woken := nofun }

theorem Awake.pollReturns (awake : Awake state) (kept : WakeupsKept state .pollReturns) : Awake state.pollReturns := by
  have bounded : Bounded state.pollReturns := awake.toBounded.step .pollReturns
  rcases state.pollReturns_cases with ⟨-, same⟩ | ⟨operations, polled, same⟩ <;> rw [same] at bounded ⊢
  · exact awake
  · refine { bounded, awake with unseen := ?_, flagged := ?_, woken := awake.woken }
    · intro appended
      obtain ⟨ahead, fresh⟩ := awake.unseen appended
      refine ⟨ahead, fun snapshot member => ?_⟩
      rcases List.mem_append.mp member with old | new
      · exact fresh snapshot old
      · obtain rfl := List.mem_singleton.mp new
        have other : operations ≠ state.context.appliedOperations := fun same => kept appended (same ▸ polled)
        exact lt_of_le_of_ne (awake.poll operations polled) other
    · intro asks snapshot member
      rcases List.mem_append.mp member with old | new
      · exact awake.flagged asks snapshot old
      · obtain rfl := List.mem_singleton.mp new
        exact fun _ => awake.flag asks

theorem Awake.takes (awake : Awake state) (visible dirties : Bool) : Awake (state.takes visible dirties) := by
  have bounded : Bounded (state.takes visible dirties) := awake.toBounded.step (.takes visible dirties)
  rcases state.takes_cases visible dirties with same | ⟨snapshot, rest, queued, same⟩
  · rw [same]
    exact awake
  · have first : snapshot ∈ state.snapshots := by rw [queued]; exact List.mem_cons_self
    have later : ∀ other ∈ rest, other ∈ state.snapshots :=
      fun other member => by rw [queued]; exact List.mem_cons_of_mem _ member
    rcases same with same | ⟨-, same⟩ <;> rw [same] at bounded ⊢
    · exact { bounded, awake with
        unseen := fun appended =>
          ⟨(awake.unseen appended).1, fun other member => (awake.unseen appended).2 other (later other member)⟩
        flagged := fun asks other member => awake.flagged asks other (later other member)
        woken := awake.woken }
    · exact { bounded, awake with
        unseen := fun appended =>
          ⟨(awake.unseen appended).2 snapshot first,
            fun other member => (awake.unseen appended).2 other (later other member)⟩
        flagged := fun asks other member => awake.flagged asks other (later other member)
        -- the snapshot that shows the operation carries the flag, so the render is armed with it
        woken := fun asks executed => .inl (.inl (by simp [awake.flagged asks snapshot first executed])) }

theorem Awake.uiPipeFinished (awake : Awake state) {collected : Bool}
    (kept : WakeupsKept state (.uiPipeFinished collected)) : Awake (state.uiPipeFinished collected) := by
  have bounded : Bounded (state.uiPipeFinished collected) := awake.toBounded.step (.uiPipeFinished collected)
  rcases state.uiPipeFinished_cases collected with same | ⟨-, armed, same⟩ <;> rw [same] at bounded ⊢
  · exact awake
  · obtain rfl : collected = true := kept armed
    exact { bounded, awake with woken := fun _ _ => .inl (.inr (.inl (by simp))) }

theorem Awake.step (awake : Awake state) (event : HandshakeEvent) (kept : WakeupsKept state event) :
    Awake (Handshake.step state event) := by
  have bounded := awake.toBounded.step event
  cases event with
  | serve => exact awake.serve kept
  | pollReturns => exact awake.pollReturns kept
  | takes visible dirties => exact awake.takes visible dirties
  | uiPipeFinished collected => exact awake.uiPipeFinished kept
  | timesOut =>
    rcases state.timesOut_cases with same | ⟨-, same⟩ <;> rw [Handshake.step, same] at bounded ⊢
    · exact awake
    · exact { bounded with
        unseen := nofun
        flag := nofun
        flagged := nofun
        woken := nofun }
  | pollReads => exact { bounded, awake with woken := awake.woken }
  | startsJob =>
    rcases state.startsJob_cases with same | same <;> rw [Handshake.step, same] at bounded ⊢
    · exact awake
    · exact { bounded, awake with woken := awake.woken }
  | finishesJob =>
    rcases state.finishesJob_cases with same | ⟨shown, -, same⟩ <;> rw [Handshake.step, same] at bounded ⊢
    · exact awake
    · exact { bounded, awake with woken := awake.woken }
  | stores preview =>
    rcases state.stores_cases preview with same | ⟨-, same⟩ <;> rw [Handshake.step, same] at bounded ⊢
    · exact awake
    · exact { bounded, awake with woken := fun _ _ => .inl (.inr (.inr (Nat.succ_pos _))) }
  | signals =>
    rcases state.signals_cases with same | ⟨others, -, same⟩ <;> rw [Handshake.step, same] at bounded ⊢
    · exact awake
    · exact { bounded, awake with woken := fun _ _ => .inr rfl }

theorem awake_beginning : Awake beginning where
  toBounded := bounded_beginning
  unseen := nofun
  flag := nofun
  flagged := nofun
  woken := nofun

/-- In a run that keeps its wake-ups, the tool never waits for a render that nobody will post. -/
theorem step_not_lost (events : List HandshakeEvent)
    (kept : EveryStep Handshake.step WakeupsKept beginning events) :
    ¬ Stranded (run Handshake.step beginning events) := by
  intro stranded
  have awake : Awake (run Handshake.step beginning events) :=
    run_invariant (fun _ event awake kept => awake.step event kept) awake_beginning kept
  have asks : (run Handshake.step beginning events).staging.asksForRender = true := by
    rw [stranded.waiting]
    rfl
  rcases awake.woken asks (le_antisymm awake.client stranded.executed) with outstanding | set
  · exact stranded.quiet outstanding
  · exact absurd (set.symm.trans stranded.unset) (by decide)

theorem step_not_lost_one :
    (run Handshake.step beginning (stage ++ showOperation)).staging = .waiting ∧
      ¬ Stranded (run Handshake.step beginning (stage ++ showOperation)) :=
  ⟨by decide, step_not_lost _ (by decide)⟩

/-- The operation is executed on a poll between the append and the flag. -/
def unflagged : List HandshakeEvent := [.serve, .pollReads, .pollReturns, .takes true true, .serve, .serve, .serve]

theorem unflagged_stranded :
    ¬ ∀ events, .timesOut ∉ events → ¬ Stranded (run Handshake.step beginning events) := by
  intro safe
  refine safe unflagged (by decide) ?_
  constructor <;> decide

end Wakeups

end DarktableAgent.Live
