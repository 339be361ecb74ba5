import Mathlib.Data.List.Basic

/-! Runs of a machine whose steps are chosen by events.

An event carries whatever the environment decides. A property of runs is stated
about every step, on the state before it and the event, or about the last state.
-/

set_option autoImplicit false

namespace DarktableAgent.Foundation

variable {σ ε : Type} (step : σ → ε → σ)

/-- The state in which a run ends. -/
def run (start : σ) (events : List ε) : σ := events.foldl step start

/-- Every step of the run meets a condition on the state before it and its event. -/
def EveryStep (condition : σ → ε → Prop) : σ → List ε → Prop
  | _, [] => True
  | state, event :: rest => condition state event ∧ EveryStep condition (step state event) rest

instance decidableEveryStep (condition : σ → ε → Prop) [∀ state event, Decidable (condition state event)] :
    ∀ start events, Decidable (EveryStep step condition start events)
  | _, [] => inferInstanceAs (Decidable True)
  | start, event :: rest =>
    have := decidableEveryStep condition (step start event) rest
    inferInstanceAs (Decidable (condition start event ∧ EveryStep step condition (step start event) rest))

/-- The states a run can end in. -/
def Reachable (initial : σ → Prop) (state : σ) : Prop :=
  ∃ start, initial start ∧ ∃ events, state = run step start events

variable {step} {condition property : σ → ε → Prop} {invariant : σ → Prop} {start : σ}

theorem run_cons (event : ε) (rest : List ε) : run step start (event :: rest) = run step (step start event) rest :=
  rfl

theorem run_append (first second : List ε) :
    run step start (first ++ second) = run step (run step start first) second :=
  List.foldl_append

theorem everyStep_append {first second : List ε} : EveryStep step condition start (first ++ second) ↔
    EveryStep step condition start first ∧ EveryStep step condition (run step start first) second := by
  induction first generalizing start with
  | nil => exact (and_iff_right trivial).symm
  | cons event rest ih => rw [List.cons_append, EveryStep, ih, EveryStep, and_assoc, run_cons]

/-- A condition on every step is one on each event after the events before it. -/
theorem everyStep_iff_split {events : List ε} : EveryStep step condition start events ↔
    ∀ first event rest, events = first ++ event :: rest → condition (run step start first) event := by
  constructor
  · rintro meets first event rest rfl
    exact (everyStep_append.mp meets).2.1
  · intro splits
    induction events generalizing start with
    | nil => trivial
    | cons event rest ih =>
      refine ⟨splits [] event rest rfl, ih fun first next later same => ?_⟩
      exact splits (event :: first) next later (by rw [same]; rfl)

theorem everyStep_of_forall (holds : ∀ state event, condition state event) (start : σ) (events : List ε) :
    EveryStep step condition start events := by
  induction events generalizing start with
  | nil => trivial
  | cons event rest ih => exact ⟨holds start event, ih _⟩

/-- An invariant that every admitted step keeps, together with what it gives at each of these steps. -/
theorem everyStep_of_invariant
    (kept : ∀ state event, invariant state → condition state event → invariant (step state event))
    (gives : ∀ state event, invariant state → condition state event → property state event)
    (initially : invariant start) {events : List ε} (meets : EveryStep step condition start events) :
    EveryStep step property start events := by
  induction events generalizing start with
  | nil => trivial
  | cons event rest ih =>
    obtain ⟨here, later⟩ := meets
    exact ⟨gives start event initially here, ih (kept start event initially here) later⟩

theorem run_invariant
    (kept : ∀ state event, invariant state → condition state event → invariant (step state event))
    (initially : invariant start) {events : List ε} (meets : EveryStep step condition start events) :
    invariant (run step start events) := by
  induction events generalizing start with
  | nil => exact initially
  | cons event rest ih => exact ih (kept start event initially meets.1) meets.2

theorem invariant_of_reachable (invariant : σ → Prop) {initial : σ → Prop} {state : σ}
    (reachable : Reachable step initial state)
    (initially : ∀ start, initial start → invariant start)
    (kept : ∀ state event, invariant state → invariant (step state event)) : invariant state := by
  obtain ⟨start, isInitial, events, rfl⟩ := reachable
  have unconditional : EveryStep step (fun _ _ => True) start events :=
    everyStep_of_forall (fun _ _ => trivial) start events
  exact run_invariant (fun state event holds _ => kept state event holds) (initially start isInitial) unconditional

end DarktableAgent.Foundation
