import DarktableAgent.Foundation.Runs

/-! Two runs of one machine that a reader of a view cannot tell apart.

The view is what is compared. An event outside `heard` must leave it as it was; any
other event must change equal views alike. Runs that agree on the heard events then
end with the same view, whatever else came in between.
-/

set_option autoImplicit false

namespace DarktableAgent.Foundation

variable {σ ε ν : Type} {step : σ → ε → σ}

/-- The conditions on one step, for states whose view satisfies the invariant and admitted events. -/
structure Unwinds (step : σ → ε → σ) (view : σ → ν) (invariant : ν → Prop) (admitted heard : ε → Prop) : Prop where
  kept : ∀ state event, invariant (view state) → invariant (view (step state event))
  respected : ∀ first second event, view first = view second → view (step first event) = view (step second event)
  silent : ∀ state event, invariant (view state) → admitted event → ¬ heard event → view (step state event) = view state

variable {view : σ → ν} {invariant : ν → Prop} {admitted heard : ε → Prop}

/-- Two runs stay related when every event keeps two states related. -/
theorem run_relates (relates : σ → σ → Prop) {events : List ε} {first second : σ}
    (keeps : ∀ event ∈ events, ∀ first second, relates first second → relates (step first event) (step second event))
    (initially : relates first second) : relates (run step first events) (run step second events) := by
  induction events generalizing first second with
  | nil => exact initially
  | cons event rest ih =>
    have here := keeps event List.mem_cons_self first second initially
    exact ih (fun later member => keeps later (List.mem_cons_of_mem _ member)) here

theorem Unwinds.run_view (unwinds : Unwinds step view invariant admitted heard) {first second : σ} (events : List ε)
    (same : view first = view second) : view (run step first events) = view (run step second events) :=
  run_relates (fun first second => view first = view second)
    (fun event _ first second => unwinds.respected first second event) same

variable [DecidablePred heard]

/-- The events that are not heard may as well not have happened. -/
theorem Unwinds.run_filter (unwinds : Unwinds step view invariant admitted heard) {start : σ} (events : List ε)
    (initially : invariant (view start)) (admissible : ∀ event ∈ events, admitted event) :
    view (run step start events) = view (run step start (events.filter (heard ·))) := by
  induction events generalizing start with
  | nil => rfl
  | cons event rest ih =>
    have later : ∀ event ∈ rest, admitted event := fun event member => admissible event (List.mem_cons_of_mem _ member)
    -- an event that is not heard is dropped, since the run from the same view ends with the same view
    by_cases hears : heard event
    · rw [List.filter_cons_of_pos (by simpa using hears), run_cons, run_cons]
      exact ih (unwinds.kept start event initially) later
    · rw [List.filter_cons_of_neg (by simpa using hears), run_cons,
        ih (unwinds.kept start event initially) later]
      have here : admitted event := admissible event List.mem_cons_self
      exact unwinds.run_view _ (unwinds.silent start event initially here hears)

/-- Runs that hear the same end with the same view. -/
theorem Unwinds.run_congr (unwinds : Unwinds step view invariant admitted heard) {start : σ} {first second : List ε}
    (initially : invariant (view start)) (firstAdmissible : ∀ event ∈ first, admitted event)
    (secondAdmissible : ∀ event ∈ second, admitted event)
    (same : first.filter (heard ·) = second.filter (heard ·)) :
    view (run step start first) = view (run step start second) := by
  rw [unwinds.run_filter first initially firstAdmissible, unwinds.run_filter second initially secondAdmissible, same]

end DarktableAgent.Foundation
