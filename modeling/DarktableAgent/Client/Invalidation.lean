import DarktableAgent.Client.Execute

/-! Which executions invalidate the preview pipe.

A control hands on to the history only a value that differs from the one it holds, and the
pipes are invalidated with the history. For the module in focus a crop or perspective edit may
hold the invalidation back.
-/

set_option autoImplicit false

namespace DarktableAgent.Client

open Foundation Protocol

/-- What the darkroom's controls and its history say of a write, in the state the write meets. -/
structure Invalidation (σ ν : Type) where
  -- the comparison in `_slider_value_change` and `_combobox_set` before `dt_iop_gui_changed`
  changesValue : σ → ControlWrite ν → Bool
  -- `history_postpone_invalidate`, and the control's module is the one in focus
  postponed : σ → ControlWrite ν → Bool

namespace Invalidation

variable {σ ν W : Type} (invalidation : Invalidation σ ν)

/-- `dt_dev_invalidate_all` is reached from `_dev_add_history_item`. -/
def dirties (state : σ) (write : ControlWrite ν) : Bool :=
  invalidation.changesValue state write && !invalidation.postponed state write

variable [Numeric ν] (darkroom : Darkroom σ ν W)

/-- The execution loop invalidates the pipe with one of its operations. -/
def operationsDirty (state : σ) : List (ChatOperation ν) → Bool
  | [] => false
  | operation :: rest =>
    let executed := executeOperation darkroom state operation
    executed.writes.any (invalidation.dirties state) ||
      (decide (executed.result.status = .applied) && operationsDirty executed.state rest)

/-- `dt_agent_execute_response` invalidates the pipe. -/
def responseDirties (state : σ) (operations : List (ChatOperation ν)) : Bool :=
  if ¬ darkroom.isCurrentView state then false
  else
    let ordered := orderedOperationsForExecution operations
    match firstRejection darkroom state ordered with
    | some ⟨_, _, some _, _⟩ => false
    | some ⟨_, _, none, _⟩ | none => invalidation.operationsDirty darkroom state ordered

variable {invalidation darkroom}

theorem writes_of_operationsDirty {state : σ} {operations : List (ChatOperation ν)}
    (dirty : invalidation.operationsDirty darkroom state operations = true) :
    (executeAll darkroom state operations).writes ≠ [] := by
  induction operations generalizing state with
  | nil => cases dirty
  | cons operation rest ih =>
    simp only [operationsDirty, Bool.or_eq_true, Bool.and_eq_true, decide_eq_true_eq] at dirty
    have here : (executeOperation darkroom state operation).writes.any (invalidation.dirties state) = true →
        (executeOperation darkroom state operation).writes ≠ [] := by
      rintro written none
      rw [none] at written
      cases written
    unfold executeAll
    dsimp only
    split_ifs with applied
    · rcases dirty with written | ⟨-, later⟩
      · exact List.append_ne_nil_of_left_ne_nil (here written) _
      · exact List.append_ne_nil_of_right_ne_nil _ (ih later)
    · rcases dirty with written | ⟨applies, -⟩
      · exact here written
      · exact absurd applies applied

/-- An execution that writes nothing leaves the pipe as it is. -/
theorem writes_of_responseDirties {state : σ} {operations : List (ChatOperation ν)}
    (dirty : invalidation.responseDirties darkroom state operations = true) :
    (executeResponse darkroom state operations).writes ≠ [] := by
  unfold responseDirties at dirty
  unfold executeResponse
  by_cases elsewhere : ¬ darkroom.isCurrentView state = true
  · rw [if_pos elsewhere] at dirty
    cases dirty
  · rw [if_neg elsewhere] at dirty ⊢
    dsimp only at dirty ⊢
    cases found : firstRejection darkroom state (orderedOperationsForExecution operations) with
    | none =>
      rw [found] at dirty
      exact writes_of_operationsDirty dirty
    | some rejection =>
      obtain ⟨before, operation, error, behind⟩ := rejection
      rw [found] at dirty
      cases error with
      | none => exact writes_of_operationsDirty dirty
      | some text => cases dirty

end Invalidation

end DarktableAgent.Client
