import Mathlib.Algebra.Order.Ring.Rat
import Mathlib.Tactic.NormNum
import DarktableAgent.Client.Collect
import DarktableAgent.Foundation.Proportion

/-! The levels of the rgb levels module: what the actions do to them, and what the agent writes.

Arithmetic is exact. A division by zero has no result, and neither has an action that makes one.
-/

set_option autoImplicit false

namespace DarktableAgent.Client.RgbLevels

open Foundation

/-- The points of a channel, by handle. -/
abbrev Levels := Fin 3 → ℚ

theorem firstHandle : 0 < 3 := by decide

theorem secondHandle : 1 < 3 := by decide

theorem thirdHandle : 2 < 3 := by decide

def black : Fin 3 := ⟨0, firstHandle⟩

def gray : Fin 3 := ⟨1, secondHandle⟩

def white : Fin 3 := ⟨2, thirdHandle⟩

/-- The distance that handles keep, 0.05. -/
def minDistance : ℚ := 1 / 20

/-- Distance moved for each scroll event. -/
def interval : ℚ := 1 / 50

/-- The channel of the active tab and the proportion are the widget's, the levels are the parameters. -/
structure State where
  channel : Fin 3
  dragStartPercentage : ℚ
  levels : RgblevelsParams

def divide (dividend divisor : ℚ) : Option ℚ := if divisor = 0 then none else some (dividend / divisor)

/-- The least and the greatest position of a handle. -/
def handleRange (handleMove : Fin 3) (levels : Levels) (percentage : ℚ) : Option (ℚ × ℚ) :=
  if handleMove = black then do
    let maxX := min (levels white - (← divide minDistance percentage)) 1
    let maxX := min (← divide (levels white * (1 - percentage) - minDistance) (1 - percentage)) maxX
    pure (0, maxX)
  else if handleMove = gray then some (levels black + minDistance, levels white - minDistance)
  else do
    let minX := max ((← divide minDistance percentage) + levels black) 0
    let minX := max (← divide (levels black * (1 - percentage) + minDistance) (1 - percentage)) minX
    pure (minX, 1)

/-- Put a handle down; next to an outer handle, gray keeps its proportion. -/
def placeHandle (handleMove : Fin 3) (position : ℚ) (levels : Levels) (percentage : ℚ) : Levels :=
  let moved := Function.update levels handleMove position
  if handleMove = gray then moved
  else Function.update moved gray (moved black + percentage * (moved white - moved black))

/-- `_rgblevels_move_handle` -/
def rgblevelsMoveHandle (handleMove : Fin 3) (newPos : ℚ) (levels : Levels) (percentage : ℚ) : Option Levels := do
  let (minX, maxX) ← handleRange handleMove levels percentage
  pure (placeHandle handleMove (min maxX (max minX newPos)) levels percentage)

def State.withLevels (state : State) (levels : Levels) : State :=
  { state with levels := Function.update state.levels state.channel levels }

/-- A move on the active channel, by the proportion at which gray stands now. -/
def State.move (state : State) (element : Fin 3) (newPos : ℚ) : Option State := do
  let levels := state.levels state.channel
  let percentage ← divide (levels gray - levels black) (levels white - levels black)
  let moved ← rgblevelsMoveHandle element newPos levels percentage
  pure ({ state with dragStartPercentage := percentage }.withLevels moved)

inductive ActionEffect where
  | edit
  | up
  | down
  | reset
  | top
  | bottom
  | set
  deriving DecidableEq, Repr

def State.perform (state : State) (element : Fin 3) (effect : ActionEffect) (moveSize : ℚ) : Option State :=
  let scroll (moveSize : ℚ) := state.move element (state.levels state.channel element + interval * moveSize)
  match effect with
  | .reset => some (state.withLevels (rgblevelsInit state.channel))
  | .bottom => scroll (-1000000)
  | .top => scroll 1000000
  | .down => scroll (-moveSize)
  | .up => scroll moveSize
  | .set => state.move element moveSize
  -- unknown to the levels, and only logged
  | .edit => some state

/-- `_action_process` on the active channel. The size is absent when the value is only read; the number
is absent when the action is not valid. -/
def actionProcess (state : State) (element : Nat) (effect : ActionEffect) (moveSize : Option ℚ) :
    Option (Option ℚ × State) :=
  if isElement : element < 3 then
    let element : Fin 3 := ⟨element, isElement⟩
    let after := (moveSize.map (state.perform element effect)).getD (some state)
    after.map fun after => (some (after.levels after.channel element), after)
  else some (none, state)

/-- What reaches the widget: the tab of a channel is activated, or a handle is acted on. -/
inductive Action where
  | activate (channel : Fin 3)
  | process (element : Nat) (effect : ActionEffect) (moveSize : Option ℚ)
  deriving DecidableEq, Repr

def act (state : State) : Action → Option State
  | .activate channel => some { state with channel }
  | .process element effect moveSize => (actionProcess state element effect moveSize).map (·.2)

def actions (state : State) (sequence : List Action) : Option State := sequence.foldlM act state

/-- The levels of `init`. -/
def initial (channel : Fin 3) (dragStartPercentage : ℚ) : State where
  channel
  dragStartPercentage
  levels := rgblevelsInit

/-! ## Separated levels -/

structure Separated (levels : Levels) : Prop where
  nonneg : 0 ≤ levels black
  apart : Apart minDistance (levels black) (levels gray) (levels white)
  atMostOne : levels white ≤ 1

def State.Valid (state : State) : Prop := ∀ channel, Separated (state.levels channel)

theorem handle_cases : ∀ handle : Fin 3, handle = black ∨ handle = gray ∨ handle = white := by decide

@[simp] theorem handles_distinct : black ≠ gray ∧ black ≠ white ∧ gray ≠ black ∧ gray ≠ white ∧ white ≠ black ∧
    white ≠ gray := by decide

theorem minDistance_pos : 0 < minDistance := by norm_num [minDistance]

theorem separated_rgblevelsInit (channel : Fin 3) : Separated (rgblevelsInit channel) := by
  constructor
  case nonneg => exact le_rfl
  case apart => constructor <;> norm_num [rgblevelsInit, minDistance, black, gray, white]
  case atMostOne => exact le_rfl

/-- Levels are within the range that their descriptors report. -/
theorem Separated.between {levels : Levels} (separated : Separated levels) (handle : Fin 3) :
    0 ≤ levels handle ∧ levels handle ≤ 1 := by
  have nonneg := separated.nonneg
  have atMostOne := separated.atMostOne
  obtain ⟨below, above⟩ := separated.apart
  have positive := minDistance_pos
  rcases handle_cases handle with rfl | rfl | rfl <;> constructor <;> linarith

theorem divide_of_ne {dividend divisor : ℚ} (nonzero : divisor ≠ 0) :
    divide dividend divisor = some (dividend / divisor) := if_neg nonzero

section PlaceHandle

variable (levels : Levels) (place percentage : ℚ)

@[simp] theorem placeHandle_self (handle : Fin 3) (isOuter : handle ≠ gray) :
    placeHandle handle place levels percentage handle = place := by
  simp [placeHandle, isOuter]

@[simp] theorem placeHandle_gray : placeHandle gray place levels percentage = Function.update levels gray place := by
  simp [placeHandle]

@[simp] theorem placeHandle_black_gray :
    placeHandle black place levels percentage gray = place + percentage * (levels white - place) := by
  simp [placeHandle]

@[simp] theorem placeHandle_white_gray :
    placeHandle white place levels percentage gray = levels black + percentage * (place - levels black) := by
  simp [placeHandle]

/-- Only the handle and gray are written. -/
theorem placeHandle_of_ne {handle other : Fin 3} (isOther : other ≠ handle) (notGray : other ≠ gray) :
    placeHandle handle place levels percentage other = levels other := by
  unfold placeHandle
  by_cases isGray : handle = gray
  · simp [isGray, notGray]
  · simp [isGray, isOther, notGray]

/-- Of the handles only the one put down and, next to an outer one, gray differ. -/
theorem placeHandle_frame {handle other : Fin 3} (isOther : other ≠ handle)
    (notPulled : ¬(other = gray ∧ (handle.val = 0 ∨ handle.val = 2))) :
    placeHandle handle place levels percentage other = levels other := by
  by_cases isGray : other = gray
  · have isOuter : handle.val = 0 ∨ handle.val = 2 := by
      rcases handle_cases handle with rfl | rfl | rfl
      · exact .inl rfl
      · exact absurd isGray isOther
      · exact .inr rfl
    exact absurd ⟨isGray, isOuter⟩ notPulled
  · exact placeHandle_of_ne levels place percentage isOther isGray

end PlaceHandle

section Move

variable {levels : Levels}

theorem Separated.wide (separated : Separated levels) : levels white - levels black ≠ 0 :=
  (separated.apart.width_pos minDistance_pos).ne'

/-- The proportion at which gray stands. -/
def proportion (levels : Levels) : ℚ := share (levels black) (levels gray) (levels white)

theorem Separated.proportion_pos (separated : Separated levels) : 0 < proportion levels :=
  separated.apart.share_pos minDistance_pos

theorem Separated.proportion_lt_one (separated : Separated levels) : proportion levels < 1 :=
  separated.apart.share_lt_one minDistance_pos

theorem Separated.proportion_ne_zero (separated : Separated levels) : proportion levels ≠ 0 :=
  separated.proportion_pos.ne'

theorem Separated.rest_ne_zero (separated : Separated levels) : 1 - proportion levels ≠ 0 :=
  (sub_pos.mpr separated.proportion_lt_one).ne'

/-- What gray's proportion needs to keep the distance is there, on both sides. -/
theorem Separated.room_below (separated : Separated levels) :
    minDistance / proportion levels ≤ levels white - levels black :=
  separated.apart.div_share_le minDistance_pos

theorem Separated.room_above (separated : Separated levels) :
    minDistance / (1 - proportion levels) ≤ levels white - levels black :=
  separated.apart.div_rest_le minDistance_pos

/-- A range that is not empty, all of whose positions keep the levels separated. -/
structure Admits (handle : Fin 3) (levels : Levels) (range : ℚ × ℚ) : Prop where
  inOrder : range.1 ≤ range.2
  keeps : ∀ place, range.1 ≤ place → place ≤ range.2 → Separated (placeHandle handle place levels (proportion levels))

/-- Black may go up as far as its proportion leaves the distance on both sides of gray; it stands there now. -/
theorem handleRange_black (separated : Separated levels) :
    ∃ range, handleRange black levels (proportion levels) = some range ∧ Admits black levels range := by
  have positive := separated.proportion_pos
  have proper := separated.proportion_lt_one
  have second : (levels white * (1 - proportion levels) - minDistance) / (1 - proportion levels) =
      levels white - minDistance / (1 - proportion levels) := by
    rw [sub_div, mul_div_cancel_right₀ _ separated.rest_ne_zero]
  refine ⟨(0, min (levels white - minDistance / (1 - proportion levels))
    (min (levels white - minDistance / proportion levels) 1)), ?_, ?_, ?_⟩
  · simp [handleRange, divide_of_ne separated.proportion_ne_zero, divide_of_ne separated.rest_ne_zero, second]
  · apply le_min
    · exact separated.nonneg.trans (le_sub_comm.mp separated.room_above)
    · exact le_min (separated.nonneg.trans (le_sub_comm.mp separated.room_below)) zero_le_one
  · intro place nonneg bounded
    obtain ⟨keepsAbove, keepsBelow⟩ := le_min_iff.mp bounded
    have moved : Apart minDistance place (place + proportion levels * (levels white - place)) (levels white) :=
      apart_of_div_le positive proper (le_sub_comm.mp (keepsBelow.trans (min_le_left _ _))) (le_sub_comm.mp keepsAbove)
    constructor
    case nonneg => simpa using nonneg
    case apart => simpa [placeHandle_of_ne] using moved
    case atMostOne => simpa [placeHandle_of_ne] using separated.atMostOne

theorem handleRange_gray (separated : Separated levels) :
    ∃ range, handleRange gray levels (proportion levels) = some range ∧ Admits gray levels range := by
  refine ⟨_, rfl, ?_, ?_⟩
  · linarith [separated.apart.below, separated.apart.above]
  · intro place below above
    constructor
    case nonneg => simpa using separated.nonneg
    case apart =>
      constructor
      · simpa using below
      · simpa using add_le_of_le_sub_right above
    case atMostOne => simpa using separated.atMostOne

theorem handleRange_white (separated : Separated levels) :
    ∃ range, handleRange white levels (proportion levels) = some range ∧ Admits white levels range := by
  have positive := separated.proportion_pos
  have proper := separated.proportion_lt_one
  have second : (levels black * (1 - proportion levels) + minDistance) / (1 - proportion levels) =
      levels black + minDistance / (1 - proportion levels) := by
    rw [add_div, mul_div_cancel_right₀ _ separated.rest_ne_zero]
  refine ⟨(max (levels black + minDistance / (1 - proportion levels))
    (max (minDistance / proportion levels + levels black) 0), 1), ?_, ?_, ?_⟩
  · simp [handleRange, divide_of_ne separated.proportion_ne_zero, divide_of_ne separated.rest_ne_zero, second]
  · apply max_le
    · exact (le_sub_iff_add_le'.mp separated.room_above).trans separated.atMostOne
    · exact max_le ((le_sub_iff_add_le.mp separated.room_below).trans separated.atMostOne) zero_le_one
  · intro place bounded atMostOne
    obtain ⟨keepsAbove, keepsBelow⟩ := max_le_iff.mp bounded
    have moved : Apart minDistance (levels black) (levels black + proportion levels * (place - levels black)) place :=
      apart_of_div_le positive proper (le_sub_iff_add_le.mpr ((le_max_left _ _).trans keepsBelow))
        (le_sub_iff_add_le'.mpr keepsAbove)
    constructor
    case nonneg => simpa [placeHandle_of_ne] using separated.nonneg
    case apart => simpa [placeHandle_of_ne] using moved
    case atMostOne => simpa using atMostOne

theorem handleRange_admits (separated : Separated levels) (handle : Fin 3) :
    ∃ range, handleRange handle levels (proportion levels) = some range ∧ Admits handle levels range := by
  rcases handle_cases handle with rfl | rfl | rfl
  · exact handleRange_black separated
  · exact handleRange_gray separated
  · exact handleRange_white separated

/-- A handle of separated levels can be moved, wherever it is asked to go. -/
theorem rgblevelsMoveHandle_spec (separated : Separated levels) (handle : Fin 3) (newPos : ℚ) :
    ∃ place, rgblevelsMoveHandle handle newPos levels (proportion levels) =
        some (placeHandle handle place levels (proportion levels)) ∧
      Separated (placeHandle handle place levels (proportion levels)) := by
  obtain ⟨range, isRange, admits⟩ := handleRange_admits separated handle
  obtain ⟨above, below⟩ := between_of_min_max admits.inOrder newPos
  refine ⟨min range.2 (max range.1 newPos), ?_, admits.keeps _ above below⟩
  simp [rgblevelsMoveHandle, isRange]

end Move

/-! ## Actions -/

section Actions

variable {state : State}

/-- The levels a step may change. The other handles of the channel keep theirs, but for gray when an outer
handle moves; a reset is of the whole channel. -/
structure Frame (state : State) (element : Nat) (effect : ActionEffect) (after : State) : Prop where
  otherChannels : ∀ channel ≠ state.channel, after.levels channel = state.levels channel
  otherHandles : effect ≠ .reset → ∀ channel, ∀ handle : Fin 3, handle.val ≠ element →
    ¬(handle = gray ∧ (element = 0 ∨ element = 2)) → after.levels channel handle = state.levels channel handle

/-- What a step on a valid state comes to. -/
structure Step (state : State) (element : Nat) (effect : ActionEffect) (after : State) : Prop where
  valid : after.Valid
  sameChannel : after.channel = state.channel
  frame : Frame state element effect after

theorem State.Valid.withLevels (valid : state.Valid) {levels : Levels} (separated : Separated levels) :
    (state.withLevels levels).Valid := by
  intro channel
  by_cases isActive : channel = state.channel
  · simpa [State.withLevels, isActive] using separated
  · simpa [State.withLevels, isActive] using valid channel

theorem State.withLevels_of_ne {levels : Levels} {channel : Fin 3} (isOther : channel ≠ state.channel) :
    (state.withLevels levels).levels channel = state.levels channel := by
  simp [State.withLevels, isOther]

theorem Step.refl (valid : state.Valid) (element : Nat) (effect : ActionEffect) : Step state element effect state :=
  ⟨valid, rfl, fun _ _ => rfl, fun _ _ _ _ _ => rfl⟩

theorem State.Valid.reset (valid : state.Valid) (element : Nat) :
    Step state element .reset (state.withLevels (rgblevelsInit state.channel)) := by
  refine ⟨valid.withLevels (separated_rgblevelsInit state.channel), rfl, ?_, ?_⟩
  · intro channel isOther
    exact State.withLevels_of_ne isOther
  · intro notReset
    exact absurd rfl notReset

theorem State.Valid.move (valid : state.Valid) (element : Fin 3) (effect : ActionEffect) (newPos : ℚ) :
    ∃ after, state.move element newPos = some after ∧ Step state element effect after := by
  have separated := valid state.channel
  obtain ⟨place, isMoved, staysSeparated⟩ := rgblevelsMoveHandle_spec separated element newPos
  have isProportion : divide (state.levels state.channel gray - state.levels state.channel black)
      (state.levels state.channel white - state.levels state.channel black) =
        some (proportion (state.levels state.channel)) :=
    divide_of_ne separated.wide
  let measured : State := { state with dragStartPercentage := proportion (state.levels state.channel) }
  refine ⟨measured.withLevels (placeHandle element place (state.levels state.channel) measured.dragStartPercentage),
    ?_, ?_, rfl, ?_, ?_⟩
  · simp [State.move, isProportion, isMoved, measured]
  · exact @State.Valid.withLevels measured valid _ staysSeparated
  · intro channel isOther
    exact @State.withLevels_of_ne measured _ channel isOther
  · intro _ channel handle isOther notPulled
    by_cases isActive : channel = state.channel
    · have onChannel : (measured.withLevels
          (placeHandle element place (state.levels state.channel) measured.dragStartPercentage)).levels channel =
          placeHandle element place (state.levels state.channel) measured.dragStartPercentage := by
        simp [State.withLevels, measured, isActive]
      rw [onChannel, isActive]
      exact placeHandle_frame _ _ _ (fun same => isOther (congrArg Fin.val same)) notPulled
    · rw [@State.withLevels_of_ne measured _ channel isActive]

theorem State.Valid.perform (valid : state.Valid) (element : Fin 3) (effect : ActionEffect) (moveSize : ℚ) :
    ∃ after, state.perform element effect moveSize = some after ∧ Step state element effect after := by
  cases effect with
  | edit => exact ⟨state, rfl, Step.refl valid element .edit⟩
  | up => exact valid.move element .up _
  | down => exact valid.move element .down _
  | reset => exact ⟨_, rfl, valid.reset element⟩
  | top => exact valid.move element .top _
  | bottom => exact valid.move element .bottom _
  | set => exact valid.move element .set _

/-- An action on the widget always has a result. It returns where the handle then is, if there is such a handle. -/
theorem State.Valid.actionProcess (valid : state.Valid) (element : Nat) (effect : ActionEffect) (moveSize : Option ℚ) :
    ∃ number after, RgbLevels.actionProcess state element effect moveSize = some (number, after) ∧
      Step state element effect after ∧
      number = if inside : element < 3 then some (after.levels state.channel ⟨element, inside⟩) else none := by
  unfold RgbLevels.actionProcess
  by_cases isElement : element < 3
  · cases moveSize with
    | none =>
      refine ⟨some (state.levels state.channel ⟨element, isElement⟩), state, ?_, Step.refl valid element effect, ?_⟩
      · simp [isElement]
      · simp [isElement]
    | some moveSize =>
      obtain ⟨after, performs, step⟩ := valid.perform ⟨element, isElement⟩ effect moveSize
      refine ⟨some (after.levels after.channel ⟨element, isElement⟩), after, ?_, step, ?_⟩
      · simp [isElement, performs]
      · simp [isElement, step.sameChannel]
  · exact ⟨none, state, by simp [isElement], Step.refl valid element effect, by simp [isElement]⟩

/-- What an action leaves of the levels. -/
def Action.Leaves (before after : State) : Action → Prop
  | .activate _ => after.levels = before.levels
  | .process element effect _ => Frame before element effect after

theorem State.Valid.act (valid : state.Valid) (action : Action) :
    ∃ after, RgbLevels.act state action = some after ∧ after.Valid ∧ action.Leaves state after := by
  cases action with
  | activate channel => exact ⟨{ state with channel }, rfl, valid, rfl⟩
  | process element effect moveSize =>
    obtain ⟨number, after, isResult, step, _⟩ := valid.actionProcess element effect moveSize
    exact ⟨after, by simp [RgbLevels.act, isResult], step.valid, step.frame⟩

/-- By induction on the sequence: each action has a result, which is valid again. -/
theorem State.Valid.actions (valid : state.Valid) (sequence : List Action) :
    ∃ after, RgbLevels.actions state sequence = some after ∧ after.Valid := by
  induction sequence generalizing state with
  | nil => exact ⟨state, rfl, valid⟩
  | cons action rest ih =>
    obtain ⟨next, isNext, nextValid, _⟩ := valid.act action
    obtain ⟨after, isAfter, afterValid⟩ := ih nextValid
    refine ⟨after, ?_, afterValid⟩
    rw [RgbLevels.actions, List.foldlM_cons, isNext]
    exact isAfter

theorem valid_initial (channel : Fin 3) (dragStartPercentage : ℚ) : (initial channel dragStartPercentage).Valid :=
  separated_rgblevelsInit

end Actions

/-- From the default levels on, every action has a result, so that nothing is divided by zero; the levels
are separated before it and after it; and it changes no more than the handle it is on pulls along. -/
theorem levels_separated (channel : Fin 3) (dragStartPercentage : ℚ) (earlier : List Action) (action : Action) :
    ∃ before after, actions (initial channel dragStartPercentage) earlier = some before ∧
      act before action = some after ∧ before.Valid ∧ after.Valid ∧ action.Leaves before after := by
  obtain ⟨before, isBefore, valid⟩ := (valid_initial channel dragStartPercentage).actions earlier
  obtain ⟨after, isAfter, afterValid, leaves⟩ := valid.act action
  exact ⟨before, after, isBefore, isAfter, valid, afterValid, leaves⟩

/-! ## What the agent writes -/

/-- Whether the tab of the channel accepts its activation, and whether the action is found in the current view. -/
structure Host where
  activates : Bool
  processes : Bool

/-- `_write_rgblevels_number`: the number reported as applied, unless the write fails. -/
def writeRgblevelsNumber (host : Host) (state : State) (channel : Fin 3) (element : Nat) (requested : ℚ) :
    Option (Option ℚ × State) :=
  if !host.activates then some (none, state)
  else
    let activated := { state with channel }
    if !host.processes then some (none, activated)
    else actionProcess activated element .set (some requested)

/-- `_read_rgblevels_number` -/
def readRgblevelsNumber (state : State) (channel : Fin 3) (element : Nat) : Option ℚ :=
  if inside : element < 3 then some (state.levels channel ⟨element, inside⟩) else none

/-- A write that goes through is two actions on the widget. -/
theorem writeRgblevelsNumber_eq_actions (state : State) (channel : Fin 3) (element : Nat) (requested : ℚ) :
    (writeRgblevelsNumber ⟨true, true⟩ state channel element requested).map (·.2) =
      actions state [.activate channel, .process element .set (some requested)] := by
  simp [writeRgblevelsNumber, actions, act]

theorem readRgblevelsNumber_between {state : State} (valid : state.Valid) {channel : Fin 3} {element : Nat} {number : ℚ}
    (reads : readRgblevelsNumber state channel element = some number) : 0 ≤ number ∧ number ≤ 1 := by
  unfold readRgblevelsNumber at reads
  split at reads
  · cases reads
    exact (valid channel).between _
  · cases reads

/-- A write reports what is read back afterwards, and the other channels keep their levels. -/
theorem writeRgblevelsNumber_spec {state : State} (valid : state.Valid) (host : Host) (channel : Fin 3)
    (element : Nat) (requested : ℚ) :
    ∃ applied after, writeRgblevelsNumber host state channel element requested = some (applied, after) ∧
      after.Valid ∧ (applied.isSome → readRgblevelsNumber after channel element = applied) ∧
      ∀ other ≠ channel, after.levels other = state.levels other := by
  unfold writeRgblevelsNumber
  cases host.activates with
  | false => exact ⟨none, state, rfl, valid, by simp, fun _ _ => rfl⟩
  | true =>
    cases host.processes with
    | false => exact ⟨none, { state with channel }, rfl, valid, by simp, fun _ _ => rfl⟩
    | true =>
      obtain ⟨applied, after, isResult, step, isNumber⟩ :=
        @State.Valid.actionProcess { state with channel } valid element .set (some requested)
      exact ⟨applied, after, isResult, step.valid, fun _ => isNumber.symm, step.frame.otherChannels⟩

end DarktableAgent.Client.RgbLevels
