import DarktableAgent.Client.ColorZones
import DarktableAgent.Foundation.Runs

/-! Which instance of the color zones a write reaches.

`dt_action_process` takes the number it is given for a place among the instances in pipe order,
and 0 for the instance that the shortcuts are connected to. The agent hands it the module's
`multi_priority`, which is neither.
-/

set_option autoImplicit false

namespace DarktableAgent.Client.ColorZones

open Foundation

/-- An instance of the color zones; it is placed unless its `iop_order` is `INT_MAX`. -/
structure Instance where
  multiPriority : Nat
  placed : Bool
  params : Params

/-- `dev->iop`, in pipe order; a module of another kind is `none`. -/
abbrev Modules := List (Option Instance)

/-- A write of the agent: the module of its descriptor, and the instance that the shortcuts are connected to. -/
structure AgentWrite extends Write where
  position : Nat
  connected : Option Nat

namespace Modules

/-- The color zones instance at a position. -/
def instance? (modules : Modules) (position : Nat) : Option Instance := modules[position]?.join

def setParams (modules : Modules) (position : Nat) (params : Params) : Modules :=
  modules.modify position (Option.map fun found => { found with params })

/-- The loop in `_process_action`: the position of the placed instance that uses up the count, or of
the last module. -/
def countInstances : Modules → Nat → Nat
  | [], _ | [_], _ => 0
  | module :: next :: rest, count =>
    if module.any (·.placed) then
      if count = 1 then 0 else countInstances (next :: rest) (count - 1) + 1
    else countInstances (next :: rest) count + 1

/-- The instance whose widgets `_process_action` takes. A module of another kind has no widget of the
action; then, as for the number 0, the connected one stays. -/
def processed (modules : Modules) (connected : Option Nat) (number : Nat) : Option Nat :=
  if number ≠ 0 ∧ (modules.instance? (modules.countInstances number)).isSome then some (modules.countInstances number)
  else connected

/-- The instance that a write reaches: `multi_priority` is taken for its number. -/
def reached (modules : Modules) (write : AgentWrite) : Option (Nat × Instance) := do
  let own ← modules.instance? write.position
  let target ← modules.processed write.connected own.multiPriority
  let found ← modules.instance? target
  pure (target, found)

/-- `_write_colorzones_number` -/
def writeColorzonesNumber (modules : Modules) (write : AgentWrite) : Option (Option ℚ × Modules) :=
  match modules.reached write with
  | none => some (none, modules)
  | some (target, found) =>
    (writeInstance write.host found.params write.channel write.band write.requested).map fun result =>
      (result.1, modules.setParams target result.2)

/-- The number that `_read_colorzones_number` finds for the descriptor of a write. -/
def numberOf (curveValue : Params → Channel → ℚ → Option ℚ) (modules : Modules) (write : AgentWrite) : Option ℚ :=
  (modules.instance? write.position).bind fun own =>
    readColorzonesNumber curveValue own.params write.channel write.band

/-- The state behind a write. -/
def step (modules : Modules) (write : AgentWrite) : Modules :=
  ((modules.writeColorzonesNumber write).map Prod.snd).getD modules

def Valid (modules : Modules) : Prop :=
  ∀ position found, modules.instance? position = some found → found.params.Valid

/-- What a write that reports success promises. -/
structure Succeeds (curveValue : Params → Channel → ℚ → Option ℚ) (modules : Modules) (write : AgentWrite) (applied : ℚ)
    (after : Modules) : Prop where
  applied : applied = clamp write.requested (-1) 1
  readBack : after.numberOf curveValue write = some (clamp write.requested (-1) 1)
  unchanged : ∀ position before, modules.instance? position = some before →
    ∃ now, after.instance? position = some now ∧
      (∀ other, other ≠ write.channel → now.params.curve other = before.params.curve other) ∧
      now.params.channel = before.params.channel ∧ now.params.splinesVersion = before.params.splinesVersion
  valid : after.Valid

/-- The write has a result: it fails and changes nothing, or it keeps its promise. -/
def Meets (curveValue : Params → Channel → ℚ → Option ℚ) (modules : Modules) (write : AgentWrite) : Prop :=
  match modules.writeColorzonesNumber write with
  | none => False
  | some (none, after) => after = modules
  | some (some applied, after) => Succeeds curveValue modules write applied after

/-- A call that gets through reaches the module it is meant for, or that module's band has the number
already; and the write fits the instance that it reaches. -/
def Fits (curveValue : Params → Channel → ℚ → Option ℚ) (modules : Modules) (write : AgentWrite) : Prop :=
  write.GetsThrough → ∀ target found, modules.reached write = some (target, found) →
    (target = write.position ∨ modules.numberOf curveValue write = some (clamp write.requested (-1) 1)) ∧
      ColorZones.Fits found.params write.toWrite

/-- A call that reaches its own module has only to fit there. -/
theorem Fits.ofOwn {curveValue : Params → Channel → ℚ → Option ℚ} {modules : Modules} {write : AgentWrite}
    (own : ∀ place ∈ modules.reached write,
      place.1 = write.position ∧ ColorZones.Fits place.2.params write.toWrite) : Fits curveValue modules write := by
  rintro - target found reaches
  obtain ⟨here, fits⟩ := own (target, found) reaches
  exact ⟨.inl here, fits⟩

section Positions

variable {modules : Modules} {position target : Nat} {params : Params} {found : Instance}

theorem instance?_setParams : (modules.setParams target params).instance? position =
    if position = target then (modules.instance? target).map fun found => { found with params }
    else modules.instance? position := by
  unfold setParams instance?
  rw [List.getElem?_modify]
  split_ifs with here same same
  · rw [same]
    cases modules[target]? with
    | none => rfl
    | some module => rfl
  · exact absurd here.symm same
  · exact absurd same.symm here
  · cases modules[position]? <;> rfl

theorem setParams_same (here : modules.instance? target = some found) : modules.setParams target found.params = modules := by
  have present : modules[target]? = some (some found) := Option.join_eq_some_iff.mp here
  unfold setParams
  rw [List.modify_eq_set_getElem?, present]
  exact set_eq_self present

theorem instance?_of_reached {write : AgentWrite} (reaches : modules.reached write = some (target, found)) :
    modules.instance? target = some found := by
  simp only [reached, Option.bind_eq_bind, Option.bind_eq_some_iff, Option.pure_def, Option.some.injEq,
    Prod.mk.injEq] at reaches
  obtain ⟨own, -, position, -, found, here, rfl, rfl⟩ := reaches
  exact here

theorem Valid.setParams (valid : modules.Valid) (validParams : params.Valid) :
    (modules.setParams target params).Valid := by
  intro position found here
  rw [instance?_setParams] at here
  split_ifs at here
  · obtain ⟨before, -, rfl⟩ := Option.map_eq_some_iff.mp here
    exact validParams
  · exact valid position found here

end Positions

section Writes

variable {curveValue : Params → Channel → ℚ → Option ℚ} {modules : Modules} {write : AgentWrite} {target : Nat}
  {found : Instance}

theorem writeColorzonesNumber_reached (reaches : modules.reached write = some (target, found)) :
    modules.writeColorzonesNumber write =
      (writeInstance write.host found.params write.channel write.band write.requested).map fun result =>
        (result.1, modules.setParams target result.2) := by
  unfold writeColorzonesNumber
  rw [reaches]

/-- The band of the module is read as before when the write went to another one. -/
theorem numberOf_setParams_of_ne (elsewhere : write.position ≠ target) (params : Params) :
    (modules.setParams target params).numberOf curveValue write = modules.numberOf curveValue write := by
  unfold numberOf
  rw [instance?_setParams, if_neg elsewhere]

theorem numberOf_setParams (here : modules.instance? target = some found) (own : target = write.position)
    (params : Params) : (modules.setParams target params).numberOf curveValue write =
      readColorzonesNumber curveValue params write.channel write.band := by
  unfold numberOf
  rw [instance?_setParams, if_pos own.symm, here]
  rfl

/-- What succeeds at the instance that is reached succeeds among the modules, when the band reads as it should. -/
theorem Succeeds.ofInstance (valid : modules.Valid) (here : modules.instance? target = some found) {applied : ℚ}
    {after : Params} (succeeds : ColorZones.Succeeds curveValue found.params write.toWrite applied after)
    (readBack : (modules.setParams target after).numberOf curveValue write = some (clamp write.requested (-1) 1)) :
    Succeeds curveValue modules write applied (modules.setParams target after) where
  applied := succeeds.applied
  readBack
  unchanged := by
    intro position before isBefore
    rw [instance?_setParams]
    split_ifs with same
    · subst same
      obtain rfl := Option.some.inj (here.symm.trans isBefore)
      refine ⟨_, by rw [here]; rfl, succeeds.otherCurves, succeeds.settings⟩
    · exact ⟨before, isBefore, fun _ _ => rfl, rfl, rfl⟩
  valid := valid.setParams succeeds.valid

/-- A write that keeps its promise leaves a valid state. -/
theorem valid_step (valid : modules.Valid) (meets : Meets curveValue modules write) : (modules.step write).Valid := by
  unfold Meets at meets
  unfold step
  cases isWritten : modules.writeColorzonesNumber write with
  | none =>
    rw [isWritten] at meets
    exact meets.elim
  | some result =>
    obtain ⟨applied, after⟩ := result
    rw [isWritten] at meets
    cases applied with
    | none =>
      have same : after = modules := meets
      rw [Option.map_some, Option.getD_some, same]
      exact valid
    | some applied => exact meets.valid

theorem fits_of_meets (valid : modules.Valid) (meets : Meets curveValue modules write) :
    Fits curveValue modules write := by
  intro through target found reaches
  have here := instance?_of_reached reaches
  have validHere := valid target found here
  have validStep := valid_step valid meets
  have result := writeColorzonesNumber_reached reaches
  cases isWritten : writeInstance write.host found.params write.channel write.band write.requested with
  | none =>
    rw [isWritten] at result
    simp [Meets, result] at meets
  | some written =>
    rw [isWritten, Option.map_some] at result
    have validAfter : written.2.Valid := by
      unfold step at validStep
      rw [result] at validStep
      refine validStep target { found with params := written.2 } ?_
      rw [Option.map_some, Option.getD_some, instance?_setParams, if_pos rfl, here]
      rfl
    have fitsHere := fits_of_valid validHere through isWritten validAfter
    obtain ⟨applied, after, succeeded, -⟩ := succeeds_of_fits curveValue validHere through fitsHere
    obtain rfl := Option.some.inj (isWritten.symm.trans succeeded)
    simp only [Meets, result] at meets
    refine ⟨?_, fitsHere⟩
    by_contra elsewhere
    push Not at elsewhere
    have readBack := meets.readBack
    rw [numberOf_setParams_of_ne (Ne.symm elsewhere.1)] at readBack
    exact elsewhere.2 readBack

/-- A write keeps its promise exactly where it fits. -/
theorem meets_iff_fits (valid : modules.Valid) : Meets curveValue modules write ↔ Fits curveValue modules write := by
  refine ⟨fits_of_meets valid, fun fits => ?_⟩
  cases reaches : modules.reached write with
  | none => simp [Meets, writeColorzonesNumber, reaches]
  | some place =>
    obtain ⟨target, found⟩ := place
    have here := instance?_of_reached reaches
    have result := writeColorzonesNumber_reached reaches
    by_cases through : write.GetsThrough
    case neg =>
      rw [writeInstance_stopped through, Option.map_some, setParams_same here] at result
      simp [Meets, result]
    case pos =>
      obtain ⟨place, fitsHere⟩ := fits through target found reaches
      obtain ⟨applied, after, isWritten, succeeds⟩ :=
        succeeds_of_fits curveValue (valid target found here) through fitsHere
      rw [isWritten, Option.map_some] at result
      simp only [Meets, result]
      refine Succeeds.ofInstance valid here succeeds ?_
      by_cases own : target = write.position
      · rw [numberOf_setParams here own]
        exact succeeds.readBack
      · rw [numberOf_setParams_of_ne (Ne.symm own)]
        exact place.resolve_left own

end Writes

end Modules

/-- In a run of writes from a valid state each keeps its promise exactly where each fits, and the
state behind the run is valid again. -/
theorem writes_meet_iff_fit (curveValue : Params → Channel → ℚ → Option ℚ) {start : Modules} (valid : start.Valid)
    (writes : List AgentWrite) :
    (EveryStep Modules.step (Modules.Meets curveValue) start writes ↔
        EveryStep Modules.step (Modules.Fits curveValue) start writes) ∧
      (EveryStep Modules.step (Modules.Fits curveValue) start writes → (run Modules.step start writes).Valid) := by
  induction writes generalizing start with
  | nil => exact ⟨Iff.rfl, fun _ => valid⟩
  | cons write rest ih =>
    have here := @Modules.meets_iff_fits curveValue _ write valid
    constructor
    · constructor
      · rintro ⟨meets, later⟩
        exact ⟨here.mp meets, (ih (Modules.valid_step valid meets)).1.mp later⟩
      · rintro ⟨fits, later⟩
        have meets := here.mpr fits
        exact ⟨meets, (ih (Modules.valid_step valid meets)).1.mpr later⟩
    · rintro ⟨fits, later⟩
      exact (ih (Modules.valid_step valid (here.mpr fits))).2 later

def anyHost : Host := ⟨true, true, fun _ _ => 1 / 2⟩

/-- The same nodes on all three curves. -/
theorem valid_of_curve {channel : Channel} {splinesVersion : SplinesVersion} {curve : List Node}
    (keys : KeysValid splinesVersion (channel = .hue) (curve.map Node.x))
    (heights : ∀ node ∈ curve, 0 ≤ node.y ∧ node.y ≤ 1) : Params.Valid ⟨channel, fun _ => curve, splinesVersion⟩ :=
  ⟨fun _ => keys, fun _ => heights⟩

/-- One instance of the module, to which the shortcuts are connected. -/
def lone (params : Params) : Modules := [some ⟨0, true, params⟩]

theorem lone_valid {params : Params} (valid : params.Valid) : (lone params).Valid := by
  intro position found here
  cases position with
  | zero =>
    obtain rfl := Option.some.inj here
    exact valid
  | succ position => cases here

def flatCurve : List Node := [⟨0, 1 / 2⟩, ⟨1, 1 / 2⟩]

theorem flatCurve_valid : Params.Valid ⟨.hue, fun _ => flatCurve, .v1⟩ := by
  refine valid_of_curve ⟨by decide, by decide, by decide +kernel, ?_, by simp, by simp [flatCurve]⟩ (by decide +kernel)
  unfold Spaced
  decide +kernel

/-- The red band is raised, and its mirror image with it; then a node is added for aqua. -/
theorem writes_meet_iff_fit_flat :
    EveryStep Modules.step (Modules.Meets fun _ _ _ => none) (lone ⟨.hue, fun _ => flatCurve, .v1⟩)
      [⟨⟨anyHost, .chroma, 0, 2⟩, 0, some 0⟩, ⟨⟨anyHost, .chroma, 4, -1 / 2⟩, 0, some 0⟩] := by
  refine (writes_meet_iff_fit _ (lone_valid flatCurve_valid) _).1.mpr ⟨?_, ?_, trivial⟩
  · exact Modules.Fits.ofOwn (by decide +kernel)
  · exact Modules.Fits.ofOwn (by decide +kernel)

/-- Twenty nodes on the left of the curve. -/
def fullCurve : List Node := (List.range 20).map fun i => ⟨i / 100, 1 / 2⟩

theorem fullCurve_valid : Params.Valid ⟨.lightness, fun _ => fullCurve, .v2⟩ := by
  refine valid_of_curve ⟨by decide, by decide, by decide +kernel, ?_, by simp, by simp⟩ (by decide +kernel)
  unfold Spaced
  decide +kernel

/-- The write of the aqua band goes behind the array. -/
theorem fullCurve_overrun : ¬ ∀ curveValue modules, Modules.Valid modules → ∀ write,
    Modules.Meets curveValue modules write := by
  intro always
  have valid := lone_valid fullCurve_valid
  have meets := always (fun _ _ _ => none) _ valid ⟨⟨anyHost, .hue, 4, 0⟩, 0, some 0⟩
  rw [Modules.meets_iff_fits valid] at meets
  obtain ⟨-, fits⟩ := meets ⟨rfl, rfl, by decide⟩ 0 _ rfl
  revert fits
  decide +kernel

/-- The second of two instances is not reached: its number is taken for the first place in the pipe. -/
example : ¬ Modules.Fits (fun _ _ _ => none)
    [some ⟨0, true, ⟨.hue, fun _ => flatCurve, .v1⟩⟩, some ⟨1, true, ⟨.hue, fun _ => flatCurve, .v1⟩⟩]
    ⟨⟨anyHost, .chroma, 0, 1⟩, 1, some 0⟩ := by
  intro fits
  obtain ⟨place, -⟩ := fits ⟨rfl, rfl, by decide⟩ 0 _ rfl
  revert place
  decide +kernel

end DarktableAgent.Client.ColorZones
