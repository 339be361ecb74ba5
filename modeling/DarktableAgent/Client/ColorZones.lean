import Mathlib.Algebra.Order.Ring.Rat
import Mathlib.Data.List.InsertIdx
import DarktableAgent.Client.Catalog
import DarktableAgent.Foundation.Spaced

/-! Bands of the color zones module: what the agent writes, and what it reads back.

`colorzones.c` moves a node near the band, or adds one; `agent_catalog.c` wraps it for the
agent. Here a write has reached its instance of the module. Arithmetic is exact and the speed
multiplier of the shortcuts is 1. Writing behind the array of nodes has no defined effect: such
a call has no result.
-/

set_option autoImplicit false

namespace DarktableAgent.Client.ColorZones

open Foundation

def bands : Nat := 8

def maxNodes : Nat := 20

/-- `DT_IOP_COLORZONES_MIN_X_DISTANCE`, 0.0025 -/
def minXDistance : ℚ := 1 / 400

/-- `DT_VALUE_PATTERN_PLUS_MINUS` -/
def valuePatternPlusMinus : ℚ := 2

inductive Channel where
  | lightness
  | chroma
  | hue
  deriving DecidableEq, Repr

inductive SplinesVersion where
  | v1
  | v2
  deriving DecidableEq, Repr

structure Node where
  x : ℚ
  y : ℚ
  deriving DecidableEq, Repr

/-- The parameters: `channel` is the one to select by, `curve` has the nodes of each curve. -/
structure Params where
  channel : Channel
  curve : Channel → List Node
  splinesVersion : SplinesVersion

def Params.withCurve (params : Params) (ch : Channel) (curve : List Node) : Params :=
  { params with curve := Function.update params.curve ch curve }

section WithCurve

variable (params : Params) (ch : Channel) (curve curve' : List Node)

@[simp] theorem Params.withCurve_curve : (params.withCurve ch curve).curve ch = curve := by
  simp [withCurve]

theorem Params.withCurve_curve_of_ne {other : Channel} (isOther : other ≠ ch) :
    (params.withCurve ch curve).curve other = params.curve other := Function.update_of_ne isOther _ _

@[simp] theorem Params.withCurve_withCurve :
    (params.withCurve ch curve).withCurve ch curve' = params.withCurve ch curve' := by
  simp [withCurve]

end WithCurve

/-- `_sanity_check` -/
def sanityCheck (x : ℚ) (selected : Nat) (curve : List Node) : Bool :=
  let previous := if 0 < selected then curve[selected - 1]? else none
  let next := curve[selected + 1]?
  let tooClose := previous.any (fun node => x - node.x ≤ minXDistance) || next.any (fun node => node.x - x ≤ minXDistance)
  let notOrdered := previous.any (fun node => node.x ≥ x) || next.any (fun node => node.x ≤ x)
  !tooClose && !notOrdered

/-- `_move_point_internal` -/
def movePointInternal (params : Params) (ch : Channel) (node : Nat) (dx dy : ℚ) : Params :=
  let curve := params.curve ch
  let last := curve.length - 1
  let isEnd := node = 0 ∨ node = last
  match curve[node]?, curve.head?, curve.getLast? with
  | some current, some first, some final =>
    let dx := if params.splinesVersion = .v1 ∧ isEnd then 0 else dx
    let newX := clamp (current.x + dx) 0 1
    let newY := clamp (current.y + dy) 0 1
    if sanityCheck newX node curve then
      match params.splinesVersion with
      | .v1 =>
        let moved := curve.set node ⟨newX, newY⟩
        -- the end nodes of a curve over the hue mirror each other
        if params.channel = .hue ∧ isEnd then
          params.withCurve ch (moved.set (if node = 0 then last else 0) ⟨1 - newX, newY⟩)
        else params.withCurve ch moved
      | .v2 =>
        let newX :=
          if params.channel = .hue ∧ isEnd then
            if node = 0 then
              if newX + 1 - final.x < minXDistance then final.x + minXDistance - 1 else newX
            else if first.x + 1 - newX < minXDistance then first.x + 1 - minXDistance else newX
          else newX
        params.withCurve ch (curve.set node ⟨newX, newY⟩)
    else params
  | _, _, _ => params

/-- `_delete_node`, when the node is not just put back to the middle. -/
def deleteNode (curve : List Node) (node : Nat) : List Node :=
  if 1 < curve.length then curve.eraseIdx node else [⟨1 / 2, 1 / 2⟩]

inductive Addition where
  | tooClose
  | behindArray
  | added (selected : Nat) (curve : List Node)

/-- `_add_node`: it does not ask how many nodes there are. -/
def addNode (curve : List Node) (x y : ℚ) : Addition :=
  let selected := position Node.x x curve
  let previous := if 0 < selected then curve[selected - 1]? else none
  let next := curve[selected]?
  if previous.any (fun node => x - node.x ≤ minXDistance) || next.any (fun node => node.x - x ≤ minXDistance) then
    .tooClose
  else if curve.length < maxNodes then .added selected (curve.insertIdx selected ⟨x, y⟩)
  else .behindArray

inductive ActionEffect where
  | reset
  | bottom
  | top
  | down
  | up
  | set
  deriving DecidableEq, Repr

def bandX (element : Nat) : ℚ := element / bands

/-- The node is close enough to a band to stand for it. -/
def closeEnough (x : ℚ) (node : Node) : Bool := |node.x - x| ≤ 1 / 16

/-- Move the close node, or one added at the band, by what its height asks for. -/
def moveBand (params : Params) (ch : Channel) (x : ℚ) (node : Option Nat) (returnValue : ℚ) (dy : ℚ → ℚ) :
    Option (Option ℚ × Params) :=
  let move (params : Params) (node : Nat) : Option (Option ℚ × Params) := do
    let current ← (params.curve ch)[node]?
    let after := movePointInternal params ch node 0 (dy current.y)
    let moved ← (after.curve ch)[node]?
    pure (some (moved.y + valuePatternPlusMinus), after)
  match node with
  | some node => move params node
  | none =>
    match addNode (params.curve ch) x returnValue with
    | .tooClose => some (none, params)
    | .behindArray => none
    | .added selected curve => move (params.withCurve ch curve) selected

/-- `_action_process_zones` on the channel of the active tab. The size is absent when the value is
only read; the number is absent when the action is not valid. -/
def actionProcessZones (minmaxCurve : ℚ → ℚ) (params : Params) (ch : Channel) (element : Nat) (effect : ActionEffect)
    (moveSize : Option ℚ) : Option (Option ℚ × Params) :=
  if bands ≤ element then some (none, params)
  else
    let curve := params.curve ch
    let x := bandX element
    let node := curve.findIdx? (closeEnough x)
    let returnValue := ((curve.find? (closeEnough x)).map Node.y).getD (minmaxCurve x)
    match moveSize with
    | none => some (some (returnValue + valuePatternPlusMinus), params)
    | some moveSize =>
      match effect with
      | .reset =>
        some (some (returnValue + valuePatternPlusMinus),
          (node.map fun node => params.withCurve ch (deleteNode curve node)).getD params)
      | .bottom => moveBand params ch x node returnValue fun _ => -1000000 / 100
      | .top => moveBand params ch x node returnValue fun _ => 1000000 / 100
      | .down => moveBand params ch x node returnValue fun _ => -moveSize / 100
      | .up => moveBand params ch x node returnValue fun _ => moveSize / 100
      | .set => moveBand params ch x node returnValue fun y => clamp moveSize 0 1 - y

/-- What a write meets at an instance: whether the tab accepts its activation, whether the action is
found in the current view, and the curves that are drawn. -/
structure Host where
  activates : Bool
  processes : Bool
  minmaxCurve : Channel → ℚ → ℚ

/-- What `_write_colorzones_number` does to the instance that its actions reach: the number reported as
applied, unless the write fails. -/
def writeInstance (host : Host) (params : Params) (channel : Channel) (band : Nat) (requested : ℚ) :
    Option (Option ℚ × Params) :=
  let y := clamp ((requested + 1) * (1 / 2)) 0 1
  if !host.activates then some (none, params)
  else if !host.processes then some (none, params)
  else do
    let (applied, after) ← actionProcessZones (host.minmaxCurve channel) params channel band .set (some y)
    pure (applied.map fun applied => (applied - valuePatternPlusMinus) * 2 - 1, after)

/-- `_read_colorzones_number`: `curveValue` is the drawn curve of the parameters, where there is one. -/
def readColorzonesNumber (curveValue : Params → Channel → ℚ → Option ℚ) (params : Params) (channel : Channel)
    (band : Nat) : Option ℚ :=
  if (params.curve channel).length < 2 then none
  else
    match (params.curve channel).find? (closeEnough (bandX band)) with
    | some node => some (node.y * 2 - 1)
    | none => (curveValue params channel (bandX band)).map fun value => value * 2 - 1

/-! ## Well-formed curves -/

/-- The x coordinates of a curve that the module accepts. -/
structure KeysValid (splinesVersion : SplinesVersion) (byHue : Prop) (keys : List ℚ) : Prop where
  atLeastTwo : 2 ≤ keys.length
  atMost : keys.length ≤ maxNodes
  inUnit : ∀ key ∈ keys, 0 ≤ key ∧ key ≤ 1
  spaced : Spaced id minXDistance keys
  -- a curve over the hue goes round
  wrap : splinesVersion = .v2 → byHue → ∀ first ∈ keys.head?, ∀ last ∈ keys.getLast?, minXDistance < first + 1 - last
  ends : splinesVersion = .v1 → keys.head? = some 0 ∧ keys.getLast? = some 1

structure Params.Valid (params : Params) : Prop where
  keys : ∀ ch, KeysValid params.splinesVersion (params.channel = .hue) ((params.curve ch).map Node.x)
  heights : ∀ ch, ∀ node ∈ params.curve ch, 0 ≤ node.y ∧ node.y ≤ 1

section Keys

variable {splinesVersion : SplinesVersion} {byHue : Prop} {keys : List ℚ}

theorem minXDistance_nonneg : 0 ≤ minXDistance := by norm_num [minXDistance]

theorem head?_insertIdx {x first : ℚ} {i : Nat} (isFirst : first ∈ (keys.insertIdx i x).head?) :
    first = x ∨ first ∈ keys.head? := by
  cases i with
  | zero => exact .inl (by simpa using isFirst.symm)
  | succ i =>
    cases keys with
    | nil => exact .inr isFirst
    | cons head tail => exact .inr (by simpa using isFirst)

theorem getLast?_insertIdx {x last : ℚ} {i : Nat} (isLast : last ∈ (keys.insertIdx i x).getLast?) :
    last = x ∨ last ∈ keys.getLast? := by
  rcases Nat.lt_or_ge keys.length i with outside | inside
  · rw [List.insertIdx_of_length_lt outside] at isLast
    exact .inr isLast
  · rw [insertIdx_eq_append inside, List.getLast?_append, List.getLast?_cons] at isLast
    simp only [Option.some_or, Option.mem_def, Option.some.injEq] at isLast
    rcases List.eq_nil_or_concat (keys.drop i) with nothing | ⟨front, final, isFinal⟩
    · rw [nothing] at isLast
      exact .inl isLast.symm
    · have same : keys = keys.take i ++ front ++ [final] := by
        rw [List.append_assoc, ← List.concat_eq_append, ← isFinal, List.take_append_drop]
      rw [isFinal] at isLast
      rw [same]
      exact .inr (by simpa using isLast)

theorem spaced_insertIdx {x : ℚ} (spaced : Spaced id minXDistance keys) (clear : ∀ key ∈ keys, 1 / 16 < |key - x|) :
    Spaced id minXDistance (keys.insertIdx (position id x keys) x) := by
  rw [insertIdx_position]
  refine spaced_insert minXDistance_nonneg spaced fun key member => ?_
  calc minXDistance < 1 / 16 := by norm_num [minXDistance]
    _ < |key - x| := clear key member

/-- A key that is away from all others, at a band, can be inserted when there is room. -/
theorem KeysValid.insert (valid : KeysValid splinesVersion byHue keys) {x : ℚ}
    (atBand : x = 0 ∨ 1 / 8 ≤ x) (low : x ≤ 7 / 8) (clear : ∀ key ∈ keys, 1 / 16 < |key - x|)
    (room : keys.length < maxNodes)
    (wrapFits : splinesVersion = .v2 → byHue → x = 0 → ∀ last ∈ keys.getLast?, minXDistance < 1 - last) :
    KeysValid splinesVersion byHue (keys.insertIdx (position id x keys) x) := by
  have nonnegative : 0 ≤ x := by
    rcases atBand with rfl | positive
    · exact le_rfl
    · linarith
  have length : (keys.insertIdx (position id x keys) x).length = keys.length + 1 :=
    List.length_insertIdx_of_le_length List.findIdx_le_length x
  have spaced := spaced_insertIdx valid.spaced clear
  have member : ∀ {key}, key ∈ keys.insertIdx (position id x keys) x ↔ key = x ∨ key ∈ keys :=
    List.mem_insertIdx List.findIdx_le_length
  constructor
  case atLeastTwo => rw [length]; exact Nat.le_succ_of_le valid.atLeastTwo
  case atMost => rw [length]; exact room
  case inUnit =>
    intro key isKey
    rcases member.mp isKey with rfl | old
    · exact ⟨nonnegative, by linarith⟩
    · exact valid.inUnit key old
  case spaced => exact spaced
  case wrap =>
    intro isV2 isHue first isFirst last isLast
    have distance : minXDistance < 1 / 8 := by norm_num [minXDistance]
    rcases head?_insertIdx isFirst with rfl | oldFirst <;> rcases getLast?_insertIdx isLast with rfl | oldLast
    · linarith
    · rcases atBand with rfl | positive
      · linarith [wrapFits isV2 isHue rfl last oldLast]
      · linarith [(valid.inUnit last (List.mem_of_getLast? oldLast)).2]
    · linarith [(valid.inUnit first (List.mem_of_head? oldFirst)).1]
    · exact valid.wrap isV2 isHue first oldFirst last oldLast
  case ends =>
    intro isV1
    -- the old ends are at 0 and 1, and no band is that near to both
    obtain ⟨startsAtZero, endsAtOne⟩ := valid.ends isV1
    have zeroIn : 0 ∈ keys := List.mem_of_head? startsAtZero
    have oneIn : 1 ∈ keys := List.mem_of_getLast? endsAtOne
    constructor
    · cases isFirst : (keys.insertIdx (position id x keys) x).head? with
      | none =>
        have empty := List.head?_eq_none_iff.mp isFirst
        rw [empty] at length
        simp at length
      | some first =>
        rcases head?_insertIdx isFirst with rfl | oldFirst
        · have atMostZero : first ≤ 0 := spaced.head_le minXDistance_nonneg isFirst (member.mpr (.inr zeroIn))
          have away := clear 0 zeroIn
          rw [le_antisymm atMostZero nonnegative, sub_zero, abs_zero] at away
          linarith
        · rw [← Option.mem_def.mp oldFirst, startsAtZero]
    · cases isLast : (keys.insertIdx (position id x keys) x).getLast? with
      | none =>
        have empty := List.getLast?_eq_none_iff.mp isLast
        rw [empty] at length
        simp at length
      | some last =>
        rcases getLast?_insertIdx isLast with rfl | oldLast
        · have atLeastOne : 1 ≤ last := spaced.le_last minXDistance_nonneg isLast (member.mpr (.inr oneIn))
          linarith
        · rw [← Option.mem_def.mp oldLast, endsAtOne]

end Keys

/-! ## Moving a node to a height -/

theorem clamp_unit_of_mem {x : ℚ} (nonnegative : 0 ≤ x) (atMostOne : x ≤ 1) : clamp x 0 1 = x := by
  simp [clamp, Numeric.less, not_lt.mpr nonnegative, not_lt.mpr atMostOne]

theorem clamp_unit_mem (x : ℚ) : 0 ≤ clamp x 0 1 ∧ clamp x 0 1 ≤ 1 := by
  simp only [clamp, Numeric.less, decide_eq_true_eq]
  split_ifs with above below <;> constructor <;> linarith

/-- The band's height and the number it stands for. -/
theorem clamp_height (requested : ℚ) :
    (clamp ((requested + 1) * (1 / 2)) 0 1 + valuePatternPlusMinus - valuePatternPlusMinus) * 2 - 1 =
      clamp requested (-1) 1 := by
  rw [add_sub_cancel_right]
  simp only [clamp, Numeric.less, decide_eq_true_eq]
  split_ifs <;> linarith

section Move

variable {params : Params} {ch : Channel} {curve : List Node} {node : Nat} {current : Node} {y : ℚ}

theorem set_eq_self {α : Type} {item : α} {items : List α} {i : Nat} (same : items[i]? = some item) : items.set i item = items := by
  obtain ⟨inside, rfl⟩ := List.getElem?_eq_some_iff.mp same
  exact List.set_getElem_self inside

theorem key_at {k : Nat} (here : curve[k]? = some current) : (curve.map Node.x)[k]? = some current.x := by
  rw [List.getElem?_map, here, Option.map_some]

theorem sanityCheck_of_spaced (spaced : Spaced id minXDistance (curve.map Node.x)) (here : curve[node]? = some current) :
    sanityCheck current.x node curve = true := by
  have previousFar : ∀ previous, (if 0 < node then curve[node - 1]? else none) = some previous →
      minXDistance < current.x - previous.x := by
    intro previous isPrevious
    split at isPrevious
    · rename_i positive
      exact spaced.apart (Nat.sub_one_lt_of_lt positive) (key_at isPrevious) (key_at here)
    · cases isPrevious
  have nextFar : ∀ next, curve[node + 1]? = some next → minXDistance < next.x - current.x := by
    intro next isNext
    exact spaced.apart (Nat.lt_succ_self node) (key_at here) (key_at isNext)
  have nonnegative := minXDistance_nonneg
  simp only [sanityCheck, Bool.and_eq_true, Bool.not_eq_true', Bool.or_eq_false_iff, Option.any_eq_false,
    decide_eq_false_iff_not, not_le, ge_iff_le]
  exact ⟨⟨previousFar, nextFar⟩, fun previous isPrevious => by linarith [previousFar previous isPrevious],
    fun next isNext => by linarith [nextFar next isNext]⟩

/-- A node was put to a height and stayed where it was; another may have followed it. -/
structure Moved (curve : List Node) (node : Nat) (y : ℚ) (after : List Node) : Prop where
  sameKeys : after.map Node.x = curve.map Node.x
  height : after[node]?.map Node.y = some y
  others : ∀ other ∈ after, other.y = y ∨ ∃ k, k ≠ node ∧ curve[k]? = some other

theorem moved_set (here : curve[node]? = some current) : Moved curve node y (curve.set node ⟨current.x, y⟩) where
  sameKeys := by
    rw [List.map_set]
    exact @set_eq_self ℚ current.x _ _ (key_at here)
  height := by
    obtain ⟨inside, -⟩ := List.getElem?_eq_some_iff.mp here
    rw [List.getElem?_set_self inside, Option.map_some]
  others := by
    intro other member
    obtain ⟨k, isOther⟩ := List.mem_iff_getElem?.mp member
    rw [List.getElem?_set] at isOther
    split at isOther
    · split at isOther
      · cases isOther
        exact .inl rfl
      · cases isOther
    · rename_i elsewhere
      exact .inr ⟨k, Ne.symm elsewhere, isOther⟩

/-- The node at the other end follows, when it is where the mirror image goes. -/
theorem Moved.mirror {after : List Node} (moved : Moved curve node y after) {opposite : Nat} {x : ℚ}
    (isOther : opposite ≠ node) (mirrored : (curve.map Node.x)[opposite]? = some x) :
    Moved curve node y (after.set opposite ⟨x, y⟩) where
  sameKeys := by
    rw [List.map_set, moved.sameKeys]
    exact set_eq_self mirrored
  height := by rw [List.getElem?_set_ne isOther, moved.height]
  others := by
    intro other member
    rcases List.mem_or_eq_of_mem_set member with old | rfl
    · exact moved.others other old
    · exact .inl rfl

/-- On a curve with valid keys a node is put to a height, and all keys stay. -/
theorem movePointInternal_moved (isCurve : params.curve ch = curve)
    (keys : KeysValid params.splinesVersion (params.channel = .hue) (curve.map Node.x))
    (here : curve[node]? = some current) (nonnegative : 0 ≤ y) (atMostOne : y ≤ 1) :
    ∃ after, movePointInternal params ch node 0 (y - current.y) = params.withCurve ch after ∧
      Moved curve node y after := by
  have isKey := key_at here
  have inUnit := keys.inUnit current.x (List.mem_iff_getElem?.mpr ⟨node, isKey⟩)
  have length : 2 ≤ curve.length := by simpa using keys.atLeastTwo
  obtain ⟨first, isFirst⟩ : ∃ first, curve.head? = some first :=
    Option.isSome_iff_exists.mp (List.isSome_head?.mpr (List.ne_nil_of_length_pos (by omega)))
  obtain ⟨final, isFinal⟩ : ∃ final, curve.getLast? = some final :=
    Option.isSome_iff_exists.mp (List.getLast?_isSome.mpr (List.ne_nil_of_length_pos (by omega)))
  have firstKey : (curve.map Node.x).head? = some first.x := by rw [List.head?_map, isFirst, Option.map_some]
  have finalKey : (curve.map Node.x).getLast? = some final.x := by rw [List.getLast?_map, isFinal, Option.map_some]
  simp only [movePointInternal, isCurve, here, isFirst, isFinal, ite_self, add_zero, add_sub_cancel,
    clamp_unit_of_mem inUnit.1 inUnit.2, clamp_unit_of_mem nonnegative atMostOne, sanityCheck_of_spaced keys.spaced here,
    if_true]
  have moved : Moved curve node y (curve.set node ⟨current.x, y⟩) := moved_set here
  cases version : params.splinesVersion with
  | v1 =>
    obtain ⟨startsAtZero, endsAtOne⟩ := keys.ends version
    dsimp only
    split
    · rename_i mirrors
      refine ⟨_, rfl, moved.mirror ?_ ?_⟩
      · rcases mirrors.2 with atStart | atEnd
        · rw [if_pos atStart]
          omega
        · rw [if_neg (by omega)]
          omega
      · rcases mirrors.2 with rfl | atEnd
        · rw [List.head?_eq_getElem?, isKey, Option.some.injEq] at startsAtZero
          rw [if_pos rfl, startsAtZero, sub_zero, ← endsAtOne, List.getLast?_eq_getElem?, List.length_map]
        · rw [List.getLast?_eq_getElem?, List.length_map, ← atEnd, isKey, Option.some.injEq] at endsAtOne
          rw [if_neg (by omega), endsAtOne, sub_self, ← startsAtZero, List.head?_eq_getElem?]
    · exact ⟨_, rfl, moved⟩
  | v2 =>
    refine ⟨_, rfl, ?_⟩
    convert moved using 3
    split
    · rename_i wraps
      have distance := keys.wrap version wraps.1 first.x firstKey final.x finalKey
      rcases wraps.2 with rfl | atEnd
      · have isFirstNode : current.x = first.x := by
          rw [List.head?_eq_getElem?, isKey, Option.some.injEq] at firstKey
          exact firstKey
        rw [if_pos rfl, if_neg (by linarith)]
      · have isLastNode : current.x = final.x := by
          rw [List.getLast?_eq_getElem?, List.length_map, ← atEnd, isKey, Option.some.injEq] at finalKey
          exact finalKey
        rw [if_neg (by omega), if_neg (by linarith)]
    · rfl

end Move

/-! ## Writes -/

structure Write where
  host : Host
  channel : Channel
  band : Nat
  requested : ℚ

/-- What a write that reports success promises. -/
structure Succeeds (curveValue : Params → Channel → ℚ → Option ℚ) (params : Params) (write : Write) (applied : ℚ)
    (after : Params) : Prop where
  applied : applied = clamp write.requested (-1) 1
  readBack : readColorzonesNumber curveValue after write.channel write.band = some (clamp write.requested (-1) 1)
  otherCurves : ∀ other, other ≠ write.channel → after.curve other = params.curve other
  settings : after.channel = params.channel ∧ after.splinesVersion = params.splinesVersion
  valid : after.Valid

/-- The call gets as far as the curve. -/
def Write.GetsThrough (write : Write) : Prop :=
  write.host.activates = true ∧ write.host.processes = true ∧ write.band < bands

instance (write : Write) : Decidable write.GetsThrough := by unfold Write.GetsThrough; infer_instance

/-- A node stands for the band, or there is room for another, which the last node does not crowd across
the wrap-around. -/
def Fits (params : Params) (write : Write) : Prop :=
  (∃ node ∈ params.curve write.channel, closeEnough (bandX write.band) node = true) ∨
    ((params.curve write.channel).length < maxNodes ∧
      (params.splinesVersion = .v2 → params.channel = .hue → write.band = 0 →
        ∀ last ∈ (params.curve write.channel).getLast?, minXDistance < 1 - last.x))

instance (params : Params) (write : Write) : Decidable (Fits params write) := by unfold Fits; infer_instance

section Writes

variable {params : Params} {ch : Channel} {curve after : List Node} {node : Nat} {y x : ℚ} {write : Write}

theorem find?_closeEnough : curve.find? (closeEnough x) = (curve.findIdx? (closeEnough x)).bind (curve[·]?) :=
  List.find?_eq_bind_findIdx?_getElem?

/-- The reader finds the node that was moved. -/
theorem Moved.find (moved : Moved curve node y after) (stands : curve.findIdx? (closeEnough x) = some node) :
    ∃ found, after.find? (closeEnough x) = some found ∧ found.y = y := by
  have byKey : ∀ nodes : List Node, nodes.findIdx? (closeEnough x) =
      (nodes.map Node.x).findIdx? fun key => |key - x| ≤ 1 / 16 := by
    intro nodes
    rw [List.findIdx?_map]
    rfl
  have still : after.findIdx? (closeEnough x) = some node := by
    rw [byKey, moved.sameKeys, ← byKey, stands]
  obtain ⟨found, isFound, isHeight⟩ := Option.map_eq_some_iff.mp moved.height
  exact ⟨found, by rw [find?_closeEnough, still, Option.bind_some, isFound], isHeight⟩

theorem succeeds_of_moved (curveValue : Params → Channel → ℚ → Option ℚ) (valid : params.Valid)
    (keys : KeysValid params.splinesVersion (params.channel = .hue) (curve.map Node.x))
    (heights : ∀ k, k ≠ node → ∀ other, curve[k]? = some other → 0 ≤ other.y ∧ other.y ≤ 1)
    (stands : curve.findIdx? (closeEnough (bandX write.band)) = some node)
    (moved : Moved curve node (clamp ((write.requested + 1) * (1 / 2)) 0 1) after) :
    Succeeds curveValue params write
      ((clamp ((write.requested + 1) * (1 / 2)) 0 1 + valuePatternPlusMinus - valuePatternPlusMinus) * 2 - 1)
      (params.withCurve write.channel after) where
  applied := clamp_height write.requested
  readBack := by
    obtain ⟨found, isFound, isHeight⟩ := moved.find stands
    have same : (after.map Node.x).length = (curve.map Node.x).length := by rw [moved.sameKeys]
    have enough : ¬ after.length < 2 := by
      rw [← List.length_map, same]
      exact not_lt.mpr keys.atLeastTwo
    have number := clamp_height write.requested
    rw [add_sub_cancel_right] at number
    simp only [readColorzonesNumber, Params.withCurve_curve, enough, if_false, isFound, isHeight, number]
  otherCurves := fun other isOther => params.withCurve_curve_of_ne _ _ isOther
  settings := ⟨rfl, rfl⟩
  valid := by
    constructor
    · intro ch
      by_cases same : ch = write.channel
      · subst same
        rw [Params.withCurve_curve, moved.sameKeys]
        exact keys
      · rw [Params.withCurve_curve_of_ne _ _ _ same]
        exact valid.keys ch
    · intro ch
      by_cases same : ch = write.channel
      · subst same
        rw [Params.withCurve_curve]
        intro other member
        rcases moved.others other member with isHeight | ⟨k, elsewhere, isOther⟩
        · rw [isHeight]
          exact clamp_unit_mem _
        · exact heights k elsewhere other isOther
      · rw [Params.withCurve_curve_of_ne _ _ _ same]
        exact valid.heights ch

/-- A write that does not get through fails. -/
theorem writeInstance_stopped (stopped : ¬ write.GetsThrough) :
    writeInstance write.host params write.channel write.band write.requested = some (none, params) := by
  unfold writeInstance
  cases activates : write.host.activates with
  | false => rfl
  | true =>
    cases processes : write.host.processes with
    | false => rfl
    | true =>
      have outside : bands ≤ write.band := not_lt.mp fun isBand => stopped ⟨activates, processes, isBand⟩
      simp [actionProcessZones, outside]

/-- A write that gets through hands the height to the node that stands for the band, or to none. -/
theorem write_through (through : write.GetsThrough) : ∃ returnValue,
    writeInstance write.host params write.channel write.band write.requested =
      (moveBand params write.channel (bandX write.band)
          ((params.curve write.channel).findIdx? (closeEnough (bandX write.band))) returnValue
          (fun y => clamp ((write.requested + 1) * (1 / 2)) 0 1 - y)).map
        fun result => (result.1.map fun applied => (applied - valuePatternPlusMinus) * 2 - 1, result.2) := by
  obtain ⟨activates, processes, isBand⟩ := through
  have unit := clamp_unit_mem ((write.requested + 1) * (1 / 2))
  refine ⟨(((params.curve write.channel).find? (closeEnough (bandX write.band))).map Node.y).getD
    (write.host.minmaxCurve write.channel (bandX write.band)), ?_⟩
  simp only [writeInstance, actionProcessZones, activates, processes, Bool.not_true, Bool.false_eq_true,
    if_false, not_le.mpr isBand, clamp_unit_of_mem unit.1 unit.2]
  generalize moveBand params write.channel _ _ _ _ = result
  cases result <;> rfl

theorem moveBand_stands {returnValue target : ℚ} (isCurve : params.curve ch = curve)
    (keys : KeysValid params.splinesVersion (params.channel = .hue) (curve.map Node.x)) (inside : node < curve.length)
    (nonnegative : 0 ≤ target) (atMostOne : target ≤ 1) :
    ∃ after, moveBand params ch x (some node) returnValue (fun y => target - y) =
      some (some (target + valuePatternPlusMinus), params.withCurve ch after) ∧ Moved curve node target after := by
  have here : curve[node]? = some (curve.get ⟨node, inside⟩) := List.getElem?_eq_getElem inside
  obtain ⟨after, isAfter, moved⟩ := movePointInternal_moved isCurve keys here nonnegative atMostOne
  obtain ⟨found, isFound, isHeight⟩ := Option.map_eq_some_iff.mp moved.height
  refine ⟨after, ?_, moved⟩
  have isMoved : ((params.withCurve ch after).curve ch)[node]? = some found := by
    rw [Params.withCurve_curve, isFound]
  simp only [moveBand, isCurve, here, Option.bind_eq_bind, Option.bind_some, isAfter, isMoved, isHeight, Option.pure_def]

/-- Away from all nodes a node is always added, or written behind the array. -/
theorem addNode_clear (clear : ∀ node ∈ curve, 1 / 16 < |node.x - x|) :
    addNode curve x y = if curve.length < maxNodes then
      .added (position Node.x x curve) (curve.insertIdx (position Node.x x curve) ⟨x, y⟩) else .behindArray := by
  have close : minXDistance < 1 / 16 := by norm_num [minXDistance]
  have previousFar : ∀ previous,
      (if 0 < position Node.x x curve then curve[position Node.x x curve - 1]? else none) = some previous →
        minXDistance < x - previous.x := by
    intro previous isPrevious
    split at isPrevious
    · rename_i positive
      have notGreater : previous.x ≤ x := key_le_of_lt_position (Nat.sub_one_lt_of_lt positive) isPrevious
      have away := clear previous (List.mem_of_getElem? isPrevious)
      rw [abs_of_nonpos (sub_nonpos.mpr notGreater)] at away
      linarith
    · cases isPrevious
  have nextFar : ∀ next, curve[position Node.x x curve]? = some next → minXDistance < next.x - x := by
    intro next isNext
    have greater : x < next.x := lt_key_at_position isNext
    have away := clear next (List.mem_of_getElem? isNext)
    rw [abs_of_pos (sub_pos.mpr greater)] at away
    linarith
  have noneClose : ¬ ((if 0 < position Node.x x curve then curve[position Node.x x curve - 1]? else none).any
        (fun node => x - node.x ≤ minXDistance) ||
      curve[position Node.x x curve]?.any fun node => node.x - x ≤ minXDistance) = true := by
    rw [Bool.not_eq_true, Bool.or_eq_false_iff, Option.any_eq_false, Option.any_eq_false]
    exact ⟨fun previous isPrevious => decide_eq_false (not_le.mpr (previousFar previous isPrevious)),
      fun next isNext => decide_eq_false (not_le.mpr (nextFar next isNext))⟩
  exact if_neg noneClose

/-- The band as a place on the curve. -/
theorem bandX_place {band : Nat} (isBand : band < bands) :
    (bandX band = 0 ∨ 1 / 8 ≤ bandX band) ∧ bandX band ≤ 7 / 8 ∧ (bandX band = 0 → band = 0) := by
  have eighth : bandX band = band / 8 := by simp [bandX, bands]
  have atMost : (band : ℚ) ≤ 7 := by exact_mod_cast Nat.le_of_lt_succ isBand
  rw [eighth]
  refine ⟨?_, by linarith, by simp⟩
  rcases Nat.eq_zero_or_pos band with rfl | positive
  · exact .inl (by simp)
  · have atLeast : (1 : ℚ) ≤ band := by exact_mod_cast positive
    exact .inr (by linarith)

/-- A first node that crowds the last one across the wrap-around ends at the minimum distance from it. -/
theorem movePointInternal_crowded (isV2 : params.splinesVersion = .v2) (byHue : params.channel = .hue)
    {start last : Node} {dy : ℚ} (isCurve : params.curve ch = start :: curve) (atZero : start.x = 0)
    (spaced : Spaced id minXDistance ((start :: curve).map Node.x)) (isLast : curve.getLast? = some last)
    (crowds : 1 - last.x ≤ minXDistance) :
    ∃ newX newY, movePointInternal params ch 0 0 dy = params.withCurve ch (⟨newX, newY⟩ :: curve) ∧
      newX + 1 - last.x ≤ minXDistance := by
  have passes : sanityCheck start.x 0 (start :: curve) = true := sanityCheck_of_spaced spaced rfl
  have isFinal : (start :: curve).getLast? = some last := by
    rw [List.getLast?_cons, isLast, Option.getD_some]
  have unit : clamp (start.x + 0) 0 1 = start.x := by
    rw [add_zero]
    exact clamp_unit_of_mem atZero.ge (by linarith)
  simp only [movePointInternal, isCurve, isV2, byHue, List.getElem?_cons_zero, List.head?_cons, isFinal, ite_self, unit,
    passes, if_true, true_or, and_self, List.set_cons_zero]
  refine ⟨_, _, rfl, ?_⟩
  rw [atZero]
  split <;> linarith

/-- Where no node stands for the band, all are away from it. -/
theorem clear_of_none (nothing : curve.findIdx? (closeEnough x) = none) : ∀ node ∈ curve, 1 / 16 < |node.x - x| := by
  intro node member
  have far := List.findIdx?_eq_none_iff.mp nothing node member
  exact not_le.mp (of_decide_eq_false far)

/-- The added node stands for the band. -/
theorem stands_insertIdx (clear : ∀ node ∈ curve, 1 / 16 < |node.x - x|) :
    (curve.insertIdx (position Node.x x curve) ⟨x, y⟩).findIdx? (closeEnough x) = some (position Node.x x curve) := by
  have far : (curve.take (position Node.x x curve)).findIdx? (closeEnough x) = none := by
    rw [List.findIdx?_eq_none_iff]
    intro node member
    exact decide_eq_false (not_le.mpr (clear node (List.mem_of_mem_take member)))
  have near : closeEnough x ⟨x, y⟩ = true := by simp [closeEnough]
  have inside : position Node.x x curve ≤ curve.length := List.findIdx_le_length
  rw [insertIdx_position, List.findIdx?_append, far, List.findIdx?_cons, if_pos near]
  simp [inside]

theorem insertIdx_heights (heights : ∀ node ∈ curve, 0 ≤ node.y ∧ node.y ≤ 1) {i : Nat} {added : Node} :
    ∀ k, k ≠ i → ∀ other, (curve.insertIdx i added)[k]? = some other → 0 ≤ other.y ∧ other.y ≤ 1 := by
  intro k elsewhere other isOther
  apply heights
  rw [List.getElem?_insertIdx] at isOther
  split at isOther
  · exact List.mem_of_getElem? isOther
  · exact List.mem_of_getElem? isOther

theorem map_insertIdx_position : (curve.insertIdx (position Node.x x curve) ⟨x, y⟩).map Node.x =
    (curve.map Node.x).insertIdx (position id x (curve.map Node.x)) x := by
  rw [List.map_insertIdx]
  simp only [position, List.findIdx_map]
  rfl

theorem succeeds_of_stands (curveValue : Params → Channel → ℚ → Option ℚ) (valid : params.Valid)
    (through : write.GetsThrough)
    (stands : (params.curve write.channel).findIdx? (closeEnough (bandX write.band)) = some node) :
    ∃ applied after, writeInstance write.host params write.channel write.band write.requested =
      some (some applied, after) ∧ Succeeds curveValue params write applied after := by
  obtain ⟨returnValue, isWritten⟩ := @write_through params _ through
  have unit := clamp_unit_mem ((write.requested + 1) * (1 / 2))
  have inside : node < (params.curve write.channel).length := by
    obtain ⟨inside, -⟩ := List.findIdx?_eq_some_iff_getElem.mp stands
    exact inside
  obtain ⟨after, isMoved, moved⟩ := @moveBand_stands params write.channel (params.curve write.channel) node
    (bandX write.band) returnValue _ rfl (valid.keys write.channel) inside unit.1 unit.2
  rw [stands, isMoved] at isWritten
  have heights : ∀ k, k ≠ node → ∀ other, (params.curve write.channel)[k]? = some other → 0 ≤ other.y ∧ other.y ≤ 1 :=
    fun k _ other isOther => valid.heights write.channel other (List.mem_of_getElem? isOther)
  exact ⟨_, _, isWritten, succeeds_of_moved curveValue valid (valid.keys write.channel) heights stands moved⟩

theorem moveBand_added {returnValue : ℚ} {dy : ℚ → ℚ}
    (isAdded : addNode (params.curve ch) x returnValue = .added node curve) :
    moveBand params ch x none returnValue dy = moveBand (params.withCurve ch curve) ch x (some node) returnValue dy := by
  simp only [moveBand, isAdded]

theorem succeeds_of_added (curveValue : Params → Channel → ℚ → Option ℚ) (valid : params.Valid)
    (through : write.GetsThrough)
    (nothing : (params.curve write.channel).findIdx? (closeEnough (bandX write.band)) = none)
    (room : (params.curve write.channel).length < maxNodes)
    (wrapFits : params.splinesVersion = .v2 → params.channel = .hue → write.band = 0 →
      ∀ last ∈ (params.curve write.channel).getLast?, minXDistance < 1 - last.x) :
    ∃ applied after, writeInstance write.host params write.channel write.band write.requested =
      some (some applied, after) ∧ Succeeds curveValue params write applied after := by
  obtain ⟨returnValue, isWritten⟩ := @write_through params _ through
  have unit := clamp_unit_mem ((write.requested + 1) * (1 / 2))
  have clear := clear_of_none nothing
  obtain ⟨atBand, low, isZero⟩ := bandX_place through.2.2
  have isAdded := @addNode_clear (params.curve write.channel) returnValue (bandX write.band) clear
  rw [if_pos room] at isAdded
  rw [nothing, moveBand_added isAdded] at isWritten
  generalize isCurve : (params.curve write.channel).insertIdx (position Node.x (bandX write.band)
    (params.curve write.channel)) ⟨bandX write.band, returnValue⟩ = curve at isWritten
  have keys : KeysValid params.splinesVersion (params.channel = .hue) (curve.map Node.x) := by
    rw [← isCurve, map_insertIdx_position]
    refine (valid.keys write.channel).insert atBand low ?_ (by simpa using room) ?_
    · intro key member
      obtain ⟨node, isNode, rfl⟩ := List.mem_map.mp member
      exact clear node isNode
    · intro isV2 byHue atZero last isLast
      rw [List.getLast?_map] at isLast
      obtain ⟨final, isFinal, rfl⟩ := Option.map_eq_some_iff.mp isLast
      exact wrapFits isV2 byHue (isZero atZero) final isFinal
  have stands : curve.findIdx? (closeEnough (bandX write.band)) =
      some (position Node.x (bandX write.band) (params.curve write.channel)) := by
    rw [← isCurve]
    exact stands_insertIdx clear
  have heights : ∀ k, k ≠ position Node.x (bandX write.band) (params.curve write.channel) →
      ∀ other, curve[k]? = some other → 0 ≤ other.y ∧ other.y ≤ 1 := by
    rw [← isCurve]
    exact insertIdx_heights (valid.heights write.channel)
  obtain ⟨inside, -⟩ := List.findIdx?_eq_some_iff_getElem.mp stands
  obtain ⟨after, isMoved, moved⟩ := @moveBand_stands (params.withCurve write.channel curve) write.channel curve _
    (bandX write.band) returnValue _ (params.withCurve_curve ..) keys inside unit.1 unit.2
  rw [isMoved, Params.withCurve_withCurve] at isWritten
  exact ⟨_, _, isWritten, succeeds_of_moved curveValue valid keys heights stands moved⟩

theorem no_result_of_full (through : write.GetsThrough)
    (nothing : (params.curve write.channel).findIdx? (closeEnough (bandX write.band)) = none)
    (full : ¬ (params.curve write.channel).length < maxNodes) :
    writeInstance write.host params write.channel write.band write.requested = none := by
  obtain ⟨returnValue, isWritten⟩ := @write_through params _ through
  have isBehind := @addNode_clear (params.curve write.channel) returnValue (bandX write.band) (clear_of_none nothing)
  rw [if_neg full] at isBehind
  rw [nothing] at isWritten
  simp [isWritten, moveBand, isBehind]

theorem not_valid_of_crowded (valid : params.Valid) (through : write.GetsThrough)
    (nothing : (params.curve write.channel).findIdx? (closeEnough (bandX write.band)) = none)
    (room : (params.curve write.channel).length < maxNodes)
    (isV2 : params.splinesVersion = .v2) (byHue : params.channel = .hue) (atZero : write.band = 0) {last : Node}
    (isLast : (params.curve write.channel).getLast? = some last) (crowds : 1 - last.x ≤ minXDistance)
    {result : Option ℚ × Params}
    (isResult : writeInstance write.host params write.channel write.band write.requested = some result) :
    ¬ result.2.Valid := by
  obtain ⟨returnValue, isWritten⟩ := @write_through params _ through
  have isZero : bandX write.band = 0 := by simp [bandX, atZero]
  rw [isZero] at nothing isWritten
  have clear := clear_of_none nothing
  have isAdded := @addNode_clear (params.curve write.channel) returnValue 0 clear
  have atStart : position Node.x 0 (params.curve write.channel) = 0 := by
    cases isCurve : params.curve write.channel with
    | nil => rfl
    | cons head tail =>
      have member : head ∈ params.curve write.channel := by simp [isCurve]
      have nonnegative := ((valid.keys write.channel).inUnit head.x (List.mem_map_of_mem member)).1
      have away := clear head member
      rw [sub_zero, abs_of_nonneg nonnegative] at away
      rw [position_cons, if_pos (by linarith)]
  have spaced : Spaced id minXDistance (((⟨0, returnValue⟩ : Node) :: params.curve write.channel).map Node.x) := by
    have inserted := @spaced_insertIdx ((params.curve write.channel).map Node.x) 0 (valid.keys write.channel).spaced ?_
    · rw [← @map_insertIdx_position (params.curve write.channel) returnValue 0, atStart] at inserted
      exact inserted
    · intro key member
      obtain ⟨node, isNode, rfl⟩ := List.mem_map.mp member
      exact clear node isNode
  rw [if_pos room, atStart, List.insertIdx_zero] at isAdded
  obtain ⟨newX, newY, isMoved, atDistance⟩ := @movePointInternal_crowded
    (params.withCurve write.channel (⟨0, returnValue⟩ :: params.curve write.channel)) write.channel
    (params.curve write.channel) isV2 byHue ⟨0, returnValue⟩ last
    (clamp ((write.requested + 1) * (1 / 2)) 0 1 - returnValue) (params.withCurve_curve ..) rfl spaced isLast crowds
  rw [nothing, moveBand_added isAdded] at isWritten
  simp only [moveBand, Params.withCurve_curve, Params.withCurve_withCurve, List.getElem?_cons_zero,
    Option.bind_eq_bind, Option.bind_some, isMoved, Option.pure_def, Option.map_some] at isWritten
  obtain rfl := Option.some.inj (isResult.symm.trans isWritten)
  intro validAfter
  have keys := validAfter.keys write.channel
  rw [Params.withCurve_curve, List.map_cons] at keys
  have isFinal : (newX :: (params.curve write.channel).map Node.x).getLast? = some last.x := by
    rw [List.getLast?_cons, List.getLast?_map, isLast, Option.map_some, Option.getD_some]
  have wraps := keys.wrap isV2 byHue newX rfl last.x isFinal
  linarith

/-- A write that gets through succeeds where it fits. -/
theorem succeeds_of_fits (curveValue : Params → Channel → ℚ → Option ℚ) (valid : params.Valid)
    (through : write.GetsThrough) (fits : Fits params write) :
    ∃ applied after, writeInstance write.host params write.channel write.band write.requested =
      some (some applied, after) ∧ Succeeds curveValue params write applied after := by
  cases stands : (params.curve write.channel).findIdx? (closeEnough (bandX write.band)) with
  | some node => exact succeeds_of_stands curveValue valid through stands
  | none =>
    rcases fits with ⟨node, member, isNear⟩ | ⟨room, wrapFits⟩
    · exact absurd isNear (List.findIdx?_eq_none_iff.mp stands node member ▸ Bool.false_ne_true)
    · exact succeeds_of_added curveValue valid through stands room wrapFits

/-- A write that gets through and leaves a valid state fits. -/
theorem fits_of_valid (valid : params.Valid) (through : write.GetsThrough) {result : Option ℚ × Params}
    (isResult : writeInstance write.host params write.channel write.band write.requested = some result)
    (validAfter : result.2.Valid) : Fits params write := by
  cases stands : (params.curve write.channel).findIdx? (closeEnough (bandX write.band)) with
  | some node =>
    obtain ⟨inside, isNear, -⟩ := List.findIdx?_eq_some_iff_getElem.mp stands
    exact .inl ⟨_, List.getElem_mem inside, isNear⟩
  | none =>
    have room : (params.curve write.channel).length < maxNodes := by
      by_contra full
      exact absurd (isResult.symm.trans (no_result_of_full through stands full)) (by simp)
    refine .inr ⟨room, ?_⟩
    intro isV2 byHue atZero last isLast
    by_contra crowded
    exact not_valid_of_crowded valid through stands room isV2 byHue atZero isLast (not_lt.mp crowded) isResult
      validAfter

end Writes

end DarktableAgent.Client.ColorZones
