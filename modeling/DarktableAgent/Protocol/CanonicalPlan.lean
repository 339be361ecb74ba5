import Mathlib.Data.Rat.Defs
import Mathlib.Algebra.Order.Ring.Rat

/-! Canonical edit actions: the planner's vocabulary above single controls. -/

set_option autoImplicit false

namespace DarktableAgent.Protocol

inductive CanonicalActionName where
  | adjustExposure
  | adjustWhiteBalance
  | recoverHighlights
  | reduceNoise
  | gradeColor
  | rotate
  | cropNormalized
  | cropToBoundingBox
  deriving DecidableEq, Repr

inductive CanonicalStrength where
  | low
  | medium
  | high
  deriving DecidableEq, Repr

inductive CanonicalNoiseType where
  | chroma
  | luma
  | both
  deriving DecidableEq, Repr

inductive CanonicalGradeTarget where
  | globalSaturation
  | blueSaturation
  | redHue
  | globalContrast
  deriving DecidableEq, Repr

def CanonicalGradeTarget.name : CanonicalGradeTarget → String
  | .globalSaturation => "global-saturation"
  | .blueSaturation => "blue-saturation"
  | .redHue => "red-hue"
  | .globalContrast => "global-contrast"

/-- The members of a canonical action before its shape is validated. -/
structure CanonicalActionMembers where
  action : CanonicalActionName
  exposureEv : Option ℚ := none
  temperatureDelta : Option ℚ := none
  tintDelta : Option ℚ := none
  presetChoiceId : Option String := none
  strength : Option CanonicalStrength := none
  noiseType : Option CanonicalNoiseType := none
  target : Option CanonicalGradeTarget := none
  amount : Option ℚ := none
  angleDegrees : Option ℚ := none
  left : Option ℚ := none
  top : Option ℚ := none
  right : Option ℚ := none
  bottom : Option ℚ := none
  boxLeft : Option ℚ := none
  boxTop : Option ℚ := none
  boxWidth : Option ℚ := none
  boxHeight : Option ℚ := none
  paddingRatio : Option ℚ := none
  rationale : Option String := none
  deriving DecidableEq, Repr

def withinUnit (value : ℚ) : Bool := decide (0 ≤ value ∧ value ≤ 1)

/-- The first labelled value outside the unit interval. -/
def firstOutsideUnit (bounds : List (String × ℚ)) : Option String :=
  (bounds.find? fun (_, value) => !withinUnit value).map (·.1)

/-- `validate_action_shape`, after the field constraint on `presetChoiceId`. -/
def validateActionShape (members : CanonicalActionMembers) : Except String Unit :=
  if members.presetChoiceId = some "" then .error "String should have at least 1 character"
  else match members.action with
  | .adjustExposure =>
    if members.exposureEv.isNone then .error "adjust-exposure requires exposureEv" else .ok ()
  | .adjustWhiteBalance =>
    if members.temperatureDelta.isNone ∧ members.tintDelta.isNone ∧ members.presetChoiceId.isNone then
      .error "adjust-white-balance requires temperatureDelta, tintDelta, or presetChoiceId"
    else .ok ()
  | .recoverHighlights =>
    if members.strength.isNone then .error "recover-highlights requires strength" else .ok ()
  | .reduceNoise =>
    if members.strength.isNone then .error "reduce-noise requires strength"
    else if members.noiseType.isNone then .error "reduce-noise requires noiseType"
    else .ok ()
  | .gradeColor =>
    if members.target.isNone then .error "grade-color requires target"
    else if members.amount.isNone then .error "grade-color requires amount"
    else .ok ()
  | .rotate =>
    if members.angleDegrees.isNone then .error "rotate requires angleDegrees" else .ok ()
  | .cropNormalized =>
    match members.left, members.top, members.right, members.bottom with
    | some left, some top, some right, some bottom =>
      match firstOutsideUnit [("left", left), ("top", top), ("right", right), ("bottom", bottom)] with
      | some label => .error ("crop-normalized " ++ label ++ " must be within [0, 1]")
      | none =>
        if right ≤ left then .error "crop-normalized left must be less than right"
        else if bottom ≤ top then .error "crop-normalized top must be less than bottom"
        else .ok ()
    | _, _, _, _ => .error "crop-normalized requires left, top, right, and bottom"
  | .cropToBoundingBox =>
    match members.boxLeft, members.boxTop, members.boxWidth, members.boxHeight with
    | some boxLeft, some boxTop, some boxWidth, some boxHeight =>
      match firstOutsideUnit [("boxLeft", boxLeft), ("boxTop", boxTop), ("boxWidth", boxWidth),
        ("boxHeight", boxHeight)] with
      | some label => .error ("crop-to-bounding-box " ++ label ++ " must be within [0, 1]")
      | none =>
        if boxWidth ≤ 0 then .error "crop-to-bounding-box boxWidth must be greater than 0"
        else if boxHeight ≤ 0 then .error "crop-to-bounding-box boxHeight must be greater than 0"
        else if members.paddingRatio.any fun padding => !withinUnit padding then
          .error "crop-to-bounding-box paddingRatio must be within [0, 1]"
        else .ok ()
    | _, _, _, _ =>
      .error "crop-to-bounding-box requires boxLeft, boxTop, boxWidth, and boxHeight"

theorem validateActionShape_preset {members : CanonicalActionMembers} (valid : validateActionShape members = .ok ()) :
    members.presetChoiceId ≠ some "" := by
  intro empty
  rw [validateActionShape, if_pos empty] at valid
  cases valid

/-- `CanonicalEditAction` -/
structure CanonicalEditAction extends CanonicalActionMembers where
  valid : validateActionShape toCanonicalActionMembers = .ok ()
  deriving DecidableEq

end DarktableAgent.Protocol
