import Mathlib.Algebra.Order.Ring.Rat
import Mathlib.Tactic.Linarith
import DarktableAgent.Server.ControlBindings

/-! Crops to a bounding box.

The box is widened by its padding and cut off at the borders of the image, one axis at a
time. An empty axis is left only by a box that starts at the far border without padding.
-/

set_option autoImplicit false

namespace DarktableAgent.Server

open Foundation Protocol

section Axis

variable {value other : ℚ}

theorem clampUnit_within (value : ℚ) : 0 ≤ clampUnit value ∧ clampUnit value ≤ 1 := by
  unfold clampUnit
  constructor
  · exact le_max_left 0 _
  · exact max_le zero_le_one (min_le_left 1 value)

theorem clampUnit_of_within (atLeast : 0 ≤ value) (atMost : value ≤ 1) : clampUnit value = value := by
  unfold clampUnit
  rw [min_eq_right atMost, max_eq_right atLeast]

theorem clampUnit_mono (below : value ≤ other) : clampUnit value ≤ clampUnit other := by
  unfold clampUnit
  exact max_le_max_left 0 (min_le_min_left 1 below)

/-- Cutting off at the borders keeps apart what lies apart inside the image. -/
theorem clampUnit_lt (inside : value < 1) (beyond : 0 < other) (below : value < other) :
    clampUnit value < clampUnit other := by
  unfold clampUnit
  apply max_lt
  · exact lt_max_of_lt_right (lt_min zero_lt_one beyond)
  · rw [min_eq_right inside.le]
    exact lt_max_of_lt_right (lt_min inside below)

variable {start extent padding : ℚ}

/-- One axis of the box keeps a positive extent unless it starts at the far border and has no padding. -/
theorem boxAxis_lt_iff (atLeast : 0 ≤ start) (atMost : start ≤ 1) (positive : 0 < extent) (padded : 0 ≤ padding) :
    clampUnit (clampUnit start - extent * padding) < clampUnit (clampUnit (start + extent) + extent * padding) ↔
      start < 1 ∨ 0 < padding := by
  have pad : 0 ≤ extent * padding := mul_nonneg positive.le padded
  rw [clampUnit_of_within atLeast atMost]
  constructor
  · intro apart
    by_contra neither
    push Not at neither
    -- the box starts at the border, so both edges are cut off there
    have border : start = 1 := le_antisymm atMost neither.1
    have none : padding = 0 := le_antisymm neither.2 padded
    have beyond := clampUnit_within (clampUnit (start + extent) + extent * padding)
    rw [none, mul_zero, sub_zero, border, clampUnit_of_within zero_le_one le_rfl] at apart
    rw [none, mul_zero, border] at beyond
    exact absurd apart (not_lt.mpr beyond.2)
  · intro some
    have far : start ≤ clampUnit (start + extent) := by
      calc start = clampUnit start := (clampUnit_of_within atLeast atMost).symm
        _ ≤ clampUnit (start + extent) := clampUnit_mono (by linarith)
    rcases some with inside | more
    · have apart : start < clampUnit (start + extent) := by
        calc start = clampUnit start := (clampUnit_of_within atLeast atMost).symm
          _ < clampUnit (start + extent) := clampUnit_lt inside (by linarith) (by linarith)
      apply clampUnit_lt
      · linarith
      · linarith
      · linarith
    · have added : 0 < extent * padding := mul_pos positive more
      apply clampUnit_lt
      · linarith
      · linarith
      · linarith

/-- What the box has of the image on one axis stays between the edges. -/
theorem boxAxis_encloses (atLeast : 0 ≤ start) (atMost : start ≤ 1) (positive : 0 < extent) (padded : 0 ≤ padding)
    {point : ℚ} (inImage : 0 ≤ point ∧ point ≤ 1) (inBox : start ≤ point ∧ point ≤ start + extent) :
    clampUnit (clampUnit start - extent * padding) ≤ point ∧
      point ≤ clampUnit (clampUnit (start + extent) + extent * padding) := by
  have pad : 0 ≤ extent * padding := mul_nonneg positive.le padded
  have here : clampUnit point = point := clampUnit_of_within inImage.1 inImage.2
  rw [clampUnit_of_within atLeast atMost]
  constructor
  · calc clampUnit (start - extent * padding) ≤ clampUnit point := clampUnit_mono (by linarith [inBox.1])
      _ = point := here
  · have far : point ≤ clampUnit (start + extent) := by
      calc point = clampUnit point := here.symm
        _ ≤ clampUnit (start + extent) := clampUnit_mono inBox.2
    calc point = clampUnit point := here.symm
      _ ≤ clampUnit (clampUnit (start + extent) + extent * padding) := clampUnit_mono (by linarith)

end Axis

theorem firstOutsideUnit_none {bounds : List (String × ℚ)} :
    firstOutsideUnit bounds = none ↔ ∀ bound ∈ bounds, 0 ≤ bound.2 ∧ bound.2 ≤ 1 := by
  simp [firstOutsideUnit, withinUnit]

/-- The crop-normalized action that asks for these edges. -/
def normalizedCrop (edges : CropEdge → ℚ) (rationale : Option String) : CanonicalActionMembers where
  action := .cropNormalized
  left := some (edges .left)
  top := some (edges .top)
  right := some (edges .right)
  bottom := some (edges .bottom)
  rationale := rationale

theorem validateActionShape_normalizedCrop (edges : CropEdge → ℚ) (rationale : Option String) :
    validateActionShape (normalizedCrop edges rationale) = .ok () ↔
      (∀ edge, 0 ≤ edges edge ∧ edges edge ≤ 1) ∧ edges .left < edges .right ∧ edges .top < edges .bottom := by
  have everyEdge : (∀ edge, 0 ≤ edges edge ∧ edges edge ≤ 1) ↔
      ∀ bound ∈ [("left", edges .left), ("top", edges .top), ("right", edges .right), ("bottom", edges .bottom)],
        0 ≤ bound.2 ∧ bound.2 ≤ 1 := by
    simp only [List.forall_mem_cons]
    constructor
    · intro within
      exact ⟨within .left, within .top, within .right, within .bottom, by simp⟩
    · rintro ⟨left, top, right, bottom, -⟩ edge
      cases edge <;> assumption
  rw [everyEdge, ← firstOutsideUnit_none]
  simp only [normalizedCrop, validateActionShape]
  cases firstOutsideUnit [("left", edges .left), ("top", edges .top), ("right", edges .right),
    ("bottom", edges .bottom)] with
  | some label => simp
  | none =>
    by_cases narrow : edges .right ≤ edges .left
    · simp [narrow, not_lt.mpr narrow]
    · by_cases flat : edges .bottom ≤ edges .top
      · simp [narrow, flat, not_lt.mpr flat]
      · simp [narrow, flat, not_le.mp narrow, not_le.mp flat]

/-- What the validator promises of a crop to a bounding box. -/
structure AcceptedBox (members : CanonicalActionMembers) (boxLeft boxTop boxWidth boxHeight : ℚ) : Prop where
  given : members.boxLeft = some boxLeft ∧ members.boxTop = some boxTop ∧ members.boxWidth = some boxWidth ∧
    members.boxHeight = some boxHeight
  origin : (0 ≤ boxLeft ∧ boxLeft ≤ 1) ∧ 0 ≤ boxTop ∧ boxTop ≤ 1
  extent : (0 < boxWidth ∧ boxWidth ≤ 1) ∧ 0 < boxHeight ∧ boxHeight ≤ 1
  padding : 0 ≤ members.paddingRatio.getD 0 ∧ members.paddingRatio.getD 0 ≤ 1

theorem acceptedBox (action : CanonicalEditAction) (isBox : action.action = .cropToBoundingBox) :
    ∃ boxLeft boxTop boxWidth boxHeight,
      AcceptedBox action.toCanonicalActionMembers boxLeft boxTop boxWidth boxHeight := by
  obtain ⟨members, valid⟩ := action
  simp only at isBox
  have admitted := valid
  simp only [validateActionShape, isBox, if_neg (validateActionShape_preset valid)] at admitted
  split at admitted
  case h_2 => cases admitted
  case h_1 boxLeft boxTop boxWidth boxHeight left top width height =>
    cases outside : firstOutsideUnit [("boxLeft", boxLeft), ("boxTop", boxTop), ("boxWidth", boxWidth),
        ("boxHeight", boxHeight)] with
    | some label => simp [outside] at admitted
    | none =>
      have within := firstOutsideUnit_none.mp outside
      simp only [List.forall_mem_cons] at within
      obtain ⟨origin, originTop, extent, extentHigh, -⟩ := within
      simp only [outside] at admitted
      split_ifs at admitted with narrow flat unpadded
      refine ⟨boxLeft, boxTop, boxWidth, boxHeight, ⟨left, top, width, height⟩, ⟨origin, originTop⟩,
        ⟨⟨not_le.mp narrow, extent.2⟩, not_le.mp flat, extentHigh.2⟩, ?_⟩
      cases given : members.paddingRatio with
      | none => exact ⟨le_rfl, zero_le_one⟩
      | some padding => simpa [given, withinUnit] using unpadded

/-- The edges are those of a proper crop that holds what the box has of the image, and an action that
asks for them directly is accepted. -/
structure ProperCrop (boxLeft boxTop boxWidth boxHeight : ℚ) (rationale : Option String)
    (edges : CropEdge → ℚ) : Prop where
  horizontal : 0 ≤ edges .left ∧ edges .left < edges .right ∧ edges .right ≤ 1
  vertical : 0 ≤ edges .top ∧ edges .top < edges .bottom ∧ edges .bottom ≤ 1
  encloses : ∀ x y : ℚ, 0 ≤ x ∧ x ≤ 1 → 0 ≤ y ∧ y ≤ 1 → boxLeft ≤ x ∧ x ≤ boxLeft + boxWidth →
    boxTop ≤ y ∧ y ≤ boxTop + boxHeight →
    (edges .left ≤ x ∧ x ≤ edges .right) ∧ edges .top ≤ y ∧ y ≤ edges .bottom
  accepted : validateActionShape (normalizedCrop edges rationale) = .ok ()

theorem boxEdges_within (boxLeft boxTop boxWidth boxHeight paddingRatio : ℚ) (edge : CropEdge) :
    0 ≤ boxEdges boxLeft boxTop boxWidth boxHeight paddingRatio edge ∧
      boxEdges boxLeft boxTop boxWidth boxHeight paddingRatio edge ≤ 1 := by
  cases edge <;> exact clampUnit_within _

/-- The edges written for an accepted box are those of a proper crop unless the box starts at the right
or the lower border of the image and has no padding. -/
theorem bindCropBox_proper_iff (action : CanonicalEditAction) (isBox : action.action = .cropToBoundingBox) :
    ∃ boxLeft boxTop boxWidth boxHeight edges,
      (action.boxLeft = some boxLeft ∧ action.boxTop = some boxTop ∧ action.boxWidth = some boxWidth ∧
        action.boxHeight = some boxHeight) ∧
      edges = boxEdges boxLeft boxTop boxWidth boxHeight (action.paddingRatio.getD 0) ∧
      (∀ lower settings, bindAction lower settings action = bindCropAxisValues lower settings
        [("cx", edges .left), ("cy", edges .top), ("cw", edges .right), ("ch", edges .bottom)]
        action.rationale "crop-to-bounding-box") ∧
      (ProperCrop boxLeft boxTop boxWidth boxHeight action.rationale edges ↔
        (boxLeft < 1 ∨ 0 < action.paddingRatio.getD 0) ∧ (boxTop < 1 ∨ 0 < action.paddingRatio.getD 0)) := by
  obtain ⟨boxLeft, boxTop, boxWidth, boxHeight, box⟩ := acceptedBox action isBox
  obtain ⟨left, top, width, height⟩ := box.given
  have horizontally := boxAxis_lt_iff box.origin.1.1 box.origin.1.2 box.extent.1.1 box.padding.1
  have vertically := boxAxis_lt_iff box.origin.2.1 box.origin.2.2 box.extent.2.1 box.padding.1
  have within := boxEdges_within boxLeft boxTop boxWidth boxHeight (action.paddingRatio.getD 0)
  refine ⟨boxLeft, boxTop, boxWidth, boxHeight, _, box.given, rfl, fun lower settings => ?_, ?_⟩
  · simp only [bindAction, isBox, bindCropBox, left, top, width, height]
    rfl
  · constructor
    · intro proper
      exact ⟨horizontally.mp proper.horizontal.2.1, vertically.mp proper.vertical.2.1⟩
    · rintro ⟨wide, high⟩
      have apart := horizontally.mpr wide
      have apartToo := vertically.mpr high
      constructor
      · exact ⟨(within .left).1, apart, (within .right).2⟩
      · exact ⟨(within .top).1, apartToo, (within .bottom).2⟩
      · intro x y xInImage yInImage xInBox yInBox
        constructor
        · exact boxAxis_encloses box.origin.1.1 box.origin.1.2 box.extent.1.1 box.padding.1 xInImage xInBox
        · exact boxAxis_encloses box.origin.2.1 box.origin.2.2 box.extent.2.1 box.padding.1 yInImage yInBox
      · exact (validateActionShape_normalizedCrop _ _).mpr ⟨within, apart, apartToo⟩

/-- A box inside the image, with room around it. -/
def subjectBox : CanonicalEditAction where
  action := .cropToBoundingBox
  boxLeft := some (1 / 5)
  boxTop := some (1 / 4)
  boxWidth := some (1 / 2)
  boxHeight := some (2 / 5)
  paddingRatio := some (1 / 10)
  valid := by decide +kernel

theorem bindCropBox_subjectBox :
    ProperCrop (1 / 5) (1 / 4) (1 / 2) (2 / 5) none (boxEdges (1 / 5) (1 / 4) (1 / 2) (2 / 5) (1 / 10)) := by
  obtain ⟨boxLeft, boxTop, boxWidth, boxHeight, edges, ⟨left, top, width, height⟩, rfl, -, proper⟩ :=
    bindCropBox_proper_iff subjectBox rfl
  cases left
  cases top
  cases width
  cases height
  exact proper.mpr ⟨.inr (by decide +kernel), .inr (by decide +kernel)⟩

/-- A box at the right border of the image. -/
def borderBox : CanonicalEditAction where
  action := .cropToBoundingBox
  boxLeft := some 1
  boxTop := some 0
  boxWidth := some (1 / 2)
  boxHeight := some (1 / 2)
  valid := by decide +kernel

/-- Its left and right edges fall together, so it is no proper crop. -/
theorem bindCropBox_borderBox : ∃ edges : CropEdge → ℚ,
    (∀ lower settings, bindAction lower settings borderBox = bindCropAxisValues lower settings
      [("cx", edges .left), ("cy", edges .top), ("cw", edges .right), ("ch", edges .bottom)]
      none "crop-to-bounding-box") ∧
    edges .left = 1 ∧ edges .right = 1 ∧ ¬ ProperCrop 1 0 (1 / 2) (1 / 2) none edges := by
  refine ⟨boxEdges 1 0 (1 / 2) (1 / 2) 0, fun lower settings => rfl, by decide +kernel, by decide +kernel, ?_⟩
  intro proper
  have apart := proper.horizontal.2.1
  exact absurd apart (by decide +kernel)

end DarktableAgent.Server
