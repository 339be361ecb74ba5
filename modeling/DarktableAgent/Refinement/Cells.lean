import Mathlib.Logic.Function.Basic
import DarktableAgent.Client.Atomicity
import DarktableAgent.Client.ImageState

/-! A darkroom whose controls are cells.

Each control of the catalog is bound to a widget of its own, and a widget holds
the last value written to it. Chromatic adaptation is off.
-/

set_option autoImplicit false

namespace DarktableAgent.Refinement

open Protocol Client

/-- What the widgets hold: a slider its number, a combobox its data, a toggle whether it is active. -/
structure Cells (W : Type) where
  number : W → ℚ
  choice : W → Int
  active : W → Bool

section Cells

variable {W : Type} [DecidableEq W] (cells : Cells W) (widget : W)

def Cells.setNumber (value : ℚ) : Cells W :=
  { cells with number := Function.update cells.number widget value }

def Cells.setChoice (value : Int) : Cells W :=
  { cells with choice := Function.update cells.choice widget value }

def Cells.setActive (value : Bool) : Cells W :=
  { cells with active := Function.update cells.active widget value }

/-- The darkroom over the cells, always in view. No control is bound to a module parameter. -/
def cellRoom (candidates : List (ActionDescriptor ℚ W)) (isToggle : W → Bool) : Darkroom (Cells W) ℚ W where
  isCurrentView _ := true
  chromaAdaptation _ := false
  candidates _ := some candidates
  sliderGet := Cells.number
  sliderSet := Cells.setNumber
  comboboxGetData := Cells.choice
  comboboxSetFromValue cells widget value := some (cells.setChoice widget value)
  isToggleButton _ := isToggle
  toggleGetActive := Cells.active
  toggleSetActive := Cells.setActive
  readRgblevels _ _ := none
  writeRgblevels cells _ _ := (cells, none)
  readColorzones _ _ := none
  writeColorzones cells _ _ := (cells, none)

end Cells

/-- A catalog in which every control is bound to a widget of its own. Float controls are given their
range when they are created. -/
structure WidgetCatalog (W : Type) where
  candidates : List (ActionDescriptor ℚ W)
  isToggle : W → Bool
  bound : ∀ descriptor ∈ addDescriptorsUnique [] candidates,
    descriptor.binding = .widget ∧ descriptor.widget.isSome
  ownWidget : ((addDescriptorsUnique [] candidates).map (·.widget)).Nodup
  ranged : ∀ descriptor ∈ addDescriptorsUnique [] candidates,
    descriptor.operationKind = .setFloat → descriptor.hasNumberRange

namespace WidgetCatalog

section Descriptors

variable {W : Type} (catalog : WidgetCatalog W)

def descriptors : List (ActionDescriptor ℚ W) := addDescriptorsUnique [] catalog.candidates

theorem settingIds_nodup : (catalog.descriptors.map (·.settingId)).Nodup :=
  (addDescriptorsUnique_spec [] catalog.candidates).1

variable {catalog} {descriptor other : ActionDescriptor ℚ W}

theorem eq_of_settingId (member : descriptor ∈ catalog.descriptors) (member' : other ∈ catalog.descriptors)
    (same : descriptor.settingId = other.settingId) : descriptor = other :=
  List.inj_on_of_nodup_map catalog.settingIds_nodup member member' same

theorem widget_of_mem (member : descriptor ∈ catalog.descriptors) :
    ∃ widget, descriptor.binding = .widget ∧ descriptor.widget = some widget := by
  obtain ⟨binding, present⟩ := catalog.bound descriptor member
  obtain ⟨widget, found⟩ := Option.isSome_iff_exists.mp present
  exact ⟨widget, binding, found⟩

end Descriptors

variable {W : Type} [DecidableEq W] (catalog : WidgetCatalog W)

def darkroom : Darkroom (Cells W) ℚ W := cellRoom catalog.candidates catalog.isToggle

@[simp] theorem catalogCollectDescriptors_darkroom (cells : Cells W) :
    catalogCollectDescriptors catalog.darkroom cells = .ok catalog.descriptors := rfl

@[simp] theorem isCurrentView_darkroom (cells : Cells W) : catalog.darkroom.isCurrentView cells = true := rfl

@[simp] theorem collectControls_darkroom (cells : Cells W) :
    collectControls catalog.darkroom cells =
      catalog.descriptors.map (controlOfDescriptor catalog.darkroom cells) := rfl

variable {catalog} {descriptor other : ActionDescriptor ℚ W}

/-- A control is found by its own path and setting id. -/
theorem catalogFindDescriptor_of_mem (member : descriptor ∈ catalog.descriptors)
    (present : descriptor.settingId ≠ "") (cells : Cells W) :
    catalogFindDescriptor catalog.darkroom cells descriptor.actionPath descriptor.settingId = .ok descriptor :=
  catalogFindDescriptor_of_listed catalog.darkroom cells (catalog.catalogCollectDescriptors_darkroom cells) member
    present

/-- With chromatic adaptation off, white balance is free. -/
theorem validateWhiteBalanceOperation_calm (operation : ChatOperation ℚ) (descriptor : ActionDescriptor ℚ W)
    (cells : Cells W) :
    validateWhiteBalanceOperation catalog.darkroom cells operation descriptor = .ok () := by
  have calm : ¬ catalog.darkroom.chromaAdaptation cells := Bool.false_ne_true
  unfold validateWhiteBalanceOperation
  by_cases elsewhere : ¬ "iop/temperature/".toList.isPrefixOf descriptor.actionPath.toList
  · rw [if_pos elsewhere]
  · rw [if_neg elsewhere, if_pos calm]

/-- What a control holds depends on its widget's cell alone. -/
theorem controlOfDescriptor_congr {cells cells' : Cells W}
    (same : ∀ widget, descriptor.widget = some widget → cells.number widget = cells'.number widget ∧
      cells.choice widget = cells'.choice widget ∧ cells.active widget = cells'.active widget)
    (member : descriptor ∈ catalog.descriptors) :
    controlOfDescriptor catalog.darkroom cells descriptor =
      controlOfDescriptor catalog.darkroom cells' descriptor := by
  obtain ⟨widget, binding, found⟩ := widget_of_mem member
  obtain ⟨sameNumber, sameChoice, sameActive⟩ := same widget found
  have number : catalog.darkroom.sliderGet cells widget = catalog.darkroom.sliderGet cells' widget := sameNumber
  have choice : catalog.darkroom.comboboxGetData cells widget =
    catalog.darkroom.comboboxGetData cells' widget := sameChoice
  have active : catalog.darkroom.toggleGetActive cells widget =
    catalog.darkroom.toggleGetActive cells' widget := sameActive
  have toggle : catalog.darkroom.isToggleButton cells widget = catalog.darkroom.isToggleButton cells' widget := rfl
  simp only [controlOfDescriptor, catalogReadCurrentNumber, catalogReadCurrentChoice, catalogReadCurrentBool,
    binding, found]
  rw [number, choice, active, toggle]

/-- Cells that differ at one widget. -/
def SameOutside (widget : W) (cells cells' : Cells W) : Prop :=
  ∀ other, other ≠ widget → cells.number other = cells'.number other ∧
    cells.choice other = cells'.choice other ∧ cells.active other = cells'.active other

theorem sameOutside_setNumber (cells : Cells W) (widget : W) (value : ℚ) :
    SameOutside widget (cells.setNumber widget value) cells := by
  intro other distinct
  simp [Cells.setNumber, distinct]

theorem sameOutside_setChoice (cells : Cells W) (widget : W) (value : Int) :
    SameOutside widget (cells.setChoice widget value) cells := by
  intro other distinct
  simp [Cells.setChoice, distinct]

theorem sameOutside_setActive (cells : Cells W) (widget : W) (value : Bool) :
    SameOutside widget (cells.setActive widget value) cells := by
  intro other distinct
  simp [Cells.setActive, distinct]

/-- A write through one control is invisible in every other. -/
theorem controlOfDescriptor_other {cells cells' : Cells W} {widget : W}
    (same : SameOutside widget cells cells') (member : descriptor ∈ catalog.descriptors)
    (own : descriptor.widget = some widget) (member' : other ∈ catalog.descriptors) (distinct : other ≠ descriptor) :
    controlOfDescriptor catalog.darkroom cells other = controlOfDescriptor catalog.darkroom cells' other := by
  refine controlOfDescriptor_congr (fun widget' found => ?_) member'
  -- two controls with one widget would be one control
  refine same widget' fun collision => distinct ?_
  have sameWidget : other.widget = descriptor.widget := by rw [found, own, collision]
  exact List.inj_on_of_nodup_map catalog.ownWidget member' member sameWidget

end WidgetCatalog

end DarktableAgent.Refinement
