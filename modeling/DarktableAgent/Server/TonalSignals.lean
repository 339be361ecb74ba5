import Mathlib.Algebra.Order.Field.Basic
import DarktableAgent.Foundation.Cumulative
import DarktableAgent.Server.CropBox

/-! `_tonal_from_histogram`: the tonal signals of an image from its luma histogram.

Mean and percentiles come out of one loop over the bins, in exact arithmetic.
-/

set_option autoImplicit false

namespace DarktableAgent.Server

open Foundation

structure Histogram where
  binCount : Nat
  channels : Dict String (List Int)
  binCountPositive : 0 < binCount
  counted : ∀ name bins, channels.get? name = some bins → bins.length = binCount

structure TonalSignalSummary where
  meanLuma : ℚ
  highlightClipEstimate : ℚ
  shadowCrushEstimate : ℚ
  highlightHeadroomEstimate : ℚ
  shadowHeadroomEstimate : ℚ
  deriving DecidableEq, Repr

def midpoint (binCount index : Nat) : ℚ := (index + 1 / 2) / binCount

/-- The variables of the loop. -/
structure TonalState where
  meanLuma : ℚ := 0
  cumulative : Int := 0
  p05 : ℚ := 0
  p95 : ℚ := 1
  foundP05 : Bool := false

/-- What a bin adds, before the loop asks whether to go on. -/
def TonalState.count (binCount : Nat) (total : Int) (index : Nat) (state : TonalState) (count : Int) : TonalState :=
  let middle := midpoint binCount index
  let cumulative := state.cumulative + count
  let isP05 := !state.foundP05 && decide (1 / 20 ≤ (cumulative : ℚ) / total)
  { state with
    meanLuma := state.meanLuma + middle * (count / total)
    cumulative
    p05 := if isP05 then middle else state.p05
    foundP05 := state.foundP05 || isP05 }

def tonalLoop (binCount : Nat) (total : Int) (index : Nat) (state : TonalState) : List Int → TonalState
  | [] => state
  | count :: rest =>
    let next := state.count binCount total index count
    if 19 / 20 ≤ (next.cumulative : ℚ) / total then { next with p95 := midpoint binCount index }
    else tonalLoop binCount total (index + 1) next rest

/-- The statistics of the bins of one channel. -/
def tonalFromBins (bins : List Int) : Option TonalSignalSummary :=
  let total := bins.sum
  if total ≤ 0 then none
  else
    let state := tonalLoop bins.length total 0 {} bins
    some {
      meanLuma := clampUnit state.meanLuma
      highlightClipEstimate := clampUnit (bins.getLast?.getD 0 / total)
      shadowCrushEstimate := clampUnit (bins.head?.getD 0 / total)
      highlightHeadroomEstimate := clampUnit (1 - state.p95)
      shadowHeadroomEstimate := clampUnit state.p05 }

/-- `_tonal_from_histogram` -/
def tonalFromHistogram (histogram : Option Histogram) : Option TonalSignalSummary :=
  match histogram.bind fun histogram => histogram.channels.get? "luma" with
  | none => none
  | some bins => if bins.isEmpty then none else tonalFromBins bins

/-- Counts as fractions of a total. -/
def fractionsOf (total : Int) (counts : List Int) : List ℚ := counts.map fun count : Int => (count : ℚ) / total

def binFractions (bins : List Int) : List ℚ := fractionsOf bins.sum bins

/-- The least bin at which the cumulative fraction reaches a level. -/
structure LeastReaching (bins : List Int) (level : ℚ) (place : Nat) : Prop where
  inside : place < bins.length
  reached : level ≤ runningSum (binFractions bins) place
  least : ∀ earlier < place, runningSum (binFractions bins) earlier < level

/-- The signals are the statistics of the histogram. -/
structure StatisticsOf (bins : List Int) (tonal : TonalSignalSummary) : Prop where
  meanLuma : tonal.meanLuma = weightedSum (midpoint bins.length) 0 (binFractions bins)
  percentiles : ∃ low high, LeastReaching bins (1 / 20) low ∧ LeastReaching bins (19 / 20) high ∧
    tonal.shadowHeadroomEstimate = midpoint bins.length low ∧
    tonal.highlightHeadroomEstimate = 1 - midpoint bins.length high ∧
    midpoint bins.length low ≤ midpoint bins.length high
  highlightClip : ∀ last ∈ bins.getLast?, tonal.highlightClipEstimate = last / bins.sum
  shadowCrush : ∀ first ∈ bins.head?, tonal.shadowCrushEstimate = first / bins.sum

/-- What the loop leaves, from any place on. The percentile is not reached before, and where the lower
one is reached it has been found. -/
theorem tonalLoop_spec {binCount : Nat} {total : Int} {index : Nat} {state : TonalState} {rest : List Int}
    {fraction : ℚ} (isFraction : (state.cumulative : ℚ) / total = fraction)
    (reaches : 19 / 20 - fraction ≤ (fractionsOf total rest).sum) (below : fraction < 19 / 20)
    (found : state.foundP05 = false → fraction < 1 / 20) :
    (tonalLoop binCount total index state rest).meanLuma = state.meanLuma + weightedSum (midpoint binCount) index
        ((fractionsOf total rest).take (reach (19 / 20 - fraction) (fractionsOf total rest) + 1)) ∧
      (tonalLoop binCount total index state rest).p95 =
        midpoint binCount (index + reach (19 / 20 - fraction) (fractionsOf total rest)) ∧
      (tonalLoop binCount total index state rest).p05 = if state.foundP05 then state.p05 else
        midpoint binCount (index + reach (1 / 20 - fraction) (fractionsOf total rest)) := by
  induction rest generalizing index state fraction with
  | nil =>
    rw [fractionsOf, List.map_nil, List.sum_nil] at reaches
    linarith
  | cons count rest ih =>
    have weights : fractionsOf total (count :: rest) = (count : ℚ) / total :: fractionsOf total rest := rfl
    have added : ((state.cumulative + count : Int) : ℚ) / total = fraction + (count : ℚ) / total := by
      rw [Int.cast_add, add_div, isFraction]
    rw [weights, List.sum_cons] at reaches
    have isNext : ((state.count binCount total index count).cumulative : ℚ) / total = fraction + count / total := added
    rw [weights, tonalLoop]
    simp only [isNext]
    by_cases stops : 19 / 20 ≤ fraction + count / total
    · -- the percentile is reached at this bin, and with it the lower one at the latest
      have low : decide (1 / 20 ≤ ((state.cumulative + count : Int) : ℚ) / total) = true := by
        rw [added]
        exact decide_eq_true (by linarith)
      rw [if_pos stops, reach_cons_here (by linarith), reach_cons_here (by linarith)]
      refine ⟨?_, rfl, ?_⟩
      · simp [weightedSum, TonalState.count]
      · simp only [TonalState.count, low]
        cases state.foundP05 <;> rfl
    · rw [if_neg stops, @reach_cons_later _ _ _ (19 / 20 - fraction) _ _ (by linarith), sub_sub]
      have nextFound : (state.count binCount total index count).foundP05 =
          (state.foundP05 || decide (1 / 20 ≤ fraction + (count : ℚ) / total)) := by
        simp only [TonalState.count, added]
        cases state.foundP05 <;> simp
      have notYet : (state.count binCount total index count).foundP05 = false →
          fraction + (count : ℚ) / total < 1 / 20 := by
        intro missing
        rw [nextFound, Bool.or_eq_false_iff, decide_eq_false_iff_not, not_le] at missing
        exact missing.2
      obtain ⟨mean, p95, p05⟩ := ih isNext (by linarith) (not_le.mp stops) notYet
      refine ⟨?_, ?_, ?_⟩
      · rw [mean]
        simp only [List.take_succ_cons, weightedSum, TonalState.count]
        linarith
      · rw [p95, Nat.add_right_comm, Nat.add_assoc]
      · rw [p05, nextFound]
        cases isFound : state.foundP05 with
        | true => simp [TonalState.count, isFound]
        | false =>
          by_cases low : 1 / 20 ≤ fraction + (count : ℚ) / total
          · rw [reach_cons_here (by linarith)]
            simp only [TonalState.count, isFound, added, low]
            rfl
          · rw [reach_cons_later (by linarith), sub_sub, Nat.add_right_comm, Nat.add_assoc]
            simp only [low, decide_false, Bool.or_false]
            rfl

/-- Where the cumulative fraction has reached 95%, no further bin has a count. -/
def NothingBehind (bins : List Int) : Prop :=
  ∀ place, 19 / 20 ≤ runningSum (binFractions bins) place → ∀ later > place, ∀ count ∈ bins[later]?, count = 0

section Bins

variable {bins : List Int}

/-- Whatever the counts are, the summary passes the checks of its fields. -/
theorem tonalFromBins_inUnit {tonal : TonalSignalSummary} (isTonal : tonalFromBins bins = some tonal) :
    ∀ value ∈ [tonal.meanLuma, tonal.highlightClipEstimate, tonal.shadowCrushEstimate,
      tonal.highlightHeadroomEstimate, tonal.shadowHeadroomEstimate], 0 ≤ value ∧ value ≤ 1 := by
  unfold tonalFromBins at isTonal
  dsimp only at isTonal
  split_ifs at isTonal
  obtain rfl := Option.some.inj isTonal
  simp [clampUnit_within]

theorem midpoint_pos {binCount : Nat} (positive : 0 < binCount) (index : Nat) : 0 < midpoint binCount index := by
  have casted : (0 : ℚ) < binCount := by exact_mod_cast positive
  unfold midpoint
  positivity

theorem midpoint_lt_one {binCount index : Nat} (inside : index < binCount) : midpoint binCount index < 1 := by
  have room : (index : ℚ) + 1 ≤ binCount := by exact_mod_cast inside
  unfold midpoint
  rw [div_lt_one (by linarith)]
  linarith

theorem midpoint_mono {binCount low high : Nat} (ordered : low ≤ high) :
    midpoint binCount low ≤ midpoint binCount high := by
  have casted : (low : ℚ) ≤ high := by exact_mod_cast ordered
  unfold midpoint
  gcongr

theorem binFractions_nonneg (nonnegative : ∀ count ∈ bins, 0 ≤ count) (positive : 0 < bins.sum) :
    ∀ weight ∈ binFractions bins, 0 ≤ weight := by
  intro weight member
  obtain ⟨count, inBins, rfl⟩ := List.mem_map.mp member
  have casted : (0 : ℚ) ≤ count := by exact_mod_cast nonnegative count inBins
  have total : (0 : ℚ) < bins.sum := by exact_mod_cast positive
  exact div_nonneg casted total.le

theorem fractionsOf_sum (total : Int) (counts : List Int) :
    (fractionsOf total counts).sum = (counts.sum : ℚ) / total := by
  induction counts with
  | nil => simp [fractionsOf]
  | cons count rest ih =>
    rw [fractionsOf, List.map_cons, List.sum_cons, List.sum_cons, Int.cast_add, add_div, ← ih]
    rfl

theorem binFractions_sum (positive : 0 < bins.sum) : (binFractions bins).sum = 1 := by
  have total : (bins.sum : ℚ) ≠ 0 := by exact_mod_cast positive.ne'
  rw [binFractions, fractionsOf_sum, div_self total]

theorem bins_ne_nil (positive : 0 < bins.sum) : bins ≠ [] := by
  rintro rfl
  simp at positive

theorem leastReaching_reach (positive : 0 < bins.sum) {level : ℚ} (atMostOne : level ≤ 1) :
    LeastReaching bins level (reach level (binFractions bins)) := by
  have nonempty : binFractions bins ≠ [] := by simpa [binFractions, fractionsOf] using bins_ne_nil positive
  have withinSum : level ≤ (binFractions bins).sum := by rwa [binFractions_sum positive]
  obtain ⟨inside, reached, least⟩ := reach_spec withinSum nonempty
  refine ⟨?_, reached, least⟩
  simpa [binFractions, fractionsOf] using inside

/-- The weights behind the bin where the loop stops are zero exactly when nothing is behind. -/
theorem nothingBehind_iff (positive : 0 < bins.sum) : NothingBehind bins ↔
    ∀ weight ∈ (binFractions bins).drop (reach (19 / 20) (binFractions bins) + 1), weight = 0 := by
  have total : (bins.sum : ℚ) ≠ 0 := by exact_mod_cast positive.ne'
  have stop := leastReaching_reach positive (by norm_num : (19 / 20 : ℚ) ≤ 1)
  generalize reach (19 / 20) (binFractions bins) = high at stop ⊢
  have fraction : ∀ place, (binFractions bins)[place]? = bins[place]?.map fun count : Int => (count : ℚ) / bins.sum :=
    fun place => List.getElem?_map
  constructor
  · intro nothing weight member
    obtain ⟨offset, isWeight⟩ := List.mem_iff_getElem?.mp member
    rw [List.getElem?_drop, fraction] at isWeight
    obtain ⟨count, isCount, rfl⟩ := Option.map_eq_some_iff.mp isWeight
    rw [nothing high stop.reached (high + 1 + offset) (by omega) count isCount, Int.cast_zero, zero_div]
  · intro zeros place reached later behind count isCount
    have atLeast : high ≤ place := by
      by_contra before
      exact absurd reached (not_le.mpr (stop.least place (not_le.mp before)))
    have member : (count : ℚ) / bins.sum ∈ (binFractions bins).drop (high + 1) := by
      rw [List.mem_iff_getElem?]
      refine ⟨later - (high + 1), ?_⟩
      rw [List.getElem?_drop, fraction, Nat.add_sub_cancel' (by omega), Option.mem_def.mp isCount, Option.map_some]
    have isZero := zeros _ member
    rw [div_eq_zero_iff, or_iff_left total] at isZero
    exact_mod_cast isZero

/-- The headrooms, the percentiles behind them and the two ends are right for every histogram; the
mean is right as far as the loop went. -/
theorem tonalFromBins_spec (nonnegative : ∀ count ∈ bins, 0 ≤ count) (positive : 0 < bins.sum) :
    ∃ tonal, tonalFromBins bins = some tonal ∧
      tonal.meanLuma = weightedSum (midpoint bins.length) 0
        ((binFractions bins).take (reach (19 / 20) (binFractions bins) + 1)) ∧
      tonal.shadowHeadroomEstimate = midpoint bins.length (reach (1 / 20) (binFractions bins)) ∧
      tonal.highlightHeadroomEstimate = 1 - midpoint bins.length (reach (19 / 20) (binFractions bins)) ∧
      (∀ last ∈ bins.getLast?, tonal.highlightClipEstimate = last / bins.sum) ∧
      ∀ first ∈ bins.head?, tonal.shadowCrushEstimate = first / bins.sum := by
  have total : (0 : ℚ) < bins.sum := by exact_mod_cast positive
  have weights := binFractions_nonneg nonnegative positive
  have low := leastReaching_reach positive (by norm_num : (1 / 20 : ℚ) ≤ 1)
  have high := leastReaching_reach positive (by norm_num : (19 / 20 : ℚ) ≤ 1)
  have binCount : 0 < bins.length := List.length_pos_iff.mpr (bins_ne_nil positive)
  have share : ∀ count ∈ bins, clampUnit ((count : ℚ) / bins.sum) = count / bins.sum := by
    intro count member
    have atLeast : (0 : ℚ) ≤ count := by exact_mod_cast nonnegative count member
    have atMost : (count : ℚ) ≤ bins.sum := by exact_mod_cast List.single_le_sum nonnegative count member
    exact clampUnit_of_within (div_nonneg atLeast total.le) ((div_le_one total).mpr atMost)
  have mean : clampUnit (weightedSum (midpoint bins.length) 0
      ((binFractions bins).take (reach (19 / 20) (binFractions bins) + 1))) = weightedSum (midpoint bins.length) 0
        ((binFractions bins).take (reach (19 / 20) (binFractions bins) + 1)) := by
    have taken : ∀ weight ∈ (binFractions bins).take (reach (19 / 20) (binFractions bins) + 1), 0 ≤ weight :=
      fun weight member => weights weight (List.mem_of_mem_take member)
    refine clampUnit_of_within (weightedSum_nonneg (midpoint_pos binCount) taken) ?_
    calc weightedSum (midpoint bins.length) 0 ((binFractions bins).take (reach (19 / 20) (binFractions bins) + 1))
        ≤ ((binFractions bins).take (reach (19 / 20) (binFractions bins) + 1)).sum := by
          refine weightedSum_le_sum taken fun place inside => (midpoint_lt_one ?_).le
          rw [zero_add, List.length_take, binFractions, fractionsOf, List.length_map] at inside
          exact lt_of_lt_of_le inside (min_le_right _ _)
      _ ≤ (binFractions bins).sum := (List.take_sublist _ _).sum_le_sum fun weight member => weights weight member
      _ = 1 := binFractions_sum positive
  obtain ⟨isMean, isP95, isP05⟩ := @tonalLoop_spec bins.length bins.sum 0 {} bins 0 (by simp)
    (by rw [← binFractions, binFractions_sum positive]; norm_num) (by norm_num) (by norm_num)
  rw [sub_zero, ← binFractions] at isMean isP95 isP05
  have lowPoint := midpoint_lt_one low.inside
  have highPoint := midpoint_lt_one high.inside
  have highPositive := midpoint_pos binCount (reach (19 / 20) (binFractions bins))
  refine ⟨_, if_neg (not_le.mpr positive), ?_, ?_, ?_, ?_, ?_⟩
  · rw [isMean, zero_add, mean]
  · rw [isP05, zero_add]
    exact clampUnit_of_within (midpoint_pos binCount _).le lowPoint.le
  · rw [isP95, zero_add]
    exact clampUnit_of_within (by linarith) (by linarith)
  · intro last isLast
    rw [Option.mem_def.mp isLast, Option.getD_some]
    exact share last (List.mem_of_getLast? isLast)
  · intro first isFirst
    rw [Option.mem_def.mp isFirst, Option.getD_some]
    exact share first (List.mem_of_head? isFirst)

end Bins

/-- For every luma histogram of counts that are not negative, with a positive total, there are signals,
and they are its statistics exactly when nothing lies behind the bin that reaches 95%. -/
theorem tonalFromHistogram_statistics_iff {histogram : Histogram} {bins : List Int}
    (isLuma : histogram.channels.get? "luma" = some bins) (nonnegative : ∀ count ∈ bins, 0 ≤ count)
    (positive : 0 < bins.sum) :
    ∃ tonal, tonalFromHistogram (some histogram) = some tonal ∧ (StatisticsOf bins tonal ↔ NothingBehind bins) := by
  obtain ⟨tonal, isTonal, mean, shadow, highlight, clip, crush⟩ := tonalFromBins_spec nonnegative positive
  have nonempty : bins.isEmpty = false := List.isEmpty_eq_false_iff.mpr (bins_ne_nil positive)
  have binCount : 0 < bins.length := List.length_pos_iff.mpr (bins_ne_nil positive)
  have ordered : reach (1 / 20) (binFractions bins) ≤ reach (19 / 20) (binFractions bins) := reach_mono (by norm_num)
  have complete := @weightedSum_take_eq_iff _ _ (binFractions bins) (midpoint bins.length) 0 _ _ (midpoint_pos binCount)
    (binFractions_nonneg nonnegative positive) (reach (19 / 20) (binFractions bins) + 1)
  rw [← mean, ← nothingBehind_iff positive] at complete
  refine ⟨tonal, by simp [tonalFromHistogram, isLuma, nonempty, isTonal], fun right => complete.mp right.meanLuma, ?_⟩
  intro nothing
  exact {
    meanLuma := complete.mpr nothing
    percentiles := ⟨_, _, leastReaching_reach positive (by norm_num), leastReaching_reach positive (by norm_num),
      shadow, highlight, midpoint_mono ordered⟩
    highlightClip := clip
    shadowCrush := crush }

def lumaHistogram (bins : List Int) (present : 0 < bins.length) : Histogram where
  binCount := bins.length
  channels := Dict.ofPairs [("luma", bins)]
  binCountPositive := present
  counted := fun _ _ found =>
    Dict.ofPairs_forall (fun _ (counts : List Int) => counts.length = bins.length) (by simp) found

theorem two_bins_present : 0 < [19, (1 : Int)].length := by decide

theorem three_bins_present : 0 < [1, 2, (1 : Int)].length := by decide

theorem tonalFromHistogram_statistics_iff_threeBins :
    ∃ tonal, tonalFromHistogram (some (lumaHistogram [1, 2, 1] three_bins_present)) = some tonal ∧
      StatisticsOf [1, 2, 1] tonal := by
  obtain ⟨tonal, isTonal, correct⟩ := @tonalFromHistogram_statistics_iff (lumaHistogram [1, 2, 1] three_bins_present)
    [1, 2, 1] (by decide) (by decide) (by decide)
  exact ⟨tonal, isTonal, correct.mpr ((nothingBehind_iff (by decide)).mpr (by decide +kernel))⟩

/-- One count in twenty lies behind the bin that reaches 95%, and the mean leaves it out. -/
theorem brightCount_left_out : ¬ ∀ histogram bins tonal, Dict.get? (Histogram.channels histogram) "luma" = some bins →
    (∀ count ∈ bins, 0 ≤ count) → 0 < bins.sum → tonalFromHistogram (some histogram) = some tonal →
      StatisticsOf bins tonal := by
  intro always
  have statistics := always (lumaHistogram [19, 1] two_bins_present) [19, 1] ⟨19 / 80, 1 / 20, 19 / 20, 3 / 4, 1 / 4⟩
    (by decide) (by decide) (by decide) (by decide +kernel)
  exact absurd statistics.meanLuma (by decide +kernel)

end DarktableAgent.Server
