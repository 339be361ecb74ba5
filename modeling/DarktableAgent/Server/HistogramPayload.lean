import DarktableAgent.Foundation.Cuts
import DarktableAgent.Server.TonalSignals

/-! `_trim_histogram_payload`: the histogram that the prompt shows.

Channels with more bins than the configured number are rebinned, so that no count is lost.
-/

set_option autoImplicit false

namespace DarktableAgent.Server

open Foundation

/-- The `histogram` member of the prompt payload. -/
structure HistogramPayload where
  binCount : Nat
  channels : Dict String (List Int)

def rebinnedBin (sourceBins : List Int) (targetCount index : Nat) : Int :=
  let sourceCount := sourceBins.length
  let start := index * sourceCount / targetCount
  let stop := (index + 1) * sourceCount / targetCount
  let stop := if stop ≤ start then min sourceCount (start + 1) else stop
  (slice start stop sourceBins).sum

/-- `_rebin` -/
def rebin (sourceBins : List Int) (targetCount : Nat) : List Int :=
  if sourceBins.length ≤ targetCount then sourceBins
  else (List.range targetCount).map (rebinnedBin sourceBins targetCount)

/-- How many bins a channel keeps. The limit is configured, as `_DEFAULT_HISTOGRAM_BINS`, and may be any integer. -/
def trimmedBinCount (limit : Int) (bins : List Int) : Nat := (max 1 (min limit bins.length)).toNat

def payloadChannels : List String := ["luma", "red", "green", "blue"]

def trimChannel (limit : Int) (histogram : Histogram) (trimmed : Dict String (List Int)) (name : String) :
    Dict String (List Int) :=
  match histogram.channels.get? name with
  | none => trimmed
  | some bins => if bins.isEmpty then trimmed else trimmed.set name (rebin bins (trimmedBinCount limit bins))

def trimmedChannels (limit : Int) (histogram : Histogram) : Dict String (List Int) :=
  payloadChannels.foldl (trimChannel limit histogram) Dict.empty

/-- `_trim_histogram_payload` -/
def trimHistogramPayload (limit : Int) (histogram : Option Histogram) : Option HistogramPayload :=
  match histogram with
  | none => none
  | some histogram =>
    let channels := trimmedChannels limit histogram
    match channels.entries with
    | [] => none
    | (_, first) :: _ => some { binCount := first.length, channels }

variable {limit : Int} {histogram : Histogram} {name : String} {bins : List Int}

/-- Where there are fewer places than bins, the correction of an empty slice is never made. -/
theorem rebin_eq_cut {targetCount : Nat} (positive : 0 < targetCount) (fewer : targetCount < bins.length) :
    rebin bins targetCount = (cut (evenBorder bins.length targetCount) targetCount bins).map List.sum := by
  rw [rebin, if_neg (by omega), cut, List.map_map]
  apply List.map_congr_left
  intro index _
  have rises := evenBorder_lt_succ positive fewer.le index
  unfold evenBorder at rises
  have stays : ¬(index + 1) * bins.length / targetCount ≤ index * bins.length / targetCount := by omega
  simp only [rebinnedBin, if_neg stays, Function.comp_apply, evenBorder]

theorem rebin_slices (bins : List Int) {targetCount : Nat} (positive : 0 < targetCount) :
    ∃ slices, SlicesOf bins slices ∧ rebin bins targetCount = slices.map List.sum := by
  by_cases fewer : targetCount < bins.length
  · have covered := slicesOf_cut (evenBorder_zero bins.length targetCount)
      (fun index _ => evenBorder_lt_succ positive fewer.le index) (evenBorder_count bins.length positive)
    exact ⟨_, covered, rebin_eq_cut positive fewer⟩
  · refine ⟨_, slicesOf_singletons bins, ?_⟩
    rw [rebin, if_pos (by omega), List.map_map]
    simp [Function.comp_def]

theorem length_rebin (bins : List Int) (targetCount : Nat) :
    (rebin bins targetCount).length = min bins.length targetCount := by
  unfold rebin
  by_cases few : bins.length ≤ targetCount
  · rw [if_pos few, Nat.min_eq_left few]
  · rw [if_neg few, List.length_map, List.length_range, Nat.min_eq_right (by omega)]

theorem sum_rebin (bins : List Int) {targetCount : Nat} (positive : 0 < targetCount) :
    (rebin bins targetCount).sum = bins.sum := by
  obtain ⟨slices, covered, isRebinned⟩ := rebin_slices bins positive
  rw [isRebinned, covered.sum]

theorem trimmedBinCount_pos (limit : Int) (bins : List Int) : 0 < trimmedBinCount limit bins := by
  unfold trimmedBinCount
  omega

theorem Histogram.bins_ne_nil (present : histogram.channels.get? name = some bins) : bins ≠ [] := by
  apply List.ne_nil_of_length_pos
  rw [histogram.counted name bins present]
  exact histogram.binCountPositive

/-- One turn of the loop: only the named channel changes, to its rebinned bins where the histogram has it. -/
theorem get?_trimChannel (limit : Int) (histogram : Histogram) (trimmed : Dict String (List Int))
    (channel name : String) :
    (trimChannel limit histogram trimmed channel).get? name =
      if name = channel then
        ((histogram.channels.get? name).map fun bins => rebin bins (trimmedBinCount limit bins)).or (trimmed.get? name)
      else trimmed.get? name := by
  unfold trimChannel
  cases found : histogram.channels.get? channel with
  | none =>
    by_cases same : name = channel
    · subst same
      simp [found]
    · simp [same]
  | some bins =>
    have filled : bins.isEmpty = false := by simpa using histogram.bins_ne_nil found
    dsimp only
    rw [if_neg (by simp [filled])]
    by_cases same : name = channel
    · subst same
      simp [found]
    · rw [if_neg same]
      exact Dict.get?_set_ne same

theorem get?_trimChannels (limit : Int) (histogram : Histogram) (trimmed : Dict String (List Int))
    (channels : List String) (name : String) :
    (channels.foldl (trimChannel limit histogram) trimmed).get? name =
      if name ∈ channels then
        ((histogram.channels.get? name).map fun bins => rebin bins (trimmedBinCount limit bins)).or (trimmed.get? name)
      else trimmed.get? name := by
  induction channels generalizing trimmed with
  | nil => simp
  | cons channel rest ih =>
    rw [List.foldl_cons, ih, get?_trimChannel]
    by_cases here : name = channel
    · subst here
      rw [if_pos rfl, if_pos (List.mem_cons_self ..)]
      by_cases later : name ∈ rest
      · cases trimmed.get? name <;> cases histogram.channels.get? name <;> simp [later]
      · rw [if_neg later]
    · simp [here]

/-- The payload has the four channels as far as the histogram has them, each rebinned. -/
theorem get?_trimmedChannels (limit : Int) (histogram : Histogram) (name : String) :
    (trimmedChannels limit histogram).get? name =
      if name ∈ payloadChannels then
        (histogram.channels.get? name).map fun bins => rebin bins (trimmedBinCount limit bins)
      else none := by
  have empty : (Dict.empty : Dict String (List Int)).get? name = none := rfl
  rw [trimmedChannels, get?_trimChannels, empty, Option.or_none]

/-- What a payload consists of: its channels, and the length of the first of them. -/
theorem payload_cases {histogram : Option Histogram} {payload : HistogramPayload}
    (trims : trimHistogramPayload limit histogram = some payload) :
    ∃ source first, histogram = some source ∧ payload.channels = trimmedChannels limit source ∧
      first ∈ payload.channels.entries ∧ payload.binCount = first.2.length := by
  unfold trimHistogramPayload at trims
  cases histogram with
  | none => cases trims
  | some source =>
    dsimp only at trims
    cases isEntries : (trimmedChannels limit source).entries with
    | nil =>
      rw [isEntries] at trims
      cases trims
    | cons first rest =>
      rw [isEntries] at trims
      cases trims
      refine ⟨source, first, rfl, rfl, ?_, rfl⟩
      rw [isEntries]
      exact List.mem_cons_self ..

/-- A channel of the payload is a rebinned channel of the histogram, and keeps its total. -/
theorem trimmedChannel_source (present : (trimmedChannels limit histogram).get? name = some bins) :
    ∃ source, histogram.channels.get? name = some source ∧ bins = rebin source (trimmedBinCount limit source) ∧
      bins.sum = source.sum := by
  rw [get?_trimmedChannels] at present
  split at present
  · obtain ⟨source, found, rfl⟩ := Option.map_eq_some_iff.mp present
    exact ⟨source, found, rfl, sum_rebin source (trimmedBinCount_pos limit source)⟩
  · cases present

/-- The number of bins that a channel keeps depends on their number only, which all channels share. -/
theorem length_trimmedChannel (present : (trimmedChannels limit histogram).get? name = some bins) :
    bins.length = min histogram.binCount (max 1 (min limit histogram.binCount)).toNat := by
  obtain ⟨source, found, rfl, _⟩ := trimmedChannel_source present
  rw [length_rebin, trimmedBinCount, histogram.counted name source found]

theorem payload_binCount {histogram : Option Histogram} {payload : HistogramPayload}
    (trims : trimHistogramPayload limit histogram = some payload) (present : payload.channels.get? name = some bins) :
    bins.length = payload.binCount := by
  obtain ⟨source, first, rfl, isTrimmed, member, isCount⟩ := payload_cases trims
  have found := Dict.get?_of_mem member
  rw [isTrimmed] at present found
  rw [isCount, length_trimmedChannel present, length_trimmedChannel found]

theorem histogram_rebinning_conserves (bins : List Int) (targetCount : Nat) (positive : 0 < targetCount) :
    ((rebin bins targetCount).length = min bins.length targetCount ∧
      (∃ slices, SlicesOf bins slices ∧ rebin bins targetCount = slices.map List.sum) ∧
      (rebin bins targetCount).sum = bins.sum) ∧
    ∀ limit histogram, ∀ payload ∈ trimHistogramPayload limit histogram,
      ∀ name, ∀ channel ∈ payload.channels.get? name, channel.length = payload.binCount := by
  refine ⟨⟨length_rebin bins targetCount, rebin_slices bins positive, sum_rebin bins positive⟩, ?_⟩
  intro limit histogram payload trims name channel present
  exact payload_binCount trims present

def fiveBins : Histogram := lumaHistogram [3, 1, 4, 1, 5] (by decide)

theorem histogram_rebinning_conserves_fiveBins :
    rebin [3, 1, 4, 1, 5] 2 = [4, 10] ∧ (rebin [3, 1, 4, 1, 5] 2).sum = 14 ∧
      (trimHistogramPayload 2 (some fiveBins)).map (·.binCount) = some 2 ∧
      ∀ payload ∈ trimHistogramPayload 2 (some fiveBins),
        ∀ channel ∈ payload.channels.get? "luma", channel.length = payload.binCount := by
  obtain ⟨⟨_, _, total⟩, counts⟩ := histogram_rebinning_conserves [3, 1, 4, 1, 5] 2 (by decide)
  refine ⟨by decide, total.trans (by decide), by decide, ?_⟩
  intro payload trims
  exact counts 2 (some fiveBins) payload trims "luma"

end DarktableAgent.Server
