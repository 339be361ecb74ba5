import DarktableAgent.Foundation.StableSort
import DarktableAgent.Server.CanonicalBinder

/-! What the binder asks the catalog for.

A search scores the settings of one kind. An exact path outweighs any sum of partial
scores, and what is found depends on the set of reported settings alone.
-/

set_option autoImplicit false

namespace DarktableAgent.Server

open Foundation Protocol

section Search

variable (lower : String → String)

/-- The setting meets one of the criteria of the search. -/
def SettingQuery.Matches (query : SettingQuery) (setting : EditableSetting) : Prop :=
  setting.actionPath ∈ query.exactActionPaths ∨ lower setting.moduleId ∈ query.moduleIds ∨
    (∃ keyword ∈ query.actionKeywords, containsKeyword (lower setting.actionPath) keyword) ∨
    ∃ keyword ∈ query.labelKeywords, containsKeyword (lower setting.label) keyword

/-- The setting is of the wanted kind and has one of the exact paths. -/
def SettingQuery.Exact (query : SettingQuery) (setting : EditableSetting) : Prop :=
  setting.kind = query.kind ∧ setting.actionPath ∈ query.exactActionPaths

instance (query : SettingQuery) (setting : EditableSetting) : Decidable (query.Matches lower setting) :=
  inferInstanceAs (Decidable (_ ∨ _ ∨ _ ∨ _))

instance (query : SettingQuery) (setting : EditableSetting) : Decidable (query.Exact setting) :=
  inferInstanceAs (Decidable (_ ∧ _))

theorem settingScore_pos (query : SettingQuery) (setting : EditableSetting) :
    0 < settingScore lower query setting ↔ query.Matches lower setting := by
  have actions := List.countP_pos_iff (p := containsKeyword (lower setting.actionPath)) (l := query.actionKeywords)
  have labels := List.countP_pos_iff (p := containsKeyword (lower setting.label)) (l := query.labelKeywords)
  unfold settingScore SettingQuery.Matches
  rw [← actions, ← labels]
  split_ifs with exactPath module module <;> simp [exactPath, module]

/-- The partial scores of a search stay below that of an exact path. -/
def SettingQuery.Dominated (query : SettingQuery) : Prop :=
  (if query.moduleIds = [] then 0 else 20) + 8 * query.actionKeywords.length + 6 * query.labelKeywords.length < 100

instance (query : SettingQuery) : Decidable query.Dominated := inferInstanceAs (Decidable (_ < _))

theorem settingScore_exact {query : SettingQuery} {setting : EditableSetting} (exactPath : query.Exact setting) :
    100 ≤ settingScore lower query setting := by
  unfold settingScore
  rw [if_pos exactPath.2]
  omega

theorem settingScore_partial {query : SettingQuery} (dominated : query.Dominated) {setting : EditableSetting}
    (kind : setting.kind = query.kind) (other : ¬ query.Exact setting) : settingScore lower query setting < 100 := by
  have actions := List.countP_le_length (p := containsKeyword (lower setting.actionPath)) (l := query.actionKeywords)
  have labels := List.countP_le_length (p := containsKeyword (lower setting.label)) (l := query.labelKeywords)
  have noPath : setting.actionPath ∉ query.exactActionPaths := fun path => other ⟨kind, path⟩
  have module : (if lower setting.moduleId ∈ query.moduleIds then 20 else 0) ≤
      if query.moduleIds = [] then 0 else 20 := by
    split_ifs with inModules none <;> simp_all
  unfold SettingQuery.Dominated at dominated
  unfold settingScore
  rw [if_neg noPath]
  omega

theorem candidateLe_total (left right : Nat × EditableSetting) : candidateLe left right || candidateLe right left := by
  simp only [candidateLe, Bool.or_eq_true, Bool.and_eq_true, decide_eq_true_eq, beq_iff_eq]
  rcases lt_trichotomy left.1 right.1 with less | same | more
  · exact .inr (.inl less)
  · rcases le_total [left.2.moduleId, left.2.actionPath, left.2.settingId]
        [right.2.moduleId, right.2.actionPath, right.2.settingId] with below | above
    · exact .inl (.inr ⟨same, below⟩)
    · exact .inr (.inr ⟨same.symm, above⟩)
  · exact .inl (.inl more)

theorem candidateLe_trans (first second third : Nat × EditableSetting) (below : candidateLe first second)
    (above : candidateLe second third) : candidateLe first third := by
  simp only [candidateLe, Bool.or_eq_true, Bool.and_eq_true, decide_eq_true_eq, beq_iff_eq] at below above ⊢
  rcases below with more | ⟨same, le⟩
  · rcases above with more' | ⟨same', -⟩
    · exact .inl (more'.trans more)
    · exact .inl (same' ▸ more)
  · rcases above with more' | ⟨same', le'⟩
    · exact .inl (same ▸ more')
    · exact .inr ⟨same.trans same', le.trans le'⟩

/-- Two candidates that are equally good have one setting id. -/
theorem candidateLe_settingId {left right : Nat × EditableSetting} (below : candidateLe left right)
    (above : candidateLe right left) : left.2.settingId = right.2.settingId := by
  simp only [candidateLe, Bool.or_eq_true, Bool.and_eq_true, decide_eq_true_eq, beq_iff_eq] at below above
  rcases below with more | ⟨same, le⟩
  · rcases above with less | ⟨same, -⟩
    · omega
    · omega
  · rcases above with less | ⟨-, ge⟩
    · omega
    · have keys := le_antisymm le ge
      simp only [List.cons.injEq] at keys
      exact keys.2.2.1

/-- A setting the search takes into account. -/
structure SettingQuery.Candidate (query : SettingQuery) (settings : List EditableSetting)
    (setting : EditableSetting) : Prop where
  member : setting ∈ settings
  kind : setting.kind = query.kind
  matched : query.Matches lower setting

/-- A candidate that no other one comes before. -/
structure SettingQuery.Best (query : SettingQuery) (settings : List EditableSetting)
    (setting : EditableSetting) : Prop extends query.Candidate lower settings setting where
  least : ∀ other, query.Candidate lower settings other →
    candidateLe (settingScore lower query setting, setting) (settingScore lower query other, other)

theorem mem_scored {settings : List EditableSetting} {query : SettingQuery} {candidate : Nat × EditableSetting} :
    candidate ∈ ((settings.filter (·.kind = query.kind)).map fun setting =>
        (settingScore lower query setting, setting)).filter (0 < ·.1) ↔
      candidate.1 = settingScore lower query candidate.2 ∧ query.Candidate lower settings candidate.2 := by
  simp only [List.mem_filter, List.mem_map, decide_eq_true_eq]
  constructor
  · rintro ⟨⟨setting, ⟨member, kind⟩, rfl⟩, positive⟩
    exact ⟨rfl, member, kind, (settingScore_pos lower query setting).mp positive⟩
  · rintro ⟨score, member, kind, matched⟩
    constructor
    · exact ⟨candidate.2, ⟨member, kind⟩, by rw [← score]⟩
    · rw [score]
      exact (settingScore_pos lower query candidate.2).mpr matched

theorem findSetting_best {settings : List EditableSetting} {query : SettingQuery} {setting : EditableSetting}
    (found : findSetting lower settings query = some setting) : query.Best lower settings setting := by
  obtain ⟨candidate, first, rfl⟩ := Option.map_eq_some_iff.mp found
  obtain ⟨member, least⟩ := head?_mergeSort_least candidateLe_total candidateLe_trans first
  obtain ⟨score, isCandidate⟩ := (mem_scored lower).mp member
  refine ⟨isCandidate, fun other inTable => ?_⟩
  rw [← score]
  exact least (_, other) ((mem_scored lower).mpr ⟨rfl, inTable⟩)

theorem findSetting_none {settings : List EditableSetting} {query : SettingQuery} :
    findSetting lower settings query = none ↔ ∀ setting, ¬ query.Candidate lower settings setting := by
  simp only [findSetting]
  rw [Option.map_eq_none_iff, head?_mergeSort_none, List.eq_nil_iff_forall_not_mem]
  constructor
  · intro none setting isCandidate
    exact none (settingScore lower query setting, setting) ((mem_scored lower).mpr ⟨rfl, isCandidate⟩)
  · intro none candidate member
    exact none candidate.2 ((mem_scored lower).mp member).2

/-- The best candidate is found when it is the only one that is as good. -/
theorem findSetting_of_best {settings : List EditableSetting} {query : SettingQuery} {setting : EditableSetting}
    (best : query.Best lower settings setting)
    (only : ∀ other, query.Best lower settings other → other = setting) :
    findSetting lower settings query = some setting := by
  cases found : findSetting lower settings query with
  | none => exact absurd best.toCandidate ((findSetting_none lower).mp found setting)
  | some other => rw [only other (findSetting_best lower found)]

/-- The first of the best candidates of a list. -/
structure SettingQuery.First (query : SettingQuery) (settings : List EditableSetting)
    (setting : EditableSetting) : Prop extends query.Best lower settings setting where
  earliest : ∃ before after, settings = before ++ setting :: after ∧
    ∀ other, query.Candidate lower before other →
      ¬ candidateLe (settingScore lower query other, other) (settingScore lower query setting, setting)

theorem findSetting_first {settings : List EditableSetting} {query : SettingQuery} {setting : EditableSetting}
    (found : findSetting lower settings query = some setting) : query.First lower settings setting := by
  refine ⟨findSetting_best lower found, ?_⟩
  obtain ⟨candidate, first, rfl⟩ := Option.map_eq_some_iff.mp found
  obtain ⟨before, after, split, -, apart⟩ := (head?_mergeSort_iff candidateLe_total candidateLe_trans).mp first
  -- the candidates before it come from the settings before it
  obtain ⟨listed, _, splitScored, rfl, tail⟩ := List.filter_eq_append_iff.mp split
  obtain ⟨skipped, _, rfl, noScore, _, rfl⟩ := List.filter_eq_cons_iff.mp tail
  rw [← List.append_assoc] at splitScored
  obtain ⟨ofKind, _, splitKind, mapped, rest⟩ := List.map_eq_append_iff.mp splitScored
  obtain ⟨setting, _, rfl, here, -⟩ := List.map_eq_cons_iff.mp rest
  obtain ⟨early, _, rfl, earlyKind, others⟩ := List.filter_eq_append_iff.mp splitKind
  obtain ⟨otherKind, late, rfl, wrongKind, -, -⟩ := List.filter_eq_cons_iff.mp others
  rw [← here]
  refine ⟨early ++ otherKind, late, (List.append_assoc _ _ _).symm, fun other isCandidate => ?_⟩
  have inEarly : other ∈ early := by
    rcases List.mem_append.mp isCandidate.member with inEarly | skippedKind
    · exact inEarly
    · exact absurd isCandidate.kind (by simpa using wrongKind other skippedKind)
  have scored : (settingScore lower query other, other) ∈ listed ++ skipped := by
    rw [← mapped, ← earlyKind]
    exact List.mem_map.mpr ⟨other, List.mem_filter.mpr ⟨inEarly, by simpa using isCandidate.kind⟩, rfl⟩
  have positive := (settingScore_pos lower query other).mpr isCandidate.matched
  rcases List.mem_append.mp scored with inListed | inSkipped
  · rw [here]
    exact apart _ (List.mem_filter.mpr ⟨inListed, by simpa using positive⟩)
  · exact absurd positive (by simpa using noScore _ inSkipped)

theorem SettingQuery.First.unique {settings : List EditableSetting} {query : SettingQuery}
    {first second : EditableSetting} (isFirst : query.First lower settings first)
    (isSecond : query.First lower settings second) : first = second := by
  obtain ⟨before, after, same, apart⟩ := isFirst.earliest
  obtain ⟨before', after', same', apart'⟩ := isSecond.earliest
  rcases split_order (same.symm.trans same') with here | earlier | later
  · exact here
  · exact absurd (isFirst.least second isSecond.toCandidate)
      (apart' first ⟨earlier, isFirst.kind, isFirst.matched⟩)
  · exact absurd (isSecond.least first isFirst.toCandidate)
      (apart second ⟨later, isSecond.kind, isSecond.matched⟩)

/-- The search returns the first of the best candidates. -/
theorem findSetting_some {settings : List EditableSetting} {query : SettingQuery} {setting : EditableSetting} :
    findSetting lower settings query = some setting ↔ query.First lower settings setting := by
  constructor
  · exact findSetting_first lower
  · intro isFirst
    cases found : findSetting lower settings query with
    | none => exact absurd isFirst.toCandidate ((findSetting_none lower).mp found setting)
    | some other => rw [SettingQuery.First.unique lower isFirst (findSetting_first lower found)]

end Search

/-- The four edges of a crop. -/
inductive CropEdge where
  | left
  | top
  | right
  | bottom
  deriving DecidableEq

def CropEdge.axis : CropEdge → String
  | .left => "cx"
  | .top => "cy"
  | .right => "cw"
  | .bottom => "ch"

/-- What the binder looks for. -/
inductive Control where
  | exposure
  | preset
  | temperature
  | tint
  | highlights
  | chroma
  | luma
  | grade (target : CanonicalGradeTarget)
  | rotation
  | crop (edge : CropEdge)
  deriving DecidableEq

def whiteBalanceQuery (control : String) : SettingQuery :=
  { kind := .setFloat, exactActionPaths := ["iop/temperature/" ++ control], labelKeywords := [control] }

def noiseQuery (channel : String) : SettingQuery where
  kind := .setFloat
  exactActionPaths := ["iop/denoiseprofile/" ++ channel]
  moduleIds := ["denoiseprofile"]
  actionKeywords := [channel, "denoise"]
  labelKeywords := [channel, "noise"]

def gradeQuery : CanonicalGradeTarget → SettingQuery
  | .globalSaturation => {
    kind := .setFloat
    exactActionPaths := ["iop/colorbalancergb/global_saturation", "iop/colorequal/sat_global"]
    actionKeywords := ["saturation"]
    labelKeywords := ["saturation"] }
  | .blueSaturation => {
    kind := .setFloat
    exactActionPaths := ["iop/colorequal/sat_blue"]
    moduleIds := ["colorequal"]
    actionKeywords := ["blue", "saturation"]
    labelKeywords := ["blue", "saturation"] }
  | .redHue => {
    kind := .setFloat
    exactActionPaths := ["iop/primaries/red_hue"]
    moduleIds := ["primaries"]
    actionKeywords := ["red", "hue"]
    labelKeywords := ["red", "hue"] }
  | .globalContrast => {
    kind := .setFloat
    exactActionPaths := ["iop/colorbalancergb/global_contrast"]
    actionKeywords := ["contrast"]
    labelKeywords := ["contrast"] }

def cropQuery (axis : String) : SettingQuery where
  kind := .setFloat
  exactActionPaths := ["iop/clipping/" ++ axis, "iop/crop/" ++ axis]
  moduleIds := ["clipping", "crop"]
  actionKeywords := [axis]
  labelKeywords := [axis]

/-- The search the binder issues for a control. -/
def Control.query : Control → SettingQuery
  | .exposure =>
    { kind := .setFloat, exactActionPaths := ["iop/exposure/exposure"], labelKeywords := ["exposure"] }
  | .preset =>
    { kind := .setChoice, exactActionPaths := ["iop/temperature/preset"], labelKeywords := ["preset"] }
  | .temperature => whiteBalanceQuery "temperature"
  | .tint => whiteBalanceQuery "tint"
  | .highlights => {
    kind := .setFloat
    exactActionPaths := ["iop/filmicrgb/white_relative_exposure", "iop/toneequalizer/highlights"]
    moduleIds := ["filmicrgb", "toneequalizer"]
    actionKeywords := ["highlight", "white_relative_exposure"]
    labelKeywords := ["highlight", "white relative exposure"] }
  | .chroma => noiseQuery "chroma"
  | .luma => noiseQuery "luma"
  | .grade target => gradeQuery target
  | .rotation => {
    kind := .setFloat
    exactActionPaths := ["iop/clipping/angle", "iop/crop/angle"]
    moduleIds := ["clipping", "crop"]
    actionKeywords := ["angle", "rotate"]
    labelKeywords := ["angle", "rotation"] }
  | .crop edge => cropQuery edge.axis

/-- No sum of partial scores reaches the score of an exact path. -/
theorem Control.dominated (control : Control) : control.query.Dominated := by
  cases control with
  | grade target => cases target <;> decide
  | crop edge => cases edge <;> decide
  | _ => decide

section Stability

variable (lower : String → String) {settings : List EditableSetting}

/-- With distinct ids there is one best candidate. -/
theorem best_unique (distinct : (settings.map (·.settingId)).Nodup) {query : SettingQuery}
    {first second : EditableSetting} (isFirst : query.Best lower settings first)
    (isSecond : query.Best lower settings second) : first = second := by
  have sameId := candidateLe_settingId (isFirst.least second isSecond.toCandidate)
    (isSecond.least first isFirst.toCandidate)
  exact List.inj_on_of_nodup_map distinct isFirst.member isSecond.member sameId

theorem Best.of_perm {permuted : List EditableSetting} (order : permuted.Perm settings) {query : SettingQuery}
    {setting : EditableSetting} (best : query.Best lower permuted setting) : query.Best lower settings setting := by
  refine ⟨⟨order.mem_iff.mp best.member, best.kind, best.matched⟩, fun other isOther => ?_⟩
  exact best.least other ⟨order.mem_iff.mpr isOther.member, isOther.kind, isOther.matched⟩

/-- A setting at an exact path comes before any other candidate. -/
theorem Best.exact {control : Control} {setting other : EditableSetting}
    (best : control.query.Best lower settings setting) (member : other ∈ settings)
    (exactPath : control.query.Exact other) : control.query.Exact setting := by
  by_contra partialMatch
  have below := settingScore_partial lower control.dominated best.kind partialMatch
  have above := settingScore_exact lower exactPath
  have first := best.least other ⟨member, exactPath.1, .inl exactPath.2⟩
  simp only [candidateLe, Bool.or_eq_true, Bool.and_eq_true, decide_eq_true_eq, beq_iff_eq] at first
  omega

/-- A control at an exact path is found before any other, a search comes back empty only when nothing of
the kind meets a criterion, and the order of the list does not matter. -/
theorem findSetting_stable (control : Control) (distinct : (settings.map (·.settingId)).Nodup) :
    ((∃ setting ∈ settings, control.query.Exact setting) →
        ∃ found ∈ settings, control.query.Exact found ∧ findSetting lower settings control.query = some found) ∧
      (findSetting lower settings control.query = none →
        ∀ setting ∈ settings, setting.kind = control.query.kind → ¬ control.query.Matches lower setting) ∧
      ∀ permuted : List EditableSetting, permuted.Perm settings →
        findSetting lower permuted control.query = findSetting lower settings control.query := by
  refine ⟨?_, ?_, fun permuted order => ?_⟩
  · rintro ⟨setting, member, exactPath⟩
    cases found : findSetting lower settings control.query with
    | none =>
      have isCandidate : control.query.Candidate lower settings setting := ⟨member, exactPath.1, .inl exactPath.2⟩
      exact absurd isCandidate ((findSetting_none lower).mp found setting)
    | some other =>
      have best := findSetting_best lower found
      exact ⟨other, best.member, Best.exact lower best member exactPath, rfl⟩
  · intro none setting member kind matched
    exact (findSetting_none lower).mp none setting ⟨member, kind, matched⟩
  · cases found : findSetting lower permuted control.query with
    | none =>
      symm
      rw [findSetting_none] at found ⊢
      intro setting isCandidate
      exact found setting ⟨order.mem_iff.mpr isCandidate.member, isCandidate.kind, isCandidate.matched⟩
    | some setting =>
      have best := Best.of_perm lower order (findSetting_best lower found)
      exact (findSetting_of_best lower best fun other isBest => best_unique lower distinct isBest best).symm

end Stability

/-- Another slider of the exposure module, whose label has the keyword too. -/
def blackLevelSetting : EditableSetting :=
  { exposureSetting with
    settingId := "setting.black"
    label := "exposure black level"
    actionPath := "iop/exposure/black"
    present := by decide }

theorem findSetting_stable_exposure :
    ∃ found ∈ [blackLevelSetting, exposureSetting], Control.exposure.query.Exact found ∧
      findSetting id [blackLevelSetting, exposureSetting] Control.exposure.query = some found :=
  (findSetting_stable id .exposure (by decide)).1 ⟨exposureSetting, by simp, by decide⟩

end DarktableAgent.Server
