import Mathlib.Data.Bool.AllAny
import DarktableAgent.Foundation.Numerals
import DarktableAgent.Client.Collect

/-! Capability ids are as distinct as the setting ids they are built from.

Only the minus sign of an instance number is lost when a setting id becomes a
capability id. What follows it is a numeral and then a graph element without
digits, so the sign can be told from the length of the run of dots.
-/

set_option autoImplicit false

namespace DarktableAgent.Client

open Foundation

@[simp] theorem sanitizeChars_append (left right : List Char) :
    sanitizeChars (left ++ right) = sanitizeChars left ++ sanitizeChars right := List.flatMap_append

/-- Letters, digits and dots stay as they are. -/
theorem sanitizeChars_of_plain {text : List Char} (plain : ∀ c ∈ text, c.isAlphanum ∨ c = '.') :
    sanitizeChars text = text := by
  induction text with
  | nil => rfl
  | cons c rest ih =>
    have here : sanitizeChar c = [c] := by
      rcases plain c List.mem_cons_self with alphanumeric | rfl
      · rw [sanitizeChar, if_pos alphanumeric]
      · rfl
    calc
      sanitizeChars (c :: rest) = sanitizeChar c ++ sanitizeChars rest := rfl
      _ = c :: rest := by rw [here, ih fun c member => plain c (List.mem_cons_of_mem _ member)]; rfl

theorem sanitizeChars_plain (text : List Char) : ∀ c ∈ sanitizeChars text, c.isAlphanum ∨ c = '.' := by
  intro c member
  obtain ⟨source, -, replaced⟩ := List.mem_flatMap.mp member
  unfold sanitizeChar at replaced
  split_ifs at replaced with alphanumeric
  · rw [List.mem_singleton.mp replaced]
    exact Or.inl alphanumeric
  · exact Or.inr (List.eq_of_mem_replicate replaced)

theorem sanitizeIdSegment_plain (value : String) :
    ∀ c ∈ (sanitizeIdSegment value).toList, c.isAlphanum ∨ c = '.' := by
  unfold sanitizeIdSegment
  split_ifs
  · exact List.all_iff_forall_prop.mp (by decide)
  · simpa only [String.toList_ofList] using sanitizeChars_plain value.toList

theorem sanitizeIdSegment_toList {value : String} (present : value ≠ "") :
    (sanitizeIdSegment value).toList = sanitizeChars value.toList := by
  rw [sanitizeIdSegment, if_neg present, String.toList_ofList]

/-- The suffixes that the collection gives to graph elements. -/
def graphSuffixes : List String :=
  rgblevelsChannels.flatMap (fun channel => rgblevelsHandles.map fun handle => channel.2.1 ++ "." ++ handle.2.1) ++
    colorzonesChannels.flatMap fun channel => colorzonesBands.map fun band => channel.2.1 ++ "." ++ band.2.1

theorem rgblevels_mem_graphSuffixes {channel handle : Fin 3 × String × String} (isChannel : channel ∈ rgblevelsChannels)
    (isHandle : handle ∈ rgblevelsHandles) : channel.2.1 ++ "." ++ handle.2.1 ∈ graphSuffixes := by
  apply List.mem_append_left
  exact List.mem_flatMap.mpr ⟨channel, isChannel, List.mem_map_of_mem isHandle⟩

theorem colorzones_mem_graphSuffixes {channel : Fin 3 × String × String} {band : Fin 8 × String × String}
    (isChannel : channel ∈ colorzonesChannels) (isBand : band ∈ colorzonesBands) :
    channel.2.1 ++ "." ++ band.2.1 ∈ graphSuffixes := by
  apply List.mem_append_right
  exact List.mem_flatMap.mpr ⟨channel, isChannel, List.mem_map_of_mem isBand⟩

/-- The names of channels, handles and bands are words. -/
theorem graphNames_letters : ∀ name ∈ rgblevelsChannels.map (·.2.1) ++ rgblevelsHandles.map (·.2.1) ++
      colorzonesChannels.map (·.2.1) ++ colorzonesBands.map (·.2.1),
    ∀ c ∈ name.toList, c.isAlphanum = true ∧ c.isDigit = false := by
  have checked : ∀ name ∈ rgblevelsChannels.map (·.2.1) ++ rgblevelsHandles.map (·.2.1) ++
        colorzonesChannels.map (·.2.1) ++ colorzonesBands.map (·.2.1),
      name.toList.all (fun c => c.isAlphanum = true ∧ c.isDigit = false) = true := by decide +kernel
  exact fun name listed => List.all_iff_forall_prop.mp (checked name listed)

theorem graphSuffixes_words {suffix : String} (known : suffix ∈ graphSuffixes) :
    suffix ≠ "" ∧ ∀ c ∈ suffix.toList, (c.isAlphanum ∨ c = '.') ∧ c.isDigit = false := by
  have joined : ∃ first second, suffix = first ++ "." ++ second ∧
      (∀ c ∈ first.toList, c.isAlphanum = true ∧ c.isDigit = false) ∧
      ∀ c ∈ second.toList, c.isAlphanum = true ∧ c.isDigit = false := by
    rcases List.mem_append.mp known with levels | zones
    · obtain ⟨channel, isChannel, inChannel⟩ := List.mem_flatMap.mp levels
      obtain ⟨handle, isHandle, rfl⟩ := List.mem_map.mp inChannel
      refine ⟨_, _, rfl, graphNames_letters _ ?_, graphNames_letters _ ?_⟩
      · simp [List.mem_map_of_mem isChannel]
      · simp [List.mem_map_of_mem isHandle]
    · obtain ⟨channel, isChannel, inChannel⟩ := List.mem_flatMap.mp zones
      obtain ⟨band, isBand, rfl⟩ := List.mem_map.mp inChannel
      refine ⟨_, _, rfl, graphNames_letters _ ?_, graphNames_letters _ ?_⟩
      · simp [List.mem_map_of_mem isChannel]
      · simp [List.mem_map_of_mem isBand]
  obtain ⟨first, second, rfl, firstLetters, secondLetters⟩ := joined
  constructor
  · intro empty
    exact absurd (String.append_eq_empty_iff.mp (String.append_eq_empty_iff.mp empty).1).2 (by decide)
  · intro c member
    rw [String.toList_append, String.toList_append] at member
    rcases List.mem_append.mp member with front | inSecond
    · rcases List.mem_append.mp front with inFirst | dot
      · exact ⟨Or.inl (firstLetters c inFirst).1, (firstLetters c inFirst).2⟩
      · obtain rfl : c = '.' := List.mem_singleton.mp dot
        exact ⟨Or.inr rfl, rfl⟩
    · exact ⟨Or.inl (secondLetters c inSecond).1, (secondLetters c inSecond).2⟩

theorem sanitizeIdSegment_of_graph {suffix : String} (known : suffix ∈ graphSuffixes) :
    sanitizeIdSegment suffix = suffix := by
  obtain ⟨present, words⟩ := graphSuffixes_words known
  apply String.toList_inj.mp
  rw [sanitizeIdSegment_toList present, sanitizeChars_of_plain fun c member => (words c member).1]

/-- A setting id: an action path, an instance and, for a graph, one of its elements. -/
inductive SettingName : String → Prop where
  | widget (actionPath : String) (multiPriority : Int) : SettingName (buildSettingId actionPath multiPriority)
  | element (actionPath : String) (multiPriority : Int) {suffix : String} (known : suffix ∈ graphSuffixes) :
      SettingName (buildSettingIdWithSuffix actionPath multiPriority suffix)

/-- The parts of a setting id: what precedes the number, its sign, its digits, and a tail without digits. -/
structure SettingParts (settingId : String) where
  segment : List Char
  sign : List Char
  init : List Char
  last : Char
  tail : List Char
  segmentPlain : ∀ c ∈ segment, c.isAlphanum ∨ c = '.'
  signed : sign = [] ∨ sign = ['-']
  digits : ∀ c ∈ init ++ [last], c.isDigit = true
  tailPlain : ∀ c ∈ tail, c.isAlphanum ∨ c = '.'
  tailFree : ∀ c ∈ tail, c.isDigit = false
  spelled : settingId.toList = "setting.".toList ++ segment ++ ".instance.".toList ++ sign ++ init ++ [last] ++ tail

theorem numeral_parts (value : Int) : ∃ sign init last, (sign = [] ∨ sign = ['-']) ∧
    (∀ c ∈ init ++ [last], c.isDigit = true) ∧ (toString value).toList = sign ++ init ++ [last] := by
  have natural (number : Nat) : ∃ init last, (∀ c ∈ init ++ [last], c.isDigit = true) ∧
      (toString number).toList = init ++ [last] := by
    have spelled : (toString number).toList = Nat.toDigits 10 number := Nat.toList_repr
    have digits : ∀ c ∈ (toString number).toList, c.isDigit = true := by
      rw [spelled]
      intro c member
      exact Nat.isDigit_of_mem_toDigits (by decide) (by decide) member
    rcases List.eq_nil_or_concat (toString number).toList with none | ⟨init, last, split⟩
    · exact absurd (spelled.symm.trans none) Nat.toDigits_ne_nil
    · rw [List.concat_eq_append] at split
      exact ⟨init, last, split ▸ digits, split⟩
  cases value with
  | ofNat number =>
    obtain ⟨init, last, digits, split⟩ := natural number
    exact ⟨[], init, last, Or.inl rfl, digits, by rw [toList_toString_ofNat, split, List.nil_append]⟩
  | negSucc number =>
    obtain ⟨init, last, digits, split⟩ := natural (number + 1)
    exact ⟨['-'], init, last, Or.inr rfl, digits, by rw [toList_toString_negSucc, split]; rfl⟩

theorem SettingName.parts {settingId : String} (name : SettingName settingId) : Nonempty (SettingParts settingId) := by
  cases name with
  | widget actionPath multiPriority =>
    obtain ⟨sign, init, last, signed, digits, numeral⟩ := numeral_parts multiPriority
    refine ⟨(sanitizeIdSegment actionPath).toList, sign, init, last, [], sanitizeIdSegment_plain _, signed, digits,
      by simp, by simp, ?_⟩
    simp only [buildSettingId, String.toList_append, numeral, List.append_assoc, List.append_nil]
  | element actionPath multiPriority known =>
    rename_i suffix
    obtain ⟨present, words⟩ := graphSuffixes_words known
    obtain ⟨sign, init, last, signed, digits, numeral⟩ := numeral_parts multiPriority
    refine ⟨(sanitizeIdSegment actionPath).toList, sign, init, last, '.' :: (sanitizeIdSegment suffix).toList,
      sanitizeIdSegment_plain _, signed, digits, ?_, ?_, ?_⟩
    · exact List.forall_mem_cons.mpr ⟨Or.inr rfl, sanitizeIdSegment_plain _⟩
    · rw [sanitizeIdSegment_of_graph known]
      exact List.forall_mem_cons.mpr ⟨rfl, fun c member => (words c member).2⟩
    · simp only [buildSettingIdWithSuffix, if_neg present, buildSettingId, String.toList_append, numeral,
        List.append_assoc]
      rfl

theorem SettingParts.sanitized {settingId : String} (parts : SettingParts settingId) :
    sanitizeChars settingId.toList =
      "setting.".toList ++ parts.segment ++ ".instance.".toList ++ sanitizeChars parts.sign ++ parts.init ++
        [parts.last] ++ parts.tail := by
  have digits : ∀ c ∈ parts.init ++ [parts.last], c.isAlphanum ∨ c = '.' := fun c member =>
    Or.inl (by simp [Char.isAlphanum, parts.digits c member])
  have initPlain : sanitizeChars parts.init = parts.init :=
    sanitizeChars_of_plain fun c member => digits c (List.mem_append_left _ member)
  have lastPlain : sanitizeChars [parts.last] = [parts.last] :=
    sanitizeChars_of_plain fun c member => digits c (List.mem_append_right _ member)
  rw [parts.spelled]
  simp only [sanitizeChars_append, initPlain, lastPlain, sanitizeChars_of_plain parts.segmentPlain,
    sanitizeChars_of_plain parts.tailPlain]
  rfl

/-- What precedes the digits ends in one dot or, after a sign, in two. -/
theorem sanitized_sign {sign : List Char} (signed : sign = [] ∨ sign = ['-']) (segment : List Char) :
    ∃ front, "setting.".toList ++ segment ++ ".instance.".toList ++ sanitizeChars sign = front ++ ['.'] ∧
      (sign = [] ∧ front = "setting.".toList ++ segment ++ ".instance".toList ∨
        sign = ['-'] ∧ front = "setting.".toList ++ segment ++ ".instance".toList ++ ['.']) := by
  rcases signed with rfl | rfl
  · have dotted : ".instance.".toList ++ sanitizeChars [] = ".instance".toList ++ ['.'] := by decide
    exact ⟨_, by rw [List.append_assoc, dotted, ← List.append_assoc], Or.inl ⟨rfl, rfl⟩⟩
  · have dotted : ".instance.".toList ++ sanitizeChars ['-'] = ".instance".toList ++ ['.'] ++ ['.'] := by decide
    refine ⟨_, ?_, Or.inr ⟨rfl, rfl⟩⟩
    rw [List.append_assoc, dotted, ← List.append_assoc, ← List.append_assoc]

/-- One sign is not taken for none: the word before the dots ends in a letter. -/
theorem sign_unambiguous {left right : List Char} (same : left ++ ".instance".toList = right ++ ['.']) : False := by
  have ends : (left ++ ".instan".toList ++ ['c']) ++ ['e'] = right ++ ['.'] := by
    rw [← same]
    simp
  exact absurd (List.append_inj' ends rfl).2 (by decide)

theorem SettingParts.unique {left right : String} (first : SettingParts left) (second : SettingParts right)
    (same : sanitizeChars left.toList = sanitizeChars right.toList) : left = right := by
  rw [first.sanitized, second.sanitized] at same
  have firstLast := first.digits first.last (by simp)
  have secondLast := second.digits second.last (by simp)
  -- the tail has no digit, and before it stands the last digit of the instance
  obtain ⟨numbered, tails⟩ := cut_after_injective Char.isDigit firstLast secondLast first.tailFree second.tailFree same
  obtain ⟨front, spelled, signs⟩ := sanitized_sign first.signed first.segment
  obtain ⟨otherFront, otherSpelled, otherSigns⟩ := sanitized_sign second.signed second.segment
  rw [spelled, otherSpelled, List.append_assoc, List.append_assoc _ _ [second.last]] at numbered
  -- the digits are those after the last dot
  obtain ⟨fronts, digits⟩ := cut_after_injective (fun c => !c.isDigit) (by decide) (by decide)
    (fun c member => by simp [first.digits c member]) (fun c member => by simp [second.digits c member]) numbered
  obtain rfl := List.append_cancel_right fronts
  have sameWords : "setting.".toList ++ first.segment ++ ".instance.".toList ++ first.sign =
      "setting.".toList ++ second.segment ++ ".instance.".toList ++ second.sign := by
    rcases signs with ⟨unsigned, here⟩ | ⟨signed, here⟩ <;>
      rcases otherSigns with ⟨otherUnsigned, there⟩ | ⟨otherSigned, there⟩
    · rw [unsigned, otherUnsigned, List.append_cancel_left (List.append_cancel_right (here.symm.trans there))]
    · exact (sign_unambiguous (here.symm.trans there)).elim
    · exact (sign_unambiguous (there.symm.trans here)).elim
    · have segments := List.append_cancel_right (here.symm.trans there)
      rw [signed, otherSigned, List.append_cancel_left (List.append_cancel_right segments)]
  refine String.toList_inj.mp ?_
  rw [first.spelled, second.spelled, tails, sameWords, List.append_assoc _ first.init, digits,
    ← List.append_assoc _ second.init]

/-- Two settings with one capability id are one setting. -/
theorem buildCapabilityId_injective {left right : String} (first : SettingName left) (second : SettingName right)
    (same : buildCapabilityId left = buildCapabilityId right) : left = right := by
  obtain ⟨firstParts⟩ := first.parts
  obtain ⟨secondParts⟩ := second.parts
  have present {settingId : String} (parts : SettingParts settingId) : settingId ≠ "" := by
    rintro rfl
    simpa using congrArg List.length parts.spelled
  have segments := congrArg String.toList same
  simp only [buildCapabilityId, String.toList_append, sanitizeIdSegment_toList (present firstParts),
    sanitizeIdSegment_toList (present secondParts)] at segments
  exact firstParts.unique secondParts (List.append_cancel_left segments)

end DarktableAgent.Client
