import DeviceStandby.Lib.Json
import Mathlib.Data.List.Induction
import Mathlib.Data.List.Lex
import Mathlib.Data.List.TakeWhile
import Mathlib.Data.Set.Basic

/-!
# Versions of configurations

The extension library delivers configurations with versions, and `StandbyConfigManager` keeps the
greatest of them and asks whether the cloud has one that is as great. `CompareVersion` answers 1, 0,
or -1 for an error, and the loop of `GetParamVersion` takes an error for a yes: a version that is
malformed replaces what was found. Segments are compared as text before they are compared as
numbers, so a leading zero hides what comes after it. `readsVersions_iff` says which versions the
library may deliver, and `comparesNumbers_iff` of which pairs of versions the answer is that of the
order of their numbers.
-/

open Json

namespace DeviceStandby

/-! ## The version of a content -/

abbrev STANDBY_CONFIG_INDEX : Int := 5
abbrev STRATEGY_CONFIG_INDEX : Int := 6
abbrev CLOUD_CONFIG_INDEX : Int := 7
abbrev TAG_VER : String := "version"
abbrev VERSION_LEN : Nat := 4
abbrev VERSION_DELIM : Char := '.'
abbrev LONG_MAX : Nat := 2 ^ 63 - 1

/-- A text, by what the parser makes of it: nothing when it is empty or no JSON. -/
abbrev Content := Option Json

namespace JsonUtils

/-- `JsonUtils::LoadJsonValueFromContent`: the value is an object. -/
def loadJsonValueFromContent (content : Content) : Option Json :=
  content.filter fun jsonValue => jsonValue.asObject?.isSome

/-- `JsonUtils::GetStringFromJsonValue`. -/
def getStringFromJsonValue (jsonValue : Json) (key : String) : Option String :=
  if jsonValue.isEmpty ∨ key = "" then none else jsonValue.string? key

/-- `JsonUtils::SplitVersion`. -/
def splitVersion (versionStr : String) (versionDelim : Char) : List (List Char) :=
  (versionStr.toList.splitOn versionDelim).filter fun token => ¬ token.isEmpty

end JsonUtils

/-- The number that a sequence of digits writes. -/
def digitsToNat (digits : List Char) : Nat :=
  digits.foldl (fun n c => 10 * n + (c.toNat - '0'.toNat)) 0

/-- `strtol` in base ten, of a text that starts with a digit. -/
def strtol (token : List Char) : Nat :=
  min (digitsToNat (token.takeWhile Char.isDigit)) LONG_MAX

/-- `isdigit(segment[0])`. -/
def startsWithDigit (segment : List Char) : Bool :=
  segment.head?.any Char.isDigit

/-- What the extension library answers. -/
structure ExtConfig where
  getExtConfigFunc : Option (Int → Option (List Content))
  getSingleExtConfigFunc : Option (Int → Option Content)

namespace StandbyConfigManager

/-- The loop of `CompareVersion`. -/
def compareSegments : List (List Char) → List (List Char) → Int
  | a :: segA, b :: segB =>
    if ¬ startsWithDigit a ∨ ¬ startsWithDigit b then -1
    else if b ≠ a then if strtol b < strtol a then 1 else 0
    else compareSegments segA segB
  | _, _ => 1

/-- `StandbyConfigManager::CompareVersion`. -/
def compareVersion (configVerA configVerB : String) : Int :=
  if configVerA ≠ "" ∧ configVerB = "" then 1
  else if configVerA = "" ∧ configVerB ≠ "" then 0
  else if configVerA = "" ∧ configVerB = "" then -1
  else
    let segA := JsonUtils.splitVersion configVerA VERSION_DELIM
    let segB := JsonUtils.splitVersion configVerB VERSION_DELIM
    if segA.length ≠ VERSION_LEN then -1
    else if segB.length ≠ VERSION_LEN then -1
    else compareSegments segA segB

/-- The body of the loop of `GetParamVersion`. -/
def takeVersion (version : String) (content : Content) : String :=
  match JsonUtils.loadJsonValueFromContent content with
  | none => version
  | some devStandbyConfigRoot =>
    match JsonUtils.getStringFromJsonValue devStandbyConfigRoot TAG_VER with
    | none => version
    | some tempVersion => if compareVersion tempVersion version ≠ 0 then tempVersion else version

/-- `StandbyConfigManager::GetParamVersion`, and the version it leaves. -/
def getParamVersion (library : ExtConfig) (fileIndex : Int) (version : String) : Bool × String :=
  match library.getExtConfigFunc with
  | none => (true, version)
  | some getExtConfigFunc =>
    if fileIndex ≠ STANDBY_CONFIG_INDEX ∧ fileIndex ≠ STRATEGY_CONFIG_INDEX then (false, version)
    else
      match getExtConfigFunc fileIndex with
      | none => (false, version)
      | some configContentList => (true, configContentList.foldl takeVersion version)

/-- `StandbyConfigManager::GetCloudVersion`, and the version it leaves. The content need not be an
object. -/
def getCloudVersion (library : ExtConfig) (fileIndex : Int) (version : String) : Bool × String :=
  match library.getSingleExtConfigFunc with
  | none => (true, version)
  | some getSingleExtConfigFunc =>
    if fileIndex ≠ CLOUD_CONFIG_INDEX then (false, version)
    else
      match getSingleExtConfigFunc fileIndex with
      | none => (false, version)
      | some configCloud =>
        (true, (configCloud.bind (JsonUtils.getStringFromJsonValue · TAG_VER)).getD version)

/-- The decision of `NeedsToReadCloudConfig`. -/
def needsCloudVersion (cloudConfigVer deviceConfigVer strategyConfigVer : String) : Bool :=
  let result := compareVersion deviceConfigVer strategyConfigVer
  if result < 0 then false
  else
    let temp := if result > 0 then deviceConfigVer else strategyConfigVer
    compareVersion cloudConfigVer temp > 0

/-- `StandbyConfigManager::NeedsToReadCloudConfig`. -/
def needsToReadCloudConfig (library : ExtConfig) : Bool :=
  let deviceConfigVer := (getParamVersion library STANDBY_CONFIG_INDEX "").2
  let strategyConfigVer := (getParamVersion library STRATEGY_CONFIG_INDEX "").2
  let cloudConfigVer := (getCloudVersion library CLOUD_CONFIG_INDEX "").2
  needsCloudVersion cloudConfigVer deviceConfigVer strategyConfigVer

/-! ## The order of versions -/

/-- The segments of a version, the empty ones included. -/
def segmentsOf (version : String) : List (List Char) :=
  version.toList.splitOn VERSION_DELIM

/-- A version has four segments of digits. -/
def WellFormed (version : String) : Prop :=
  (segmentsOf version).length = VERSION_LEN ∧
    ∀ segment ∈ segmentsOf version, segment ≠ [] ∧ segment.all Char.isDigit = true

/-- Well-formedness is decided segment by segment. -/
instance (version : String) : Decidable (WellFormed version) :=
  inferInstanceAs (Decidable (_ ∧ _))

/-- The numbers of a version, which are compared in lexicographic order. -/
def numbersOf (version : String) : List Nat :=
  (segmentsOf version).map digitsToNat

/-- Two versions have the same segments up to one that differs. -/
def FirstDifference (segA segB : List (List Char)) (a b : List Char) : Prop :=
  ∃ common restA restB, segA = common ++ a :: restA ∧ segB = common ++ b :: restB ∧ a ≠ b

/-- The first segments that differ as texts have the same number for `strtol`. -/
def Tied (v w : String) : Prop :=
  ∃ a b, FirstDifference (segmentsOf v) (segmentsOf w) a b ∧ strtol a = strtol b

/-- A text passes for a version that is as great: it has four segments when the empty ones are left
out, and the first that differs starts with a digit and is greater for `strtol`. -/
def Outranks (c v : String) : Prop :=
  (JsonUtils.splitVersion c VERSION_DELIM).length = VERSION_LEN ∧
    (JsonUtils.splitVersion c VERSION_DELIM = segmentsOf v ∨
      ∃ a b, FirstDifference (JsonUtils.splitVersion c VERSION_DELIM) (segmentsOf v) a b ∧
        startsWithDigit a = true ∧ strtol b < strtol a)

section
variable {segA segB : List (List Char)} {a b x y : List Char} {v w c : String}

/-- The first difference is at the heads, or after heads that are equal. -/
theorem firstDifference_cons : FirstDifference (x :: segA) (y :: segB) a b ↔
    (x = a ∧ y = b ∧ a ≠ b) ∨ (x = y ∧ FirstDifference segA segB a b) := by
  constructor
  · rintro ⟨common, restA, restB, hA, hB, hne⟩
    cases common with
    | nil =>
      obtain ⟨rfl, rfl⟩ := List.cons.inj hA
      obtain ⟨rfl, rfl⟩ := List.cons.inj hB
      exact .inl ⟨rfl, rfl, hne⟩
    | cons z common =>
      obtain ⟨rfl, rfl⟩ := List.cons.inj hA
      obtain ⟨rfl, rfl⟩ := List.cons.inj hB
      exact .inr ⟨rfl, common, restA, restB, rfl, rfl, hne⟩
  · rintro (⟨rfl, rfl, hne⟩ | ⟨rfl, common, restA, restB, rfl, rfl, hne⟩)
    · exact ⟨[], segA, segB, rfl, rfl, hne⟩
    · exact ⟨x :: common, restA, restB, rfl, rfl, hne⟩

/-- An equal head is passed over. -/
theorem firstDifference_cons_self :
    FirstDifference (x :: segA) (x :: segB) a b ↔ FirstDifference segA segB a b := by
  rw [firstDifference_cons, or_iff_right, and_iff_right rfl]
  rintro ⟨rfl, rfl, hne⟩
  exact hne rfl

/-- A version does not differ from itself. -/
theorem not_firstDifference_self : ¬ FirstDifference segA segA a b := by
  rintro ⟨common, restA, restB, hA, hB, hne⟩
  rw [hA] at hB
  exact hne (List.cons.inj (List.append_cancel_left hB)).1

/-- Where one version ends there is no difference. -/
theorem not_firstDifference_nil : ¬ FirstDifference [] segB a b := by
  rintro ⟨common, restA, restB, hA, -⟩
  cases common <;> cases hA

/-- The first difference is the same from either side. -/
theorem FirstDifference.symm (h : FirstDifference segA segB a b) :
    FirstDifference segB segA b a := by
  obtain ⟨common, restA, restB, hA, hB, hne⟩ := h
  exact ⟨common, restB, restA, hB, hA, hne.symm⟩

/-- There is one first difference. -/
theorem FirstDifference.unique (h : FirstDifference segA segB a b)
    (h' : FirstDifference segA segB x y) : x = a ∧ y = b := by
  induction segA generalizing segB with
  | nil => exact absurd h not_firstDifference_nil
  | cons s segA ih =>
    cases segB with
    | nil =>
      obtain ⟨common, _, _, -, hB, -⟩ := h
      cases common <;> cases hB
    | cons t segB =>
      rw [firstDifference_cons] at h h'
      rcases h with ⟨rfl, rfl, hne⟩ | ⟨rfl, h⟩
      · rcases h' with ⟨rfl, rfl, -⟩ | ⟨heq, -⟩
        · exact ⟨rfl, rfl⟩
        · exact absurd heq hne
      · rcases h' with ⟨rfl, rfl, hne⟩ | ⟨-, h'⟩
        · exact absurd rfl hne
        · exact ih h h'

/-- Lists of one length are equal or differ first somewhere. -/
theorem eq_or_firstDifference (h : segA.length = segB.length) :
    segA = segB ∨ ∃ a b, FirstDifference segA segB a b := by
  induction segA generalizing segB with
  | nil => exact .inl (List.length_eq_zero_iff.1 h.symm).symm
  | cons x segA ih =>
    cases segB with
    | nil => cases h
    | cons y segB =>
      by_cases hxy : x = y
      · subst hxy
        refine (ih (Nat.succ.inj h)).imp (fun heq => by rw [heq]) ?_
        rintro ⟨a, b, hfirst⟩
        exact ⟨a, b, firstDifference_cons.2 (.inr ⟨rfl, hfirst⟩)⟩
      · exact .inr ⟨x, y, firstDifference_cons.2 (.inl ⟨rfl, rfl, hxy⟩)⟩

/-- The numbers of the first segments that differ decide, when they differ. -/
theorem FirstDifference.lt (h : FirstDifference segA segB a b)
    (hlt : digitsToNat a < digitsToNat b) : segA.map digitsToNat < segB.map digitsToNat := by
  obtain ⟨common, restA, restB, rfl, rfl, -⟩ := h
  rw [List.map_append, List.map_append]
  exact List.append_left_lt (List.cons_lt_cons_iff.2 (.inl hlt))

/-- The loop finds the first list as great when it equals the second, or is greater where they
differ first. -/
theorem compareSegments_eq_one_iff (hlength : segA.length = segB.length)
    (hB : ∀ segment ∈ segB, startsWithDigit segment = true) :
    compareSegments segA segB = 1 ↔ segA = segB ∨ ∃ a b, FirstDifference segA segB a b ∧
      startsWithDigit a = true ∧ strtol b < strtol a := by
  induction segA generalizing segB with
  | nil =>
    obtain rfl := List.length_eq_zero_iff.1 hlength.symm
    exact iff_of_true rfl (.inl rfl)
  | cons x segA ih =>
    cases segB with
    | nil => cases hlength
    | cons y segB =>
      have hy := hB y List.mem_cons_self
      have hrest := ih (Nat.succ.inj hlength) fun s hs => hB s (List.mem_cons_of_mem y hs)
      simp only [compareSegments, hy, not_true_eq_false, or_false]
      by_cases hxy : x = y
      · subst hxy
        rw [if_neg (not_not_intro hy), if_neg (not_not_intro rfl), hrest, List.cons.injEq,
          and_iff_right rfl]
        simp only [firstDifference_cons_self]
      · have hyx : y ≠ x := fun h => hxy h.symm
        by_cases hx : startsWithDigit x = true
        · rw [if_neg (not_not_intro hx), if_pos hyx]
          split_ifs with hlt
          · exact iff_of_true rfl
              (.inr ⟨x, y, firstDifference_cons.2 (.inl ⟨rfl, rfl, hxy⟩), hx, hlt⟩)
          · refine iff_of_false (by decide) ?_
            rintro (heq | ⟨a, b, hfirst, -, hgt⟩)
            · exact hxy (List.cons.inj heq).1
            · rcases firstDifference_cons.1 hfirst with ⟨rfl, rfl, -⟩ | ⟨heq, -⟩
              · exact hlt hgt
              · exact hxy heq
        · rw [if_pos hx]
          refine iff_of_false (by decide) ?_
          rintro (heq | ⟨a, b, hfirst, hdigit, -⟩)
          · exact hxy (List.cons.inj heq).1
          · rcases firstDifference_cons.1 hfirst with ⟨rfl, rfl, -⟩ | ⟨heq, -⟩
            · exact hx hdigit
            · exact hxy heq

/-- Segments that begin with digits are compared without an error. -/
theorem compareSegments_nonneg (hA : ∀ segment ∈ segA, startsWithDigit segment = true)
    (hB : ∀ segment ∈ segB, startsWithDigit segment = true) : 0 ≤ compareSegments segA segB := by
  induction segA generalizing segB with
  | nil => exact Int.one_nonneg
  | cons x segA ih =>
    cases segB with
    | nil => exact Int.one_nonneg
    | cons y segB =>
      have hx := hA x List.mem_cons_self
      have hy := hB y List.mem_cons_self
      simp only [compareSegments, hx, hy, not_true_eq_false, or_self, if_false]
      split_ifs
      · exact Int.one_nonneg
      · exact le_rfl
      · exact ih (fun s hs => hA s (List.mem_cons_of_mem x hs))
          fun s hs => hB s (List.mem_cons_of_mem y hs)

/-- The answer of a comparison is at most 1. -/
theorem compareSegments_le (segA segB : List (List Char)) : compareSegments segA segB ≤ 1 := by
  induction segA generalizing segB with
  | nil => exact le_rfl
  | cons x segA ih =>
    cases segB with
    | nil => exact le_rfl
    | cons y segB =>
      rw [compareSegments]
      split_ifs
      · decide
      · exact le_rfl
      · decide
      · exact ih segB

/-! ## Well-formed versions -/

/-- A well-formed version is not empty. -/
theorem WellFormed.ne_empty (h : WellFormed v) : v ≠ "" := by
  rintro rfl
  exact absurd h.1 (by decide)

/-- A well-formed version is split into its four segments. -/
theorem WellFormed.splitVersion (h : WellFormed v) :
    JsonUtils.splitVersion v VERSION_DELIM = segmentsOf v := by
  refine List.filter_eq_self.2 fun segment hmem => ?_
  simpa using (h.2 segment hmem).1

/-- Its segments begin with digits. -/
theorem WellFormed.startsWithDigit (h : WellFormed v) {segment : List Char}
    (hmem : segment ∈ segmentsOf v) : startsWithDigit segment = true := by
  obtain ⟨hne, hdigits⟩ := h.2 segment hmem
  cases segment with
  | nil => exact absurd rfl hne
  | cons digit segment =>
    rw [List.all_cons, Bool.and_eq_true] at hdigits
    exact hdigits.1

/-- `strtol` reads a segment whole, up to its bound. -/
theorem WellFormed.strtol (h : WellFormed v) {segment : List Char}
    (hmem : segment ∈ segmentsOf v) : strtol segment = min (digitsToNat segment) LONG_MAX := by
  rw [DeviceStandby.strtol, List.takeWhile_eq_self_iff.2 (List.all_eq_true.1 (h.2 segment hmem).2)]

/-- The segments that differ are segments of the versions. -/
theorem FirstDifference.mem (h : FirstDifference segA segB a b) : a ∈ segA ∧ b ∈ segB := by
  obtain ⟨common, restA, restB, rfl, rfl, -⟩ := h
  exact ⟨by simp, by simp⟩

/-- Among well-formed versions, one passes for as great when it is, unless a tie hides it. -/
theorem outranks_iff (hv : WellFormed v) (hw : WellFormed w) :
    Outranks v w ↔ numbersOf w ≤ numbersOf v ∧ ¬ Tied v w := by
  rcases eq_or_firstDifference (hv.1.trans hw.1.symm) with heq | ⟨a, b, hfirst⟩
  · refine iff_of_true ⟨?_, .inl (hv.splitVersion.trans heq)⟩
      ⟨by rw [numbersOf, numbersOf, heq], ?_⟩
    · rw [hv.splitVersion]
      exact hv.1
    · rintro ⟨a, b, hfirst, -⟩
      rw [heq] at hfirst
      exact not_firstDifference_self hfirst
  · obtain ⟨ha, hb⟩ := hfirst.mem
    have htied : Tied v w ↔ strtol a = strtol b := by
      refine ⟨?_, fun heq => ⟨a, b, hfirst, heq⟩⟩
      rintro ⟨a', b', hfirst', heq⟩
      obtain ⟨rfl, rfl⟩ := hfirst.unique hfirst'
      exact heq
    have hgreater : Outranks v w ↔ strtol b < strtol a := by
      rw [Outranks, hv.splitVersion, and_iff_right hv.1]
      constructor
      · rintro (heq | ⟨a', b', hfirst', -, hgt⟩)
        · rw [heq] at hfirst
          exact absurd hfirst not_firstDifference_self
        · obtain ⟨rfl, rfl⟩ := hfirst.unique hfirst'
          exact hgt
      · exact fun hgt => .inr ⟨a, b, hfirst, hv.startsWithDigit ha, hgt⟩
    rw [hgreater, htied, hv.strtol ha, hw.strtol hb]
    constructor
    · intro hgt
      exact ⟨(hfirst.symm.lt (by omega)).le, by omega⟩
    · rintro ⟨hle, hne⟩
      refine lt_of_le_of_ne (not_lt.1 fun hlt => ?_) (Ne.symm hne)
      exact absurd (hfirst.lt (by omega)) (not_lt.2 hle)

/-- Against a well-formed version `CompareVersion` finds what passes for as great. -/
theorem compareVersion_pos_iff (c : String) (hv : WellFormed v) :
    0 < compareVersion c v ↔ Outranks c v := by
  have hdigits : ∀ segment ∈ segmentsOf v, startsWithDigit segment = true :=
    fun _ hmem => hv.startsWithDigit hmem
  by_cases hc : c = ""
  · subst hc
    have hcompare : compareVersion "" v = 0 := by simp [compareVersion, hv.ne_empty]
    rw [hcompare]
    exact iff_of_false (lt_irrefl 0) fun h => absurd h.1 (by decide)
  · simp only [compareVersion, hc, hv.ne_empty, hv.splitVersion, hv.1, ne_eq, not_false_eq_true,
      not_true_eq_false, and_true, and_false, if_false, Outranks]
    split_ifs with hlength
    · rw [← compareSegments_eq_one_iff (hlength.trans hv.1.symm) hdigits, and_iff_right hlength]
      have hle := compareSegments_le (JsonUtils.splitVersion c VERSION_DELIM) (segmentsOf v)
      omega
    · exact iff_of_false (by decide) fun h => hlength h.1

/-- Between well-formed versions there is no error. -/
theorem compareVersion_nonneg (hv : WellFormed v) (hw : WellFormed w) :
    0 ≤ compareVersion v w := by
  simp only [compareVersion, hv.ne_empty, hw.ne_empty, hv.splitVersion, hw.splitVersion, hv.1, hw.1,
    ne_eq, not_false_eq_true, not_true_eq_false, and_true, and_false, if_false]
  exact compareSegments_nonneg (fun _ => hv.startsWithDigit) fun _ => hw.startsWithDigit

/-- Every version is greater than the empty one. -/
theorem compareVersion_empty (hv : v ≠ "") : compareVersion v "" = 1 := by
  simp [compareVersion, hv]

/-! ## The greatest version -/

/-- The version of a content. -/
def versionOf? (content : Content) : Option String :=
  (JsonUtils.loadJsonValueFromContent content).bind (JsonUtils.getStringFromJsonValue · TAG_VER)

/-- The greatest well-formed one of some versions, or nothing when there is none. -/
def IsGreatestVersion (versions : List String) (version : String) : Prop :=
  (version = "" ∧ ∀ v ∈ versions, ¬ WellFormed v) ∨
    (version ∈ versions ∧ WellFormed version ∧
      ∀ v ∈ versions, WellFormed v → numbersOf v ≤ numbersOf version)

/-- What the loop does with a version. -/
def replaceVersion (version tempVersion : String) : String :=
  if compareVersion tempVersion version ≠ 0 then tempVersion else version

/-- Contents without a version are passed over. -/
theorem foldl_takeVersion (contents : List Content) (version : String) :
    contents.foldl takeVersion version =
      (contents.filterMap versionOf?).foldl replaceVersion version := by
  rw [List.foldl_filterMap]
  congr 1
  funext version content
  unfold takeVersion versionOf?
  cases JsonUtils.loadJsonValueFromContent content with
  | none => rfl
  | some root =>
    cases hver : JsonUtils.getStringFromJsonValue root TAG_VER <;> simp [hver, replaceVersion]

/-- A version that is well formed, or empty, and is not hidden by a tie leaves the greatest one. -/
theorem IsGreatestVersion.replace {versions : List String} (h : IsGreatestVersion versions w)
    (hv : v ≠ "" → WellFormed v)
    (htied : ∀ u ∈ versions, WellFormed v → WellFormed u → numbersOf u < numbersOf v → ¬ Tied v u) :
    IsGreatestVersion (versions ++ [v]) (replaceVersion w v) := by
  have hkeep : w ∈ versions → WellFormed w → (WellFormed v → numbersOf v ≤ numbersOf w) →
      (∀ u ∈ versions, WellFormed u → numbersOf u ≤ numbersOf w) →
      IsGreatestVersion (versions ++ [v]) w := fun hmem hw hle hall =>
    .inr ⟨List.mem_append_left _ hmem, hw, fun u hu hwf => by
      rcases List.mem_append.1 hu with hu | hu
      · exact hall u hu hwf
      · rw [List.mem_singleton.1 hu] at hwf ⊢
        exact hle hwf⟩
  by_cases hempty : v = ""
  · -- an empty version is no version
    subst hempty
    have hno : ¬ WellFormed "" := by decide
    rcases h with ⟨rfl, hnone⟩ | ⟨hmem, hw, hall⟩
    · refine .inl ⟨by decide, fun u hu => ?_⟩
      rcases List.mem_append.1 hu with hu | hu
      · exact hnone u hu
      · rw [List.mem_singleton.1 hu]
        exact hno
    · have hcompare : compareVersion "" w = 0 := by simp [compareVersion, hw.ne_empty]
      rw [replaceVersion, hcompare, if_neg (not_not_intro rfl)]
      exact hkeep hmem hw (absurd · hno) hall
  · have hwf := hv hempty
    rcases h with ⟨rfl, hnone⟩ | ⟨hmem, hw, hall⟩
    · rw [replaceVersion, compareVersion_empty hempty, if_pos (by decide)]
      refine .inr ⟨by simp, hwf, fun u hu hu' => ?_⟩
      rcases List.mem_append.1 hu with hu | hu
      · exact absurd hu' (hnone u hu)
      · rw [List.mem_singleton.1 hu]
    · have hrank := (compareVersion_pos_iff v hw).trans (outranks_iff hwf hw)
      have hnonneg := compareVersion_nonneg hwf hw
      rw [replaceVersion]
      split_ifs with hcompare
      · refine .inr ⟨by simp, hwf, fun u hu hu' => ?_⟩
        have hle := (hrank.1 (lt_of_le_of_ne hnonneg (Ne.symm hcompare))).1
        rcases List.mem_append.1 hu with hu | hu
        · exact (hall u hu hu').trans hle
        · rw [List.mem_singleton.1 hu]
      · refine hkeep hmem hw (fun _ => not_lt.1 fun hlt => hcompare ?_) hall
        exact (hrank.2 ⟨hlt.le, htied w hmem hwf hw hlt⟩).ne'

/-- The loop leaves the greatest of the versions it is given. -/
theorem isGreatestVersion_foldl {versions : List String}
    (hwf : ∀ v ∈ versions, v ≠ "" → WellFormed v)
    (htied : ∀ v ∈ versions, ∀ u ∈ versions, WellFormed v → WellFormed u →
      numbersOf u < numbersOf v → ¬ Tied v u) :
    IsGreatestVersion versions (versions.foldl replaceVersion "") := by
  induction versions using List.reverseRecOn with
  | nil => exact .inl ⟨rfl, by simp⟩
  | append_singleton versions v ih =>
    have hsub : ∀ u ∈ versions, u ∈ versions ++ [v] := fun u => List.mem_append_left [v]
    rw [List.foldl_append, List.foldl_cons, List.foldl_nil]
    exact (ih (fun u hu => hwf u (hsub u hu))
      fun u hu u' hu' => htied u (hsub u hu) u' (hsub u' hu')).replace (hwf v (by simp))
        fun u hu => htied v (by simp) u (hsub u hu)

/-- A greatest version is one of the list, unless there is none. -/
theorem IsGreatestVersion.eq_empty_or {versions : List String} (h : IsGreatestVersion versions v) :
    v = "" ∨ v ∈ versions ∧ WellFormed v :=
  h.imp And.left fun hv => ⟨hv.1, hv.2.1⟩

end

/-! ## The versions that may be delivered -/

/-- The library delivers these versions for the device and the strategy, and these for the cloud. -/
structure Delivers (versions cloudVersions : Set String) (library : ExtConfig) : Prop where
  contents : ∀ getExtConfigFunc, library.getExtConfigFunc = some getExtConfigFunc →
    ∀ index contents, getExtConfigFunc index = some contents →
      ∀ content ∈ contents, ∀ v, versionOf? content = some v → v ∈ versions
  cloud : ∀ getSingleExtConfigFunc, library.getSingleExtConfigFunc = some getSingleExtConfigFunc →
    ∀ index content, getSingleExtConfigFunc index = some content →
      ∀ v, content.bind (JsonUtils.getStringFromJsonValue · TAG_VER) = some v → v ∈ cloudVersions

/-- `GetParamVersion` yields the greatest version, and the cloud is read when its version is well
formed and as great as those of the device and the strategy, of which there is one. -/
structure ReadsVersions (library : ExtConfig) : Prop where
  greatest : ∀ getExtConfigFunc, library.getExtConfigFunc = some getExtConfigFunc →
    ∀ index, index = STANDBY_CONFIG_INDEX ∨ index = STRATEGY_CONFIG_INDEX →
      ∀ contents, getExtConfigFunc index = some contents →
        IsGreatestVersion (contents.filterMap versionOf?) (getParamVersion library index "").2
  cloud : ∀ device strategy cloud, (getParamVersion library STANDBY_CONFIG_INDEX "").2 = device →
    (getParamVersion library STRATEGY_CONFIG_INDEX "").2 = strategy →
    (getCloudVersion library CLOUD_CONFIG_INDEX "").2 = cloud →
      (needsToReadCloudConfig library = true ↔ WellFormed cloud ∧ (device ≠ "" ∨ strategy ≠ "") ∧
        ∀ v, v = device ∨ v = strategy → WellFormed v → numbersOf v ≤ numbersOf cloud)

/-- The versions are well formed, and no tie hides that one is greater than another, or that the one
of the cloud is as great. The cloud has no malformed version that passes for as great. -/
structure Servable (versions cloudVersions : Set String) : Prop where
  wellFormed : ∀ v ∈ versions, v ≠ "" → WellFormed v
  untied : ∀ v ∈ versions, ∀ w ∈ versions, WellFormed v → WellFormed w →
    numbersOf w < numbersOf v → ¬ Tied v w
  cloudUntied : ∀ c ∈ cloudVersions, ∀ v ∈ versions, WellFormed c → WellFormed v →
    numbersOf v ≤ numbersOf c → ¬ Tied c v
  cloudMalformed : ∀ c ∈ cloudVersions, ∀ v ∈ versions, ¬ WellFormed c → WellFormed v →
    ¬ Outranks c v

section
variable {versions cloudVersions : Set String} {library : ExtConfig} {v w c : String}

/-- What `GetParamVersion` leaves is the greatest version of its contents. -/
theorem Servable.isGreatestVersion (h : Servable versions cloudVersions) {contents : List Content}
    (hmem : ∀ content ∈ contents, ∀ v, versionOf? content = some v → v ∈ versions) :
    IsGreatestVersion (contents.filterMap versionOf?) (contents.foldl takeVersion "") := by
  have hversions : ∀ v ∈ contents.filterMap versionOf?, v ∈ versions := by
    intro v hv
    obtain ⟨content, hcontent, hver⟩ := List.mem_filterMap.1 hv
    exact hmem content hcontent v hver
  rw [foldl_takeVersion]
  exact isGreatestVersion_foldl (fun v hv => h.wellFormed v (hversions v hv))
    fun v hv u hu => h.untied v (hversions v hv) u (hversions u hu)

/-- What `GetParamVersion` finds is a version that was delivered, unless there is none. -/
theorem Servable.getParamVersion (h : Servable versions cloudVersions)
    (hlib : Delivers versions cloudVersions library) {index : Int} :
    (getParamVersion library index "").2 = "" ∨
      (getParamVersion library index "").2 ∈ versions ∧
        WellFormed (getParamVersion library index "").2 := by
  unfold StandbyConfigManager.getParamVersion
  cases hfunc : library.getExtConfigFunc with
  | none => exact .inl rfl
  | some getExtConfigFunc =>
    dsimp only
    split_ifs with hindex
    · exact .inl rfl
    · cases hcontents : getExtConfigFunc index with
      | none => exact .inl rfl
      | some contents =>
        have hmem := hlib.contents _ hfunc index contents hcontents
        refine (h.isGreatestVersion hmem).eq_empty_or.imp id fun ⟨hv, hwf⟩ => ⟨?_, hwf⟩
        obtain ⟨content, hcontent, hver⟩ := List.mem_filterMap.1 hv
        exact hmem content hcontent _ hver

/-- Against a version that may be delivered, the one of the cloud is compared rightly. -/
theorem Servable.cloud_iff (h : Servable versions cloudVersions) (hc : c ≠ "" → c ∈ cloudVersions)
    (hv : v ∈ versions) (hwf : WellFormed v) :
    0 < compareVersion c v ↔ WellFormed c ∧ numbersOf v ≤ numbersOf c := by
  rw [compareVersion_pos_iff c hwf]
  by_cases hcloud : WellFormed c
  · rw [outranks_iff hcloud hwf, and_iff_right hcloud]
    exact and_iff_left_of_imp (h.cloudUntied c (hc hcloud.ne_empty) v hv hcloud hwf)
  · refine iff_of_false (fun hrank => ?_) fun h => hcloud h.1
    by_cases hempty : c = ""
    · subst hempty
      exact absurd hrank.1 (by decide)
    · exact h.cloudMalformed c (hc hempty) v hv hcloud hwf hrank

/-- Without an error the version of the cloud is compared with the greater one. -/
theorem needsCloudVersion_of_nonneg (h : 0 ≤ compareVersion v w) :
    needsCloudVersion c v w = true ↔
      0 < compareVersion c (if 0 < compareVersion v w then v else w) := by
  simp [needsCloudVersion, not_lt.2 h]

/-- The decision about the cloud is right for versions that may be delivered. -/
theorem Servable.needsCloudVersion_iff (h : Servable versions cloudVersions)
    (hc : c ≠ "" → c ∈ cloudVersions) (hv : v = "" ∨ v ∈ versions ∧ WellFormed v)
    (hw : w = "" ∨ w ∈ versions ∧ WellFormed w) :
    needsCloudVersion c v w = true ↔ WellFormed c ∧ (v ≠ "" ∨ w ≠ "") ∧
      ∀ u, u = v ∨ u = w → WellFormed u → numbersOf u ≤ numbersOf c := by
  have hno : ¬ WellFormed "" := by decide
  rcases hv with rfl | ⟨hv, hwfv⟩
  · rcases hw with rfl | ⟨hw, hwfw⟩
    · have hcompare : compareVersion "" "" = -1 := rfl
      refine iff_of_false (by simp [needsCloudVersion, hcompare]) fun h => ?_
      exact h.2.1.elim (absurd rfl) (absurd rfl)
    · have hcompare : compareVersion "" w = 0 := by simp [compareVersion, hwfw.ne_empty]
      rw [needsCloudVersion_of_nonneg (by rw [hcompare]), hcompare, if_neg (by decide),
        h.cloud_iff hc hw hwfw]
      simp [hwfw.ne_empty, hno, hwfw]
  · rcases hw with rfl | ⟨hw, hwfw⟩
    · have hcompare : compareVersion v "" = 1 := compareVersion_empty hwfv.ne_empty
      rw [needsCloudVersion_of_nonneg (by rw [hcompare]; decide), hcompare, if_pos (by decide),
        h.cloud_iff hc hv hwfv]
      simp [hwfv.ne_empty, hno, hwfv]
    · have hrank := (compareVersion_pos_iff v hwfw).trans (outranks_iff hwfv hwfw)
      rw [needsCloudVersion_of_nonneg (compareVersion_nonneg hwfv hwfw)]
      simp only [hwfv.ne_empty, ne_eq, not_false_eq_true, true_or, true_and, forall_eq_or_imp,
        forall_eq, hwfv, hwfw, true_imp_iff]
      split_ifs with hgreater
      · have hle := (hrank.1 hgreater).1
        rw [h.cloud_iff hc hv hwfv]
        exact and_congr_right fun _ => (and_iff_left_of_imp hle.trans).symm
      · have hle : numbersOf v ≤ numbersOf w := by
          refine not_lt.1 fun hlt => hgreater (hrank.2 ⟨hlt.le, ?_⟩)
          exact h.untied v hv w hw hwfv hwfw hlt
        rw [h.cloud_iff hc hw hwfw]
        exact and_congr_right fun _ => (and_iff_right_of_imp hle.trans).symm

end

/-! ## Exactly which versions may be delivered -/

/-- A content with a version. -/
def versionContent (version : String) : Content :=
  some (.object [(TAG_VER, .string version)])

/-- A library that delivers these versions. -/
def delivering (device strategy : List String) (cloud : Option String) : ExtConfig where
  getExtConfigFunc := some fun index =>
    some ((if index = STANDBY_CONFIG_INDEX then device else strategy).map versionContent)
  getSingleExtConfigFunc := some fun _ => some (cloud.bind versionContent)

section
variable {versions cloudVersions : Set String} {device strategy : List String}
  {cloud : Option String}
  {v w c : String}

/-- A document that is nothing but its version is read. -/
theorem getStringFromJsonValue_version :
    JsonUtils.getStringFromJsonValue (.object [(TAG_VER, .string v)]) TAG_VER = some v := rfl

/-- The content of a version is read as the version. -/
theorem versionOf?_versionContent : versionOf? (versionContent v) = some v := rfl

/-- The contents of a list of versions are read as the list. -/
theorem filterMap_versionContent :
    (device.map versionContent).filterMap versionOf? = device := by
  rw [List.filterMap_map]
  have hsome : versionOf? ∘ versionContent = some := funext fun _ => versionOf?_versionContent
  rw [hsome, List.filterMap_some]

/-- The library that delivers the given versions delivers them. -/
theorem delivers_delivering (hdevice : ∀ v ∈ device, v ∈ versions)
    (hstrategy : ∀ v ∈ strategy, v ∈ versions) (hcloud : ∀ c, cloud = some c → c ∈ cloudVersions) :
    Delivers versions cloudVersions (delivering device strategy cloud) where
  contents getExtConfigFunc hfunc index contents hcontents content hcontent v hv := by
    obtain rfl := Option.some.inj hfunc
    obtain rfl := Option.some.inj hcontents
    obtain ⟨v', hv', rfl⟩ := List.mem_map.1 hcontent
    rw [versionOf?_versionContent] at hv
    cases hv
    split_ifs at hv' with hindex
    · exact hdevice v hv'
    · exact hstrategy v hv'
  cloud getSingleExtConfigFunc hfunc index content hcontent v hv := by
    obtain rfl := Option.some.inj hfunc
    obtain rfl := Option.some.inj hcontent
    cases cloud with
    | none => cases hv
    | some c =>
      rw [Option.bind_some, versionContent, Option.bind_some, getStringFromJsonValue_version] at hv
      exact hcloud v (congrArg some (Option.some.inj hv))

/-- What `GetParamVersion` makes of the versions that are delivered. -/
theorem getParamVersion_delivering :
    (getParamVersion (delivering device strategy cloud) STANDBY_CONFIG_INDEX "").2 =
      device.foldl replaceVersion "" := by
  show (device.map versionContent).foldl takeVersion "" = _
  rw [foldl_takeVersion, filterMap_versionContent]

/-- The first version replaces the empty one. -/
theorem replaceVersion_empty : replaceVersion "" v = v := by
  unfold replaceVersion
  split_ifs with hcompare
  · rfl
  · by_contra hne
    rw [compareVersion_empty (Ne.symm hne)] at hcompare
    exact hcompare (by decide)

/-- The greatest of the versions that a library delivers. -/
theorem ReadsVersions.isGreatestVersion
    (h : ReadsVersions (delivering device strategy cloud)) :
    IsGreatestVersion device (device.foldl replaceVersion "") := by
  have hgreatest := h.greatest _ rfl STANDBY_CONFIG_INDEX (.inl rfl) _ rfl
  rwa [getParamVersion_delivering, if_pos rfl, filterMap_versionContent] at hgreatest

/-- The decision about the cloud when there is one version. -/
theorem ReadsVersions.compareVersion_iff (h : ReadsVersions (delivering [v] [] (some c)))
    (hv : WellFormed v) :
    0 < compareVersion c v ↔ WellFormed c ∧ numbersOf v ≤ numbersOf c := by
  have hdevice : (getParamVersion (delivering [v] [] (some c)) STANDBY_CONFIG_INDEX "").2 = v := by
    rw [getParamVersion_delivering, List.foldl_cons, replaceVersion_empty, List.foldl_nil]
  have hstrategy : (getParamVersion (delivering [v] [] (some c)) STRATEGY_CONFIG_INDEX "").2 = "" :=
    rfl
  have hcloud : (getCloudVersion (delivering [v] [] (some c)) CLOUD_CONFIG_INDEX "").2 = c := rfl
  have hneeds : needsToReadCloudConfig (delivering [v] [] (some c)) = true ↔
      0 < compareVersion c v := by
    have hcompare : compareVersion v "" = 1 := compareVersion_empty hv.ne_empty
    unfold needsToReadCloudConfig
    dsimp only
    rw [hdevice, hstrategy, hcloud]
    refine (needsCloudVersion_of_nonneg (by rw [hcompare]; decide)).trans ?_
    rw [hcompare, if_pos (by decide)]
  have hno : ¬ WellFormed "" := by decide
  rw [← hneeds, h.cloud v "" c hdevice rfl hcloud]
  simp [hv.ne_empty, hno, hv]

/-- Lists of one and of two versions show what must hold of them. -/
theorem servable_of_readsVersions
    (h : ∀ library, Delivers versions cloudVersions library → ReadsVersions library) :
    Servable versions cloudVersions := by
  have hnone : ∀ v ∈ ([] : List String), v ∈ versions := by simp
  have hcompare : ∀ c ∈ cloudVersions, ∀ v ∈ versions, WellFormed v →
      (Outranks c v ↔ WellFormed c ∧ numbersOf v ≤ numbersOf c) := by
    intro c hc v hv hwf
    rw [← compareVersion_pos_iff c hwf]
    refine (h _ (delivers_delivering (by simpa using hv) hnone fun c' hc' => ?_)).compareVersion_iff
      hwf
    exact Option.some.inj hc' ▸ hc
  refine ⟨fun v hv hne => ?_, fun v hv w hw hwfv hwfw hlt htied => ?_,
    fun c hc v hv hwfc hwfv hle => ?_, fun c hc v hv hno hwfv hrank => ?_⟩
  · -- one version is all that can be found
    have hgreatest := (h (delivering [v] [] none) (delivers_delivering (by simpa using hv) hnone
      (by simp))).isGreatestVersion
    rw [List.foldl_cons, replaceVersion_empty, List.foldl_nil] at hgreatest
    exact (hgreatest.eq_empty_or.resolve_left hne).2
  · -- the greater version comes second and is not taken
    have hgreatest := (h (delivering [w, v] [] none) (delivers_delivering
      (by simpa using ⟨hw, hv⟩) hnone (by simp))).isGreatestVersion
    have hnot : ¬ 0 < compareVersion v w := by
      rw [compareVersion_pos_iff v hwfw, outranks_iff hwfv hwfw]
      exact fun hrank => hrank.2 htied
    have hzero : compareVersion v w = 0 :=
      le_antisymm (not_lt.1 hnot) (compareVersion_nonneg hwfv hwfw)
    rw [List.foldl_cons, replaceVersion_empty, List.foldl_cons, List.foldl_nil, replaceVersion,
      hzero, if_neg (not_not_intro rfl)] at hgreatest
    rcases hgreatest with ⟨hempty, -⟩ | ⟨-, -, hall⟩
    · exact hwfw.ne_empty hempty
    · exact absurd hlt (not_lt.2 (hall v (by simp) hwfv))
  · exact ((outranks_iff hwfc hwfv).1 ((hcompare c hc v hv hwfv).2 ⟨hwfc, hle⟩)).2
  · exact hno ((hcompare c hc v hv hwfv).1 hrank).1

end

/-- Whatever lists of these versions the library delivers, `GetParamVersion` yields the greatest and
the cloud is read when it should be, if and only if the versions are servable. -/
theorem readsVersions_iff (versions cloudVersions : Set String) :
    (∀ library, Delivers versions cloudVersions library → ReadsVersions library) ↔
      Servable versions cloudVersions := by
  refine ⟨servable_of_readsVersions, fun h library hlib => ⟨?_, ?_⟩⟩
  · intro getExtConfigFunc hfunc index hindex contents hcontents
    have hknown : ¬ (index ≠ STANDBY_CONFIG_INDEX ∧ index ≠ STRATEGY_CONFIG_INDEX) := fun hno =>
      hindex.elim hno.1 hno.2
    simp only [getParamVersion, hfunc, if_neg hknown, hcontents]
    exact h.isGreatestVersion (hlib.contents _ hfunc index contents hcontents)
  · intro device strategy cloud hdevice hstrategy hcloud
    have hmem : cloud ≠ "" → cloud ∈ cloudVersions := by
      intro hne
      rw [← hcloud] at hne ⊢
      revert hne
      unfold getCloudVersion
      cases hfunc : library.getSingleExtConfigFunc with
      | none => exact fun hne => absurd rfl hne
      | some getSingleExtConfigFunc =>
        dsimp only
        rw [if_neg (not_not_intro rfl)]
        cases hcontent : getSingleExtConfigFunc CLOUD_CONFIG_INDEX with
        | none => exact fun hne => absurd rfl hne
        | some content =>
          dsimp only
          cases hver : content.bind (JsonUtils.getStringFromJsonValue · TAG_VER) with
          | none => exact fun hne => absurd rfl hne
          | some c => exact fun _ => hlib.cloud _ hfunc _ content hcontent c hver
    have hneeds : needsToReadCloudConfig library = needsCloudVersion cloud device strategy := by
      rw [← hdevice, ← hstrategy, ← hcloud]
      rfl
    rw [hneeds]
    exact h.needsCloudVersion_iff hmem (hdevice ▸ h.getParamVersion hlib)
      (hstrategy ▸ h.getParamVersion hlib)

/-- Not from every library: a malformed version replaces a well-formed one. -/
theorem not_always_readsVersions : ¬ ∀ library, ReadsVersions library := by
  intro h
  have hgreatest := (h (delivering ["1.2.3.4", "abc"] [] none)).isGreatestVersion
  have hfound : ["1.2.3.4", "abc"].foldl replaceVersion "" = "abc" := by decide
  rw [hfound] at hgreatest
  rcases hgreatest with ⟨hempty, -⟩ | ⟨-, hwf, -⟩
  · revert hempty
    decide
  · revert hwf
    decide

/-! ## What `CompareVersion` promises -/

/-- The answers about a pair of versions are those of the order of their numbers. -/
structure ComparesNumbers (configVerA configVerB : String) : Prop where
  greater : compareVersion configVerA configVerB =
    if numbersOf configVerB ≤ numbersOf configVerA then 1 else 0
  total : compareVersion configVerA configVerB = 1 ∨ compareVersion configVerB configVerA = 1
  equal : compareVersion configVerA configVerB = 1 → compareVersion configVerB configVerA = 1 →
    configVerA = configVerB
  trans : ∀ configVerC, WellFormed configVerC → compareVersion configVerA configVerB = 1 →
    compareVersion configVerB configVerC = 1 → compareVersion configVerA configVerC = 1

section
variable {segA segB segC : List (List Char)} {a b : List Char} {v w u : String}

/-- A turn of the loop finds the first list as great by its segment, or goes on. -/
theorem compareSegments_cons_eq_one_iff (ha : startsWithDigit a = true)
    (hb : startsWithDigit b = true) :
    compareSegments (a :: segA) (b :: segB) = 1 ↔
      strtol b < strtol a ∨ a = b ∧ compareSegments segA segB = 1 := by
  simp only [compareSegments, ha, hb, not_true_eq_false, or_self, if_false]
  by_cases hab : a = b
  · subst hab
    simp
  · have hba : b ≠ a := fun h => hab h.symm
    simp [hab, hba]

/-- Segments are compared transitively: the first of the two first differences decides. -/
theorem compareSegments_trans (hA : ∀ segment ∈ segA, startsWithDigit segment = true)
    (hB : ∀ segment ∈ segB, startsWithDigit segment = true)
    (hC : ∀ segment ∈ segC, startsWithDigit segment = true)
    (hlengthA : segA.length = segB.length) (hlengthB : segB.length = segC.length)
    (hAB : compareSegments segA segB = 1) (hBC : compareSegments segB segC = 1) :
    compareSegments segA segC = 1 := by
  induction segA generalizing segB segC with
  | nil => rfl
  | cons a segA ih =>
    cases segB with
    | nil => cases hlengthA
    | cons b segB =>
      cases segC with
      | nil => cases hlengthB
      | cons c segC =>
        have ha := hA a List.mem_cons_self
        have hb := hB b List.mem_cons_self
        have hc := hC c List.mem_cons_self
        rw [compareSegments_cons_eq_one_iff ha hb] at hAB
        rw [compareSegments_cons_eq_one_iff hb hc] at hBC
        rw [compareSegments_cons_eq_one_iff ha hc]
        rcases hAB with hlt | ⟨rfl, hAB⟩
        · rcases hBC with hlt' | ⟨rfl, -⟩
          · exact .inl (hlt'.trans hlt)
          · exact .inl hlt
        · refine hBC.imp id fun ⟨heq, hBC⟩ => ⟨heq, ?_⟩
          exact ih (fun s hs => hA s (List.mem_cons_of_mem a hs))
            (fun s hs => hB s (List.mem_cons_of_mem a hs))
            (fun s hs => hC s (List.mem_cons_of_mem c hs))
            (Nat.succ.inj hlengthA) (Nat.succ.inj hlengthB) hAB hBC

/-- Between well-formed versions the loop decides. -/
theorem WellFormed.compareVersion (hv : WellFormed v) (hw : WellFormed w) :
    compareVersion v w = compareSegments (segmentsOf v) (segmentsOf w) := by
  simp only [StandbyConfigManager.compareVersion, hv.ne_empty, hw.ne_empty, hv.splitVersion,
    hw.splitVersion, hv.1, hw.1, ne_eq, not_false_eq_true, not_true_eq_false, and_true, and_false,
    if_false]

/-- Well-formed versions are compared transitively. -/
theorem compareVersion_trans (hv : WellFormed v) (hw : WellFormed w) (hu : WellFormed u)
    (hvw : compareVersion v w = 1) (hwu : compareVersion w u = 1) : compareVersion v u = 1 := by
  rw [hv.compareVersion hw] at hvw
  rw [hw.compareVersion hu] at hwu
  rw [hv.compareVersion hu]
  exact compareSegments_trans (fun _ => hv.startsWithDigit) (fun _ => hw.startsWithDigit)
    (fun _ => hu.startsWithDigit) (hv.1.trans hw.1.symm) (hw.1.trans hu.1.symm) hvw hwu

/-- Between well-formed versions the answer is 1 when the order says so and no tie hides it. -/
theorem compareVersion_eq_one_iff (hv : WellFormed v) (hw : WellFormed w) :
    compareVersion v w = 1 ↔ numbersOf w ≤ numbersOf v ∧ ¬ Tied v w := by
  have hle : compareVersion v w ≤ 1 := by
    rw [hv.compareVersion hw]
    exact compareSegments_le _ _
  rw [← outranks_iff hv hw, ← compareVersion_pos_iff v hw]
  omega

/-- Versions are tied with each other. -/
theorem Tied.symm (h : Tied v w) : Tied w v := by
  obtain ⟨a, b, hfirst, heq⟩ := h
  exact ⟨b, a, hfirst.symm, heq.symm⟩

/-- A version is its segments, joined by points. -/
theorem segmentsOf_injective : Function.Injective segmentsOf := by
  intro v w h
  have hjoin := congrArg (List.intercalate [VERSION_DELIM]) h
  rw [segmentsOf, segmentsOf, List.intercalate_splitOn, List.intercalate_splitOn] at hjoin
  exact String.toList_inj.1 hjoin

/-- Untied versions with the same numbers are written alike. -/
theorem eq_of_numbersOf_eq (hv : WellFormed v) (hw : WellFormed w)
    (hnumbers : numbersOf v = numbersOf w) (huntied : ¬ Tied v w) : v = w := by
  rcases eq_or_firstDifference (hv.1.trans hw.1.symm) with heq | ⟨a, b, hfirst⟩
  · exact segmentsOf_injective heq
  · refine absurd ⟨a, b, hfirst, ?_⟩ huntied
    obtain ⟨ha, hb⟩ := hfirst.mem
    have hnumber : digitsToNat a = digitsToNat b := by
      rw [numbersOf, numbersOf] at hnumbers
      refine le_antisymm (not_lt.1 fun hlt => ?_) (not_lt.1 fun hlt => ?_)
      · exact absurd (hfirst.symm.lt hlt) (hnumbers ▸ lt_irrefl _)
      · exact absurd (hfirst.lt hlt) (hnumbers ▸ lt_irrefl _)
    rw [hv.strtol ha, hw.strtol hb, hnumber]

/-- The answer about two well-formed versions is that of the order of their numbers unless they are
tied and the first is as great, and all that `CompareVersion` promises of them holds if and only if
they are not tied. -/
theorem comparesNumbers_iff (hv : WellFormed v) (hw : WellFormed w) :
    (compareVersion v w = (if numbersOf w ≤ numbersOf v then 1 else 0) ↔
      ¬ (Tied v w ∧ numbersOf w ≤ numbersOf v)) ∧
    (ComparesNumbers v w ↔ ¬ Tied v w) := by
  have hvw := compareVersion_eq_one_iff hv hw
  have hwv := compareVersion_eq_one_iff hw hv
  have hzero : compareVersion v w ≠ 1 → compareVersion v w = 0 := by
    have hnonneg := compareVersion_nonneg hv hw
    have hle := compareSegments_le (segmentsOf v) (segmentsOf w)
    rw [← hv.compareVersion hw] at hle
    omega
  have hgreater : compareVersion v w = (if numbersOf w ≤ numbersOf v then 1 else 0) ↔
      ¬ (Tied v w ∧ numbersOf w ≤ numbersOf v) := by
    split_ifs with hle
    · rw [hvw, and_iff_right hle, and_iff_left hle]
    · refine iff_of_true (hzero fun hone => hle (hvw.1 hone).1) fun h => hle h.2
  refine ⟨hgreater, fun h htied => ?_, fun huntied => ⟨hgreater.2 fun h => huntied h.1, ?_, ?_, ?_⟩⟩
  · rcases h.total with hone | hone
    · exact (hvw.1 hone).2 htied
    · exact (hwv.1 hone).2 htied.symm
  · rw [hvw, hwv, and_iff_left huntied, and_iff_left fun htied => huntied htied.symm]
    exact le_total _ _
  · exact fun hone hone' =>
      eq_of_numbersOf_eq hv hw (le_antisymm (hwv.1 hone').1 (hvw.1 hone).1) huntied
  · exact fun u hu => compareVersion_trans hv hw hu

end

/-- A patch is newer than what it patches. -/
theorem comparesNumbers_patch : WellFormed "1.2.3.10" ∧ WellFormed "1.2.3.9" ∧
    ¬ Tied "1.2.3.10" "1.2.3.9" ∧ ComparesNumbers "1.2.3.10" "1.2.3.9" := by
  have hv : WellFormed "1.2.3.10" := by decide
  have hw : WellFormed "1.2.3.9" := by decide
  have hgreater : compareVersion "1.2.3.10" "1.2.3.9" = 1 := by decide
  have huntied : ¬ Tied "1.2.3.10" "1.2.3.9" := ((compareVersion_eq_one_iff hv hw).1 hgreater).2
  exact ⟨hv, hw, huntied, (comparesNumbers_iff hv hw).2.2 huntied⟩

/-- With a leading zero neither of two versions is as great as the other. -/
theorem not_always_comparesNumbers :
    ¬ ∀ v w, WellFormed v → WellFormed w → ComparesNumbers v w := by
  intro h
  have htotal := (h "01.0.0.5" "1.0.0.3" (by decide) (by decide)).total
  revert htotal
  decide

end StandbyConfigManager

end DeviceStandby
