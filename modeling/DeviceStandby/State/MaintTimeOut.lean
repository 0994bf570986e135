import DeviceStandby.Core.TimeProvider
import DeviceStandby.State.States

/-!
# The timeout of a maintenance window

`CalculateMaintTimeOut` takes the interval that is next and, when it ends at night, adds the time
from now to the next switch, so that the window opens by day. By night the next switch is the
morning and the window opens an interval after it; by day it is the evening, and the window opens an
interval after that. Both are by day exactly for the intervals of `PassesNight`.
-/

namespace DeviceStandby

open TimeProvider

/-- How long a day lasts, from 6:00 to 23:45, in milliseconds. -/
abbrev dayLength : Int := 63900000

/-- How long a night lasts. -/
abbrev nightLength : Int := 22500000

/-- The clock answers for the platform, in a zone with a fixed offset. -/
structure Platform.OnClock (offset : Int) (p : Platform) : Prop where
  conditionAfter : p.conditionAfter = getCondition offset p.wallTimeMs
  timeDiff : p.timeDiffToDayNightSwitch =
    TimeProvider.timeDiffToDayNightSwitch offset p.wallTimeMs

/-- The index of the interval that is next. -/
def nextIndex (maintInterval : List Int) (index : Nat) (isFirstInterval : Bool) : Nat :=
  if isFirstInterval then index else min (index + 1) (maintInterval.length - 1)

/-- The interval that is next, in seconds. -/
def nextInterval (maintInterval : List Int) (index : Nat) (isFirstInterval : Bool) : Int :=
  maintInterval.getD (nextIndex maintInterval index isFirstInterval) 0

/-- The stored index after a sequence of calls. -/
def indexAfter (maintInterval : List Int) (index : Nat) (calls : List (Platform × Bool)) : Nat :=
  calls.foldl (fun index call => (calculateMaintTimeOut call.1 maintInterval index call.2).2) index

/-- What a call should do: the timeout is an interval, or more when the interval ends at night, and
then it ends by day; the index moves on to the last entry, through whatever calls follow. -/
structure MaintTimeOutRight (offset : Int) (p : Platform) (maintInterval : List Int) (index : Nat)
    (isFirstInterval : Bool) : Prop where
  notShorter : nextInterval maintInterval index isFirstInterval * msecPerSec ≤
    (calculateMaintTimeOut p maintInterval index isFirstInterval).1
  pastNight : getCondition offset (p.wallTimeMs +
      nextInterval maintInterval index isFirstInterval * msecPerSec) 0 = .nightStandby →
    getCondition offset (p.wallTimeMs +
      (calculateMaintTimeOut p maintInterval index isFirstInterval).1) 0 = .dayStandby
  byDay : getCondition offset (p.wallTimeMs +
      nextInterval maintInterval index isFirstInterval * msecPerSec) 0 = .dayStandby →
    (calculateMaintTimeOut p maintInterval index isFirstInterval).1 =
      nextInterval maintInterval index isFirstInterval * msecPerSec
  index_le : ∀ calls, index ≤ indexAfter maintInterval index calls ∧
    indexAfter maintInterval index calls ≤ maintInterval.length - 1
  reachesLast : ∀ calls : List (Platform × Bool),
    maintInterval.length - 1 ≤ index + calls.countP (fun call => !call.2) →
      indexAfter maintInterval index calls = maintInterval.length - 1

/-- A window that opens an interval and a delay after the next switch opens by day. An offset of
more than 23:45 hours puts the local date so far ahead that the morning is taken a day too early. -/
def PassesNight (offset wallTimeMs interval randomDelay : Int) : Prop :=
  let shift := wallTimeMs % MSEC_PER_SEC + interval * msecPerSec + randomDelay
  if getCondition offset wallTimeMs 0 = .nightStandby then
    shift % MSEC_PER_DAY < dayLength ∧
      wallTimeMs % MSEC_PER_DAY + offset * msecPerSec < MSEC_PER_DAY + 85500000
  else nightLength ≤ shift % MSEC_PER_DAY

/-! ## The index -/

section
variable {offset interval index : Int} {p : Platform} {maintInterval : List Int} {i : Nat}
  {isFirstInterval : Bool} {calls : List (Platform × Bool)}

/-- A call moves the index. -/
theorem calculateMaintTimeOut_snd (h : i < maintInterval.length) :
    (calculateMaintTimeOut p maintInterval i isFirstInterval).2 =
      nextIndex maintInterval i isFirstInterval := by
  have hlength : maintInterval.length ≠ 0 := by omega
  rw [calculateMaintTimeOut, if_neg hlength, nextIndex]
  dsimp only
  split <;> rfl

/-- Every call but those for the first interval moves the index by one, up to the last entry. -/
theorem indexAfter_eq (h : i < maintInterval.length) :
    indexAfter maintInterval i calls =
      min (i + calls.countP fun call => !call.2) (maintInterval.length - 1) := by
  induction calls generalizing i with
  | nil =>
    show i = min (i + 0) (maintInterval.length - 1)
    omega
  | cons call calls ih =>
    have hstep : indexAfter maintInterval i (call :: calls) =
        indexAfter maintInterval (nextIndex maintInterval i call.2) calls := by
      rw [indexAfter, List.foldl_cons, calculateMaintTimeOut_snd h]
      rfl
    obtain ⟨p, isFirstInterval⟩ := call
    rw [hstep]
    cases isFirstInterval with
    | true =>
      rw [nextIndex, if_pos rfl, ih h]
      simp
    | false =>
      rw [nextIndex, if_neg Bool.false_ne_true, ih (by omega)]
      simp only [Bool.not_false, List.countP_cons_of_pos]
      omega

/-! ## The timeout -/

/-- Day and night by the millisecond of the local day. -/
theorem getCondition_eq_day_iff {ms : Int} (hoffset : 0 ≤ offset ∧ offset ≤ SEC_PER_DAY)
    (hms : 0 ≤ ms ∧ ms ≤ 2 ^ 63 + 2 ^ 43) :
    getCondition offset ms 0 = .dayStandby ↔
      21600000 ≤ (ms + offset * msecPerSec) % MSEC_PER_DAY ∧
        (ms + offset * msecPerSec) % MSEC_PER_DAY < 85500000 := by
  have hsecond : ms.tdiv MSEC_PER_SEC = ms / MSEC_PER_SEC := Int.tdiv_eq_ediv_of_nonneg hms.1
  dsimp only [SEC_PER_DAY, MSEC_PER_SEC, MSEC_PER_DAY, msecPerSec] at *
  rw [getCondition_eq (ms / 1000) (by omega) (by omega) (by omega) hsecond]
  dsimp only [SEC_PER_DAY]
  have hlocal : (ms / 1000 + offset) % 86400 = (ms + offset * 1000) % 86400000 / 1000 := by omega
  rw [hlocal]
  split_ifs with h
  · exact iff_of_true rfl (by omega)
  · exact iff_of_false (by decide) (by omega)

theorem getCondition_eq_night_iff {ms : Int} :
    getCondition offset ms 0 = .nightStandby ↔ ¬ getCondition offset ms 0 = .dayStandby := by
  cases getCondition offset ms 0 <;> decide

/-- The condition after some seconds is the one of a later clock. -/
theorem getCondition_after {wallTimeMs seconds : Int} (hwall : 0 ≤ wallTimeMs)
    (hseconds : 0 ≤ seconds) :
    getCondition offset wallTimeMs seconds =
      getCondition offset (wallTimeMs + seconds * msecPerSec) 0 := by
  have hsum : wallTimeMs.tdiv 1000 + seconds = (wallTimeMs + seconds * 1000).tdiv 1000 := by
    rw [Int.tdiv_eq_ediv_of_nonneg hwall, Int.tdiv_eq_ediv_of_nonneg (by omega)]
    omega
  unfold getCondition
  dsimp only
  rw [hsum, Int.add_zero]

/-- The switch that comes next is at 6:00 by night and at 23:45 by day. By night it may be the one
before. -/
theorem timeDiffToDayNightSwitch_spec {wallTimeMs now : Int}
    (hoffset : 0 ≤ offset ∧ offset ≤ SEC_PER_DAY) (hnow : 0 ≤ now ∧ now ≤ 2 ^ 54)
    (hsecond : wallTimeMs.tdiv MSEC_PER_SEC = now) :
    ∃ seconds, timeDiffToDayNightSwitch offset wallTimeMs = some (seconds * MSEC_PER_SEC) ∧
      if getCondition offset wallTimeMs 0 = .nightStandby then
        (now + offset + seconds) % SEC_PER_DAY = 21600 ∧ seconds ≤ SEC_PER_DAY ∧
          (0 ≤ seconds ∨ seconds ≤ -63900) ∧
          (0 ≤ seconds ↔ now % SEC_PER_DAY + offset < 171900)
      else
        (now + offset + seconds) % SEC_PER_DAY = 85500 ∧ 0 ≤ seconds ∧ seconds ≤ SEC_PER_DAY := by
  have hzone : -86400 ≤ offset ∧ offset ≤ 86400 := by
    rw [SEC_PER_DAY] at hoffset
    omega
  obtain ⟨diff, hdiff, heq⟩ :=
    timeDiffToDayNightSwitch_eq now (by omega) (by omega) hzone hsecond
  refine ⟨_, heq, ?_⟩
  rw [getCondition_eq now (by omega) (by omega) hzone hsecond]
  rw [SEC_PER_DAY] at *
  by_cases hday : 21600 ≤ (now + offset) % 86400 ∧ (now + offset) % 86400 < 85500
  · simp only [if_pos hday, reduceCtorEq, if_false] at hdiff ⊢
    split_ifs <;> omega
  · simp only [if_neg hday, if_true] at hdiff ⊢
    split_ifs <;> omega

/-- The next interval is one of the list. -/
theorem nextInterval_mem (isFirstInterval : Bool) (h : i < maintInterval.length) :
    nextInterval maintInterval i isFirstInterval ∈ maintInterval := by
  have hindex : nextIndex maintInterval i isFirstInterval < maintInterval.length := by
    unfold nextIndex
    split_ifs <;> omega
  rw [nextInterval, List.getD_eq_getElem?_getD, List.getElem?_eq_getElem hindex, Option.getD_some]
  exact List.getElem_mem hindex

/-- What a call returns: the interval, and beyond it when it ends at night. -/
theorem calculateMaintTimeOut_fst (isFirstInterval : Bool) (hp : p.OnClock offset)
    (hwall : 0 ≤ p.wallTimeMs)
    (h : i < maintInterval.length) (hpos : 0 < nextInterval maintInterval i isFirstInterval)
    {timeDiff : Int} (hdiff : timeDiffToDayNightSwitch offset p.wallTimeMs = some timeDiff) :
    (calculateMaintTimeOut p maintInterval i isFirstInterval).1 =
      nextInterval maintInterval i isFirstInterval * msecPerSec +
        if getCondition offset (p.wallTimeMs +
            nextInterval maintInterval i isFirstInterval * msecPerSec) 0 = .nightStandby then
          timeDiff + p.randomDelay
        else 0 := by
  have hlength : maintInterval.length ≠ 0 := by omega
  rw [← getCondition_after hwall (by omega), calculateMaintTimeOut, if_neg hlength]
  dsimp only
  rw [hp.conditionAfter, hp.timeDiff, hdiff, show maintInterval.getD
    (if isFirstInterval then i else min (i + 1) (maintInterval.length - 1)) 0 =
      nextInterval maintInterval i isFirstInterval from rfl]
  cases getCondition offset p.wallTimeMs (nextInterval maintInterval i isFirstInterval) with
  | dayStandby => exact (Int.add_zero _).symm
  | nightStandby => rfl

end

/-- For every wall clock time, offset up to a day ahead of UTC, list of intervals, stored index and
delay up to half an hour: the call does what it should exactly when the interval ends by day or the
window that opens an interval and the delay after the next switch does. -/
theorem maintTimeOutRight_iff {offset : Int} {p : Platform} (hp : p.OnClock offset)
    (hoffset : 0 ≤ offset ∧ offset ≤ SEC_PER_DAY)
    (hwall : 0 ≤ p.wallTimeMs ∧ p.wallTimeMs < 2 ^ 63)
    (hdelay : 0 ≤ p.randomDelay ∧ p.randomDelay ≤ 1800000) {maintInterval : List Int} {index : Nat}
    (hindex : index < maintInterval.length)
    (hpos : ∀ interval ∈ maintInterval, 0 < interval ∧ interval < 2 ^ 31)
    (isFirstInterval : Bool) :
    MaintTimeOutRight offset p maintInterval index isFirstInterval ↔
      getCondition offset (p.wallTimeMs +
          nextInterval maintInterval index isFirstInterval * msecPerSec) 0 = .dayStandby ∨
        PassesNight offset p.wallTimeMs (nextInterval maintInterval index isFirstInterval)
          p.randomDelay := by
  obtain ⟨hinterval, hbound⟩ := hpos _ (nextInterval_mem isFirstInterval hindex)
  have hsecond : p.wallTimeMs.tdiv MSEC_PER_SEC = p.wallTimeMs / 1000 :=
    Int.tdiv_eq_ediv_of_nonneg hwall.1
  obtain ⟨seconds, hdiff, hseconds⟩ :=
    timeDiffToDayNightSwitch_spec hoffset (by omega : 0 ≤ p.wallTimeMs / 1000 ∧ _) hsecond
  have htimeOut := calculateMaintTimeOut_fst isFirstInterval hp hwall.1 hindex hinterval hdiff
  have hle : ∀ calls, index ≤ indexAfter maintInterval index calls ∧
      indexAfter maintInterval index calls ≤ maintInterval.length - 1 := by
    intro calls
    rw [indexAfter_eq hindex]
    omega
  have hlast : ∀ calls : List (Platform × Bool),
      maintInterval.length - 1 ≤ index + calls.countP (fun call => !call.2) →
        indexAfter maintInterval index calls = maintInterval.length - 1 := by
    intro calls hcalls
    rw [indexAfter_eq hindex]
    omega
  generalize hfst : (calculateMaintTimeOut p maintInterval index isFirstInterval).1 = timeOut at *
  generalize hnext : nextInterval maintInterval index isFirstInterval = interval at *
  by_cases hday : getCondition offset (p.wallTimeMs + interval * msecPerSec) 0 = .dayStandby
  · rw [if_neg (by rw [hday]; decide), Int.add_zero] at htimeOut
    refine iff_of_true ?_ (.inl hday)
    constructor
    · rw [hfst, hnext, htimeOut]
    · rw [hnext, hday]
      intro h
      cases h
    · intro _
      rw [hfst, hnext, htimeOut]
    · exact hle
    · exact hlast
  · rw [if_pos (getCondition_eq_night_iff.2 hday)] at htimeOut
    have hright : MaintTimeOutRight offset p maintInterval index isFirstInterval ↔
        interval * msecPerSec ≤ timeOut ∧
          getCondition offset (p.wallTimeMs + timeOut) 0 = .dayStandby := by
      constructor
      · intro h
        have hshort := h.notShorter
        have hpast := h.pastNight
        rw [hfst, hnext] at hshort hpast
        exact ⟨hshort, hpast (getCondition_eq_night_iff.2 hday)⟩
      · rintro ⟨hshort, hpast⟩
        constructor
        · rwa [hfst, hnext]
        · intro _
          rwa [hfst]
        · intro h
          rw [hnext] at h
          exact absurd h hday
        · exact hle
        · exact hlast
    rw [hright, or_iff_right hday, PassesNight]
    dsimp only [SEC_PER_DAY, MSEC_PER_SEC, MSEC_PER_DAY, msecPerSec, dayLength, nightLength] at *
    by_cases hcur : getCondition offset p.wallTimeMs 0 = .nightStandby
    · rw [if_pos hcur] at hseconds ⊢
      by_cases hahead : 0 ≤ seconds
      · rw [getCondition_eq_day_iff hoffset (by omega)]
        dsimp only [MSEC_PER_DAY, msecPerSec]
        omega
      · omega
    · rw [if_neg hcur] at hseconds ⊢
      rw [getCondition_eq_day_iff hoffset (by omega)]
      dsimp only [MSEC_PER_DAY, msecPerSec]
      omega

/-- A platform that only tells the time. -/
def clockPlatform (offset wallTimeMs randomDelay : Int) : Platform where
  wallTimeMs := wallTimeMs
  isCharging := false
  isScreenOn := false
  startTimer := fun _ => true
  startRepeatedTimer := true
  startHalfHourTimer := true
  subscribeSensor := fun _ _ => true
  activateSensor := fun _ _ => true
  usableSensors := fun _ => []
  conditionAfter := getCondition offset wallTimeMs
  timeDiffToDayNightSwitch := TimeProvider.timeDiffToDayNightSwitch offset wallTimeMs
  randomDelay := randomDelay
  napTimeOut := 0

theorem clockPlatform_onClock (offset wallTimeMs randomDelay : Int) :
    (clockPlatform offset wallTimeMs randomDelay).OnClock offset := ⟨rfl, rfl⟩

/-- At midnight in UTC, an interval of an hour is put off to 7:10. -/
theorem maintTimeOutRight_midnight :
    MaintTimeOutRight 0 (clockPlatform 0 0 600000) [1800, 3600] 0 false :=
  (maintTimeOutRight_iff (clockPlatform_onClock 0 0 600000) (by decide) (by decide) (by decide)
    (by decide) (by decide) false).2 (.inr (by unfold PassesNight; decide))

/-- At 23:00 the time to the evening is added to an interval of an hour, and the window opens at
0:45. -/
theorem not_always_maintTimeOutRight : ¬ ∀ (offset : Int) (p : Platform), p.OnClock offset →
    0 ≤ offset ∧ offset ≤ SEC_PER_DAY → 0 ≤ p.wallTimeMs ∧ p.wallTimeMs < 2 ^ 63 →
    0 ≤ p.randomDelay ∧ p.randomDelay ≤ 1800000 → ∀ (maintInterval : List Int) (index : Nat),
      index < maintInterval.length →
      (∀ interval ∈ maintInterval, 0 < interval ∧ interval < 2 ^ 31) → ∀ isFirstInterval,
        MaintTimeOutRight offset p maintInterval index isFirstInterval := by
  intro h
  have hright := h 0 (clockPlatform 0 82800000 0) (clockPlatform_onClock 0 82800000 0) (by decide)
    (by decide) (by decide) [3600] 0 (by decide) (by decide) true
  exact absurd (hright.pastNight (by decide)) (by decide)

end DeviceStandby
