import DeviceStandby.Core.Message
import DeviceStandby.Lib.Calendar

/-!
# The day and the night

`TimeProvider` tells day from night by the local time, and how long it is to the next switch. It
takes the clock of the next switch on the UTC date of now, reads it as local time, and adds a day
when it has passed. Where the local date is a day behind the UTC date this is a day too late:
`switchesAt_iff`.

The time zone has a fixed offset from UTC, in seconds. Of the library's time functions this takes
what they document: a broken-down time is a date of the Gregorian calendar with a time of day, and
is not given when the year does not fit an `int`.
-/

namespace DeviceStandby

/-- `struct tm`. -/
structure Tm where
  tmYear : Int
  tmMon : Int
  tmMday : Int
  tmHour : Int
  tmMin : Int
  tmSec : Int

abbrev NIGHT_ENTRANCE_HOUR : Int := 23
abbrev NIGHT_ENTRANCE_MIN : Int := 45
abbrev DAY_ENTRANCE_HOUR : Int := 6
abbrev DAY_ENTRANCE_MIN : Int := 0
abbrev MSEC_PER_SEC : Int := 1000
abbrev SEC_PER_DAY : Int := 86400
abbrev MSEC_PER_DAY : Int := 86400000

/-- `gmtime_r`. -/
def gmtimeR (timeStamp : Int) : Option Tm :=
  let date := Calendar.ofDays (timeStamp / SEC_PER_DAY)
  let second := timeStamp % SEC_PER_DAY
  if -2 ^ 31 ≤ date.year - 1900 ∧ date.year - 1900 < 2 ^ 31 then
    some ⟨date.year - 1900, date.month - 1, date.day, second / 3600, second % 3600 / 60,
      second % 60⟩
  else none

/-- `localtime_r`. -/
def localtimeR (offset timeStamp : Int) : Option Tm :=
  gmtimeR (timeStamp + offset)

/-- `mktime`, which reads its argument as local time. -/
def mktime (offset : Int) (tm : Tm) : Int :=
  Calendar.toDays ⟨tm.tmYear + 1900, tm.tmMon + 1, tm.tmMday⟩ * SEC_PER_DAY + tm.tmHour * 3600 +
    tm.tmMin * 60 + tm.tmSec - offset

namespace TimeProvider
variable (offset wallTimeMs : Int)

/-- `TimeProvider::GetCondition`. -/
def getCondition (afterNextSeconds : Int) : ConditionType :=
  let curSecTimeStamp := wallTimeMs.tdiv MSEC_PER_SEC + afterNextSeconds
  match localtimeR offset curSecTimeStamp with
  | none => .dayStandby
  | some curLocalTime =>
    if (curLocalTime.tmHour < NIGHT_ENTRANCE_HOUR ∨ curLocalTime.tmMin < NIGHT_ENTRANCE_MIN) ∧
        curLocalTime.tmHour ≥ DAY_ENTRANCE_HOUR then .dayStandby
    else .nightStandby

/-- `TimeProvider::DiffToFixedClock`. -/
def diffToFixedClock (curTimeStamp tmHour tmMin : Int) : Option Int := do
  let curUTCTime ← gmtimeR curTimeStamp
  let targetUTCTime := { curUTCTime with tmHour, tmMin, tmSec := 0 }
  let timeDiff := mktime offset targetUTCTime - curTimeStamp
  let timeDiff := if timeDiff < 0 then timeDiff + SEC_PER_DAY else timeDiff
  return timeDiff * MSEC_PER_SEC

/-- `TimeProvider::TimeDiffToDayNightSwitch`. -/
def timeDiffToDayNightSwitch : Option Int :=
  let curSecTimeStamp := wallTimeMs.tdiv MSEC_PER_SEC
  if getCondition offset wallTimeMs 0 = .nightStandby then
    diffToFixedClock offset curSecTimeStamp DAY_ENTRANCE_HOUR DAY_ENTRANCE_MIN
  else diffToFixedClock offset curSecTimeStamp NIGHT_ENTRANCE_HOUR NIGHT_ENTRANCE_MIN

/-- `TimeProvider::GetCurrentDate`: the day of the month, in UTC. -/
def getCurrentDate (now : Int) : Int :=
  match gmtimeR now with
  | none => 0
  | some tm => tm.tmMday

/-! ## The next switch -/

/-- The difference is right: within a day the condition keeps its value until the switch that it
announces, and has the other one then. -/
def SwitchesAt : Prop :=
  let now := wallTimeMs.tdiv MSEC_PER_SEC
  ∃ timeDiff, timeDiffToDayNightSwitch offset wallTimeMs = some timeDiff ∧
    0 < timeDiff ∧ timeDiff ≤ MSEC_PER_DAY ∧
    (∀ second, now ≤ second → second * MSEC_PER_SEC < now * MSEC_PER_SEC + timeDiff →
      getCondition offset (second * MSEC_PER_SEC) 0 = getCondition offset wallTimeMs 0) ∧
    getCondition offset (now * MSEC_PER_SEC + timeDiff) 0 ≠ getCondition offset wallTimeMs 0

/-- The local date is before the UTC date. -/
def DateBehind : Prop :=
  let now := wallTimeMs.tdiv MSEC_PER_SEC
  (now + offset) / SEC_PER_DAY < now / SEC_PER_DAY

variable {offset wallTimeMs}

/-- The times that an `int64_t` of milliseconds reaches are far from the last year. -/
theorem gmtimeR_eq (timeStamp : Int) (hlo : -2 ^ 55 ≤ timeStamp) (hhi : timeStamp ≤ 2 ^ 55) :
    ∃ year month day, Calendar.ofDays (timeStamp / SEC_PER_DAY) = ⟨year, month, day⟩ ∧
      gmtimeR timeStamp = some ⟨year - 1900, month - 1, day, timeStamp % SEC_PER_DAY / 3600,
        timeStamp % SEC_PER_DAY % 3600 / 60, timeStamp % SEC_PER_DAY % 60⟩ := by
  obtain ⟨date, hdate⟩ : ∃ date, Calendar.ofDays (timeStamp / SEC_PER_DAY) = date := ⟨_, rfl⟩
  refine ⟨date.year, date.month, date.day, hdate, ?_⟩
  have hyear : -2 ^ 31 ≤ date.year - 1900 ∧ date.year - 1900 < 2 ^ 31 := by
    have hb := Calendar.yearOf_bounds (n := timeStamp / SEC_PER_DAY + Calendar.epoch)
    rw [← hdate, Calendar.ofDays]
    unfold Calendar.epoch SEC_PER_DAY at *
    split_ifs <;> dsimp only <;> omega
  rw [gmtimeR, hdate]
  exact if_pos hyear

/-- Day and night by the second of the local day. -/
theorem getCondition_eq (second : Int) (hlo : -2 ^ 54 ≤ second) (hhi : second ≤ 2 ^ 54)
    (hoffset : -86400 ≤ offset ∧ offset ≤ 86400) (hwall : wallTimeMs.tdiv MSEC_PER_SEC = second) :
    getCondition offset wallTimeMs 0 =
      if 21600 ≤ (second + offset) % SEC_PER_DAY ∧ (second + offset) % SEC_PER_DAY < 85500 then
        .dayStandby
      else .nightStandby := by
  obtain ⟨year, month, day, -, hlocal⟩ :=
    gmtimeR_eq (second + offset) (by omega) (by omega)
  unfold getCondition localtimeR
  dsimp only
  rw [hwall, Int.add_zero, hlocal]
  dsimp only [NIGHT_ENTRANCE_HOUR, NIGHT_ENTRANCE_MIN, DAY_ENTRANCE_HOUR, SEC_PER_DAY]
  refine if_congr ?_ rfl rfl
  omega

/-- The clock is taken on the UTC date, as local time, and moved by at most one day. -/
theorem diffToFixedClock_eq {now : Int} (hlo : -2 ^ 54 ≤ now) (hhi : now ≤ 2 ^ 54)
    (tmHour tmMin : Int) :
    diffToFixedClock offset now tmHour tmMin =
      let timeDiff := tmHour * 3600 + tmMin * 60 - offset - now % SEC_PER_DAY
      some ((if timeDiff < 0 then timeDiff + SEC_PER_DAY else timeDiff) * MSEC_PER_SEC) := by
  obtain ⟨year, month, day, hdate, hutc⟩ := gmtimeR_eq now (by omega) (by omega)
  have hdays : Calendar.toDays ⟨year, month, day⟩ = now / SEC_PER_DAY := by
    rw [← hdate, Calendar.toDays_ofDays]
  have htarget : ∀ second,
      mktime offset ⟨year - 1900, month - 1, day, tmHour, tmMin, second⟩ - now =
      tmHour * 3600 + tmMin * 60 + second - offset - now % SEC_PER_DAY := by
    intro second
    unfold mktime
    dsimp only
    rw [Int.sub_add_cancel, Int.sub_add_cancel, hdays, SEC_PER_DAY]
    omega
  simp only [diffToFixedClock, hutc, Option.bind_eq_bind, Option.bind_some, htarget, Int.add_zero]
  rfl

/-- The difference to the clock of the next switch, which is a day more when that clock of the UTC
date has passed. -/
theorem timeDiffToDayNightSwitch_eq (now : Int) (hlo : -2 ^ 54 ≤ now) (hhi : now ≤ 2 ^ 54)
    (hoffset : -86400 ≤ offset ∧ offset ≤ 86400) (hwall : wallTimeMs.tdiv MSEC_PER_SEC = now) :
    ∃ diff, diff = (if 21600 ≤ (now + offset) % SEC_PER_DAY ∧
          (now + offset) % SEC_PER_DAY < 85500 then 85500 else 21600) -
        offset - now % SEC_PER_DAY ∧
      timeDiffToDayNightSwitch offset wallTimeMs =
        some ((if diff < 0 then diff + SEC_PER_DAY else diff) * MSEC_PER_SEC) := by
  unfold timeDiffToDayNightSwitch
  simp only [hwall, getCondition_eq now hlo hhi hoffset hwall, diffToFixedClock_eq hlo hhi]
  by_cases hday : 21600 ≤ (now + offset) % SEC_PER_DAY ∧ (now + offset) % SEC_PER_DAY < 85500
  · simp only [if_pos hday, reduceCtorEq, if_false]
    exact ⟨_, rfl, rfl⟩
  · simp only [if_neg hday, if_true]
    exact ⟨_, rfl, rfl⟩

/-- The seconds of the difference, by the second of the local day. By day they are a day more when
the local date is behind. -/
theorem timeDiffToDayNightSwitch_local (now : Int) (hlo : -2 ^ 54 ≤ now) (hhi : now ≤ 2 ^ 54)
    (hoffset : -43200 ≤ offset ∧ offset ≤ 50400) (hwall : wallTimeMs.tdiv MSEC_PER_SEC = now) :
    ∃ seconds, timeDiffToDayNightSwitch offset wallTimeMs = some (seconds * MSEC_PER_SEC) ∧
      seconds =
        if 21600 ≤ (now + offset) % 86400 ∧ (now + offset) % 86400 < 85500 then
          85500 - (now + offset) % 86400 +
            if (now + offset) / 86400 < now / 86400 then 86400 else 0
        else (21600 - (now + offset) % 86400) % 86400 := by
  obtain ⟨diff, hdiff, heq⟩ := timeDiffToDayNightSwitch_eq now hlo hhi
    (by omega : -86400 ≤ offset ∧ offset ≤ 86400) hwall
  refine ⟨_, heq, ?_⟩
  rw [SEC_PER_DAY] at hdiff ⊢
  by_cases hday : 21600 ≤ (now + offset) % 86400 ∧ (now + offset) % 86400 < 85500
  · rw [if_pos hday] at hdiff ⊢
    split_ifs <;> omega
  · rw [if_neg hday] at hdiff ⊢
    split_ifs <;> omega

/-- The seconds of a time that an `int64_t` of milliseconds holds. -/
theorem tdiv_bounds (hwall : -2 ^ 63 ≤ wallTimeMs ∧ wallTimeMs < 2 ^ 63) :
    -2 ^ 54 + 2 ^ 20 ≤ wallTimeMs.tdiv MSEC_PER_SEC ∧
      wallTimeMs.tdiv MSEC_PER_SEC ≤ 2 ^ 54 - 2 ^ 20 := by
  rw [Int.tdiv_eq_ediv, MSEC_PER_SEC]
  split_ifs
  · omega
  · have hsign : Int.sign 1000 = 1 := rfl
    omega

/-- For every wall clock time and every offset from -12 to 14 hours: the difference is right, unless
it is day and the local date is behind the UTC date. -/
theorem switchesAt_iff (hoffset : -12 * 3600 ≤ offset ∧ offset ≤ 14 * 3600)
    (hwall : -2 ^ 63 ≤ wallTimeMs ∧ wallTimeMs < 2 ^ 63) :
    SwitchesAt offset wallTimeMs ↔
      ¬ (getCondition offset wallTimeMs 0 = .dayStandby ∧ DateBehind offset wallTimeMs) := by
  obtain ⟨hlo, hhi⟩ := tdiv_bounds hwall
  unfold SwitchesAt DateBehind
  obtain ⟨now, hnow⟩ : ∃ now, wallTimeMs.tdiv MSEC_PER_SEC = now := ⟨_, rfl⟩
  rw [hnow] at hlo hhi ⊢
  have hlo' : -2 ^ 54 ≤ now := by omega
  have hhi' : now ≤ 2 ^ 54 := by omega
  have hzone : -43200 ≤ offset ∧ offset ≤ 50400 := by omega
  obtain ⟨seconds, hdiff, hseconds⟩ := timeDiffToDayNightSwitch_local now hlo' hhi' hzone hnow
  have hcur := getCondition_eq now hlo' hhi' (by omega : -86400 ≤ offset ∧ offset ≤ 86400) hnow
  have hlater : ∀ second, now ≤ second → second ≤ now + 86400 →
      getCondition offset (second * MSEC_PER_SEC) 0 =
        if 21600 ≤ (second + offset) % SEC_PER_DAY ∧ (second + offset) % SEC_PER_DAY < 85500 then
          .dayStandby
        else .nightStandby := fun second hle hlt =>
    getCondition_eq second (by omega) (by omega) (by omega) (Int.mul_tdiv_cancel _ (by decide))
  rw [hdiff, hcur]
  dsimp only [SEC_PER_DAY, MSEC_PER_SEC, MSEC_PER_DAY] at *
  by_cases hday : 21600 ≤ (now + offset) % 86400 ∧ (now + offset) % 86400 < 85500
  · rw [if_pos hday] at hseconds ⊢
    by_cases hbehind : (now + offset) / 86400 < now / 86400
    · -- the clock of the UTC date is a day too late
      rw [if_pos hbehind] at hseconds
      refine iff_of_false ?_ fun h => h ⟨rfl, hbehind⟩
      rintro ⟨timeDiff, hsome, -, hle, -⟩
      cases hsome
      omega
    · rw [if_neg hbehind] at hseconds
      refine iff_of_true ⟨_, rfl, by omega, by omega, fun second hle hlt => ?_, ?_⟩
        fun h => hbehind h.2
      · rw [hlater second hle (by omega), if_pos (by omega)]
      · rw [← Int.add_mul, hlater _ (by omega) (by omega), if_neg (by omega)]
        nofun
  · rw [if_neg hday] at hseconds ⊢
    refine iff_of_true ⟨_, rfl, by omega, by omega, fun second hle hlt => ?_, ?_⟩
      fun h => nomatch h.1
    · rw [hlater second hle (by omega), if_neg (by omega)]
    · rw [← Int.add_mul, hlater _ (by omega) (by omega), if_pos (by omega)]
      nofun

/-- At noon in a zone 5 hours behind UTC, and in the evening, when it is the next day in UTC. -/
theorem switchesAt_iff_noon : SwitchesAt (-18000) 61200000 :=
  (switchesAt_iff (by decide) (by decide)).2 fun h => absurd h.2 (by unfold DateBehind; decide)

/-- In the evening of a zone 5 hours behind UTC, when it is the next day there, the night is
announced for the evening after. -/
theorem not_always_switchesAt : ¬ ∀ offsetMin wallTimeMs : Int,
    -12 * 60 ≤ offsetMin → offsetMin ≤ 14 * 60 → -2 ^ 63 ≤ wallTimeMs → wallTimeMs < 2 ^ 63 →
      SwitchesAt (offsetMin * 60) wallTimeMs := by
  intro h
  obtain ⟨timeDiff, hdiff, -, hle, -⟩ := h (-300) 90000000 (by decide) (by decide) (by decide)
    (by decide)
  have hlate : timeDiffToDayNightSwitch (-300 * 60) 90000000 = some 99900000 := by decide
  rw [hlate] at hdiff
  cases hdiff
  exact absurd hle (by decide)

end TimeProvider

end DeviceStandby
