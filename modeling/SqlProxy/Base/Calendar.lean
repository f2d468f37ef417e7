import Mathlib.Data.Int.Basic

/-! The proleptic Gregorian calendar in UTC. -/
namespace Calendar

/-- A point of `struct tm`: months count from zero and years from 1900. -/
structure Tm where
  year : Int
  mon : Int
  mday : Int
  hour : Int
  min : Int
  sec : Int
  deriving DecidableEq

/-- Years begin in March here, so that a leap day is the last day of its year and an era
of 400 years has the same days whenever it begins. -/
structure MarchDate where
  year : Int
  dayOfYear : Int

/-- Day 0 is the first of March of year 0. -/
def marchDate (day : Int) : MarchDate :=
  let era := day / 146097
  let dayOfEra := day % 146097
  let yearOfEra :=
    (dayOfEra - dayOfEra / 1460 + dayOfEra / 36524 - dayOfEra / 146096) / 365
  { year := 400 * era + yearOfEra
    dayOfYear := dayOfEra - (365 * yearOfEra + yearOfEra / 4 - yearOfEra / 100) }

/-- The first of January 1970, counted from the first of March of year 0. -/
def unixEpoch : Int := 719468

/-- `gmtime_r`. -/
def gmtime (seconds : Int) : Tm :=
  let date := marchDate (seconds / 86400 + unixEpoch)
  let month := (5 * date.dayOfYear + 2) / 153
  let time := seconds % 86400
  { year := date.year + (if month < 10 then 0 else 1) - 1900
    mon := if month < 10 then month + 2 else month - 10
    mday := date.dayOfYear - (153 * month + 2) / 5 + 1
    hour := time / 3600
    min := time / 60 % 60
    sec := time % 60 }

example : gmtime 951782400 = { year := 100, mon := 1, mday := 29, hour := 0, min := 0, sec := 0 } := by
  decide

/-- The day of a date: 365 for each year behind it, and one for each leap day. -/
def MarchDate.day (date : MarchDate) : Int :=
  365 * date.year + date.year / 4 - date.year / 100 + date.year / 400 + date.dayOfYear

/-- `timegm`, the other way round. -/
def timegm (t : Tm) : Int :=
  let month := if t.mon < 2 then t.mon + 10 else t.mon - 2
  let date : MarchDate :=
    { year := t.year + 1900 - (if t.mon < 2 then 1 else 0)
      dayOfYear := (153 * month + 2) / 5 + t.mday - 1 }
  86400 * (date.day - unixEpoch) + 3600 * t.hour + 60 * t.min + t.sec

/-- The year of a day in an era of 400 years. -/
def yearOfEra (day : Int) : Int := (day - day / 1460 + day / 36524 - day / 146096) / 365

section Era
variable {day : Int} (h₀ : 0 ≤ day) (h₁ : day < 146097)
include h₀ h₁

theorem yearOfEra_bounds : 0 ≤ yearOfEra day ∧ yearOfEra day < 400 := by
  unfold yearOfEra
  omega

/-- The day tells its century: only the fourth has a day more than 36524. -/
theorem century_yearOfEra : yearOfEra day / 100 = day / 36524 - day / 146096 := by
  have hcentury : day / 36524 = 0 ∨ day / 36524 = 1 ∨ day / 36524 = 2 ∨ day / 36524 = 3 ∨
      day / 36524 = 4 := by
    omega
  have hlast : day / 146096 = 0 ∨ day / 146096 = 1 := by omega
  unfold yearOfEra
  rcases hcentury with hc | hc | hc | hc | hc <;> rcases hlast with hl | hl <;>
    rw [hc, hl] <;> omega

theorem yearOfEra_eq : yearOfEra day = (day - day / 1460 + yearOfEra day / 100) / 365 := by
  rw [century_yearOfEra h₀ h₁]
  unfold yearOfEra
  omega

theorem dayOfYear_bounds :
    0 ≤ day - (365 * yearOfEra day + yearOfEra day / 4 - yearOfEra day / 100) ∧
      day - (365 * yearOfEra day + yearOfEra day / 4 - yearOfEra day / 100) ≤ 365 := by
  have hcentury := century_yearOfEra h₀ h₁
  have hbounds := yearOfEra_bounds h₀ h₁
  have hyear := yearOfEra_eq h₀ h₁
  generalize yearOfEra day = year at *
  omega

/-- The next year of the era begins behind the day. -/
theorem day_lt_next_year :
    day < 365 * (yearOfEra day + 1) + (yearOfEra day + 1) / 4 - (yearOfEra day + 1) / 100 +
      (yearOfEra day + 1) / 400 := by
  have hcentury := century_yearOfEra h₀ h₁
  have hbounds := yearOfEra_bounds h₀ h₁
  have hyear := yearOfEra_eq h₀ h₁
  generalize yearOfEra day = year at *
  by_cases hlast : (year + 1) % 100 = 0
  · -- the last year of a century ends with it
    have hcase : year = 99 ∨ year = 199 ∨ year = 299 ∨ year = 399 := by omega
    rcases hcase with rfl | rfl | rfl | rfl <;> omega
  · have hcycle : day / 1460 ≤ (year + 1) / 4 := by omega
    have hsame : (year + 1) / 100 = year / 100 := by omega
    omega

end Era

theorem marchDate_eq (day : Int) :
    marchDate day =
      { year := 400 * (day / 146097) + yearOfEra (day % 146097)
        dayOfYear := day % 146097 - (365 * yearOfEra (day % 146097) +
          yearOfEra (day % 146097) / 4 - yearOfEra (day % 146097) / 100) } := rfl

theorem marchDate_dayOfYear (day : Int) :
    0 ≤ (marchDate day).dayOfYear ∧ (marchDate day).dayOfYear ≤ 365 :=
  dayOfYear_bounds (Int.emod_nonneg day (by decide)) (Int.emod_lt_of_pos day (by decide))

/-- Every day has one date. -/
theorem day_marchDate (day : Int) : (marchDate day).day = day := by
  have hyear := yearOfEra_bounds (Int.emod_nonneg day (show (146097 : Int) ≠ 0 by decide))
    (Int.emod_lt_of_pos day (by decide))
  simp only [marchDate_eq, MarchDate.day]
  generalize yearOfEra (day % 146097) = year at *
  omega

theorem exists_marchDate (day : Int) :
    ∃ year dayOfYear, marchDate day = ⟨year, dayOfYear⟩ ∧ (0 ≤ dayOfYear ∧ dayOfYear ≤ 365) ∧
      (MarchDate.mk year dayOfYear).day = day :=
  ⟨_, _, rfl, marchDate_dayOfYear day, day_marchDate day⟩

/-- From the epoch on no field is negative. -/
theorem gmtime_bounds {seconds : Int} (h : 0 ≤ seconds) :
    0 ≤ (gmtime seconds).year ∧ 0 ≤ (gmtime seconds).mon ∧ 0 ≤ (gmtime seconds).mday ∧
      0 ≤ (gmtime seconds).hour ∧ 0 ≤ (gmtime seconds).min ∧ 0 ≤ (gmtime seconds).sec := by
  obtain ⟨year, dayOfYear, hd, hday, hdate⟩ :=
    exists_marchDate (seconds / 86400 + unixEpoch)
  simp only [MarchDate.day, unixEpoch] at hdate
  simp only [gmtime, hd]
  have hsmall : 0 ≤ year - 1969 := by omega
  refine ⟨?_, ?_, ?_, ?_, ?_, ?_⟩
  · split <;> omega
  · split <;> omega
  · omega
  · omega
  · omega
  · omega

/-- Months counted from March and from January. -/
theorem month_turned {month : Int} (h₀ : 0 ≤ month) (h₁ : month < 12) :
    (if month < 10 then month + 2 else month - 10) < 2 ↔ ¬ month < 10 := by
  split <;> omega

/-- `timegm` undoes `gmtime_r`. -/
theorem timegm_gmtime (seconds : Int) : timegm (gmtime seconds) = seconds := by
  obtain ⟨year, dayOfYear, hd, hday, hdate⟩ :=
    exists_marchDate (seconds / 86400 + unixEpoch)
  simp only [MarchDate.day] at hdate
  have hmonth := month_turned (show 0 ≤ (5 * dayOfYear + 2) / 153 by omega) (by omega)
  simp only [timegm, gmtime, hd, MarchDate.day, hmonth]
  by_cases hm : (5 * dayOfYear + 2) / 153 < 10
  · simp only [hm, not_true_eq_false, if_true, if_false]
    have hyear : year + 0 - 1900 + 1900 - 0 = year := by omega
    have hday' : (153 * ((5 * dayOfYear + 2) / 153 + 2 - 2) + 2) / 5 +
        (dayOfYear - (153 * ((5 * dayOfYear + 2) / 153) + 2) / 5 + 1) - 1 = dayOfYear := by
      omega
    rw [hyear, hday', hdate]
    omega
  · simp only [hm, not_false_eq_true, if_true, if_false]
    have hyear : year + 1 - 1900 + 1900 - 1 = year := by omega
    have hday' : (153 * ((5 * dayOfYear + 2) / 153 - 10 + 10) + 2) / 5 +
        (dayOfYear - (153 * ((5 * dayOfYear + 2) / 153) + 2) / 5 + 1) - 1 = dayOfYear := by
      omega
    rw [hyear, hday', hdate]
    omega

end Calendar
