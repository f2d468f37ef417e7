import SqlProxy.Base.Calendar
import Mathlib.Logic.Function.Iterate
import Mathlib.Tactic.SplitIfs

/-! The calendar as people count it: years, months and days, and the day after a day. The
closed form counts the same days. -/
namespace Calendar

/-- Months and days count from one. -/
structure Date where
  year : Int
  month : Int
  day : Int
  deriving DecidableEq

def IsLeap (year : Int) : Prop := year % 4 = 0 ∧ (year % 100 ≠ 0 ∨ year % 400 = 0)

instance (year : Int) : Decidable (IsLeap year) := inferInstanceAs (Decidable (_ ∧ _))

def monthLength (year month : Int) : Int :=
  if month = 2 then if IsLeap year then 29 else 28
  else if month = 4 ∨ month = 6 ∨ month = 9 ∨ month = 11 then 30 else 31

/-- The day after. -/
def Date.next (date : Date) : Date :=
  if date.day < monthLength date.year date.month then { date with day := date.day + 1 }
  else if date.month < 12 then ⟨date.year, date.month + 1, 1⟩
  else ⟨date.year + 1, 1, 1⟩

section Next
variable {year month day : Int}

theorem next_within_month (h : day < monthLength year month) :
    Date.next ⟨year, month, day⟩ = ⟨year, month, day + 1⟩ := by
  rw [Date.next, if_pos h]

theorem next_month (h : ¬ day < monthLength year month) (hm : month < 12) :
    Date.next ⟨year, month, day⟩ = ⟨year, month + 1, 1⟩ := by
  rw [Date.next, if_neg h, if_pos hm]

theorem next_year (h : ¬ day < monthLength year month) (hm : ¬ month < 12) :
    Date.next ⟨year, month, day⟩ = ⟨year + 1, 1, 1⟩ := by
  rw [Date.next, if_neg h, if_neg hm]

end Next

def epochDate : Date := ⟨1970, 1, 1⟩

/-- The date in a year that begins in January. -/
def MarchDate.civil (date : MarchDate) : Date :=
  let month := (5 * date.dayOfYear + 2) / 153
  { year := date.year + (if month < 10 then 0 else 1)
    month := if month < 10 then month + 3 else month - 9
    day := date.dayOfYear - (153 * month + 2) / 5 + 1 }

/-- The date of a day, counted from the epoch. -/
def civil (day : Int) : Date := (marchDate (day + unixEpoch)).civil

/-- `gmtime_r` splits off the time and dates the day. -/
theorem gmtime_eq (seconds : Int) :
    gmtime seconds =
      { year := (civil (seconds / 86400)).year - 1900
        mon := (civil (seconds / 86400)).month - 1
        mday := (civil (seconds / 86400)).day
        hour := seconds % 86400 / 3600
        min := seconds % 86400 / 60 % 60
        sec := seconds % 86400 % 60 } := by
  simp only [gmtime, civil, MarchDate.civil, Tm.mk.injEq, and_true, true_and]
  split <;> omega

/-! Years from March to February. Their length is decided by the February they end with. -/

def marchLength (year : Int) : Int := if IsLeap (year + 1) then 366 else 365

/-- The first day of a year. -/
def marchStart (year : Int) : Int := 365 * year + year / 4 - year / 100 + year / 400

theorem marchStart_succ (year : Int) : marchStart (year + 1) = marchStart year + marchLength year := by
  unfold marchStart marchLength
  split_ifs with h <;> unfold IsLeap at h <;> omega

theorem marchStart_mono {year year' : Int} (h : year < year') :
    marchStart (year + 1) ≤ marchStart year' := by
  unfold marchStart
  omega

theorem MarchDate.day_eq (date : MarchDate) : date.day = marchStart date.year + date.dayOfYear := rfl

structure MarchDate.Valid (date : MarchDate) : Prop where
  nonneg : 0 ≤ date.dayOfYear
  lt : date.dayOfYear < marchLength date.year

/-- An era has 146097 days. -/
theorem marchStart_era (era year : Int) :
    marchStart (400 * era + year) = 146097 * era + marchStart year := by
  unfold marchStart
  omega

theorem valid_marchDate (day : Int) : (marchDate day).Valid := by
  refine ⟨(marchDate_dayOfYear day).1, ?_⟩
  have hday := day_marchDate day
  have hsucc := marchStart_succ (marchDate day).year
  have hnext := day_lt_next_year (Int.emod_nonneg day (show (146097 : Int) ≠ 0 by decide))
    (Int.emod_lt_of_pos day (by decide))
  have hera : marchStart ((marchDate day).year + 1) =
      146097 * (day / 146097) + marchStart (yearOfEra (day % 146097) + 1) := by
    rw [marchDate_eq, ← marchStart_era, Int.add_assoc]
  have hinner : marchStart (yearOfEra (day % 146097) + 1) =
      365 * (yearOfEra (day % 146097) + 1) + (yearOfEra (day % 146097) + 1) / 4 -
        (yearOfEra (day % 146097) + 1) / 100 + (yearOfEra (day % 146097) + 1) / 400 := rfl
  rw [MarchDate.day_eq] at hday
  omega

/-- A day has one date. -/
theorem MarchDate.Valid.unique {date date' : MarchDate} (h : date.Valid) (h' : date'.Valid)
    (hday : date.day = date'.day) : date = date' := by
  obtain ⟨h₀, h₁⟩ := h
  obtain ⟨h₀', h₁'⟩ := h'
  rw [day_eq, day_eq] at hday
  have hsucc := marchStart_succ date.year
  have hsucc' := marchStart_succ date'.year
  have hyear : date.year = date'.year := by
    rcases Int.lt_trichotomy date.year date'.year with hlt | heq | hlt
    · have := marchStart_mono hlt
      omega
    · exact heq
    · have := marchStart_mono hlt
      omega
  obtain ⟨year, dayOfYear⟩ := date
  obtain ⟨year', dayOfYear'⟩ := date'
  cases hyear
  have hday' : dayOfYear = dayOfYear' := by
    simp only at hday
    omega
  rw [hday']

def MarchDate.next (date : MarchDate) : MarchDate :=
  if date.dayOfYear + 1 < marchLength date.year then { date with dayOfYear := date.dayOfYear + 1 }
  else ⟨date.year + 1, 0⟩

theorem marchLength_pos (year : Int) : 0 < marchLength year := by
  unfold marchLength
  split_ifs <;> omega

theorem MarchDate.Valid.next {date : MarchDate} (h : date.Valid) :
    date.next.Valid ∧ date.next.day = date.day + 1 := by
  obtain ⟨h₀, h₁⟩ := h
  unfold MarchDate.next
  split_ifs with hlt
  · refine ⟨⟨?_, hlt⟩, ?_⟩
    · change 0 ≤ date.dayOfYear + 1
      omega
    · rw [day_eq, day_eq]
      change marchStart date.year + (date.dayOfYear + 1) = _
      omega
  · refine ⟨⟨Int.le_refl 0, marchLength_pos _⟩, ?_⟩
    rw [day_eq, day_eq]
    change marchStart (date.year + 1) + 0 = _
    rw [marchStart_succ]
    omega

theorem marchDate_succ (day : Int) : marchDate (day + 1) = (marchDate day).next := by
  obtain ⟨hvalid, hday⟩ := (valid_marchDate day).next
  apply (valid_marchDate (day + 1)).unique hvalid
  rw [day_marchDate, hday, day_marchDate]

/-! Months. From March to January they are 31, 30, 31, 30, 31 days long, over and over. -/

/-- The length of the `month`-th month from March, where the year does not decide it. -/
theorem monthLength_march {year month : Int} (h₀ : 0 ≤ month) (h₁ : month < 11) :
    monthLength year (if month < 10 then month + 3 else month - 9) =
      (153 * (month + 1) + 2) / 5 - (153 * month + 2) / 5 := by
  have hcases : month = 0 ∨ month = 1 ∨ month = 2 ∨ month = 3 ∨ month = 4 ∨ month = 5 ∨
      month = 6 ∨ month = 7 ∨ month = 8 ∨ month = 9 ∨ month = 10 := by
    omega
  rcases hcases with rfl | rfl | rfl | rfl | rfl | rfl | rfl | rfl | rfl | rfl | rfl <;> rfl

/-- February has what is left of the year. -/
theorem monthLength_february (year : Int) : monthLength (year + 1) 2 = marchLength year - 337 := by
  unfold monthLength marchLength
  split_ifs <;> omega

theorem civil_of_month {year dayOfYear month : Int} (h : (5 * dayOfYear + 2) / 153 = month) :
    MarchDate.civil ⟨year, dayOfYear⟩ =
      { year := year + (if month < 10 then 0 else 1)
        month := if month < 10 then month + 3 else month - 9
        day := dayOfYear - (153 * month + 2) / 5 + 1 } := by
  rw [← h]
  rfl

section Turn
variable {year dayOfYear month : Int}

theorem civil_next_within (h : (5 * dayOfYear + 2) / 153 = month)
    (h' : (5 * (dayOfYear + 1) + 2) / 153 = month)
    (hlen : dayOfYear + 1 < (153 * month + 2) / 5 +
      monthLength (year + (if month < 10 then 0 else 1)) (if month < 10 then month + 3 else month - 9)) :
    MarchDate.civil ⟨year, dayOfYear + 1⟩ = (MarchDate.civil ⟨year, dayOfYear⟩).next := by
  rw [civil_of_month h, civil_of_month h', next_within_month (by omega), Date.mk.injEq]
  omega

/-- The last day of a month other than February. -/
theorem civil_next_last (h₀ : 0 ≤ month) (h₁ : month < 11)
    (h : dayOfYear + 1 = (153 * (month + 1) + 2) / 5) :
    MarchDate.civil ⟨year, dayOfYear + 1⟩ = (MarchDate.civil ⟨year, dayOfYear⟩).next := by
  have hmonth : (5 * dayOfYear + 2) / 153 = month := by omega
  have hnext : (5 * (dayOfYear + 1) + 2) / 153 = month + 1 := by omega
  have hlen : monthLength (year + (if month < 10 then 0 else 1))
      (if month < 10 then month + 3 else month - 9) =
        (153 * (month + 1) + 2) / 5 - (153 * month + 2) / 5 := monthLength_march h₀ h₁
  rw [civil_of_month hmonth, civil_of_month hnext]
  by_cases hdecember : month = 9
  · subst hdecember
    rw [next_year (by omega) (by decide), Date.mk.injEq]
    omega
  · rw [next_month (by omega) (by split_ifs <;> omega), Date.mk.injEq]
    split_ifs <;> omega

/-- The day after, in both ways of counting. -/
theorem MarchDate.Valid.civil_next {date : MarchDate} (h : date.Valid) :
    date.next.civil = date.civil.next := by
  obtain ⟨h₀, h₁⟩ := h
  obtain ⟨year, dayOfYear⟩ := date
  simp only at h₀ h₁
  have hlength : 365 ≤ marchLength year ∧ marchLength year ≤ 366 := by
    unfold marchLength
    split_ifs <;> omega
  obtain ⟨month, hmonth⟩ : ∃ month, (5 * dayOfYear + 2) / 153 = month := ⟨_, rfl⟩
  by_cases hfebruary : month = 11
  · subst hfebruary
    have hlen := monthLength_february year
    unfold MarchDate.next
    split_ifs with hlast
    · simp only at hlast
      apply civil_next_within hmonth (by omega)
      change dayOfYear + 1 < 337 + monthLength (year + 1) 2
      omega
    · simp only at hlast
      rw [civil_of_month hmonth]
      change _ = Date.next ⟨year + 1, 2, dayOfYear - 337 + 1⟩
      have hmarch : (5 * (0 : Int) + 2) / 153 = 0 := by decide
      rw [next_month (by omega) (by decide), civil_of_month hmarch]
      simp
  · have hnext : MarchDate.next ⟨year, dayOfYear⟩ = ⟨year, dayOfYear + 1⟩ := by
      rw [MarchDate.next, if_pos]
      change dayOfYear + 1 < marchLength year
      omega
    rw [hnext]
    by_cases hlast : dayOfYear + 1 = (153 * (month + 1) + 2) / 5
    · exact civil_next_last (by omega) (by omega) hlast
    · apply civil_next_within hmonth (by omega)
      rw [monthLength_march (by omega) (by omega)]
      omega

end Turn

theorem civil_succ (day : Int) : civil (day + 1) = (civil day).next := by
  have hcomm : day + 1 + unixEpoch = day + unixEpoch + 1 := by omega
  rw [civil, civil, hcomm, marchDate_succ, (valid_marchDate _).civil_next]

/-- Day `n` is dated by counting `n` days on from the epoch. -/
theorem civil_iterate (n : Nat) : civil n = Date.next^[n] epochDate := by
  induction n with
  | zero => rfl
  | succ n ih =>
    rw [Function.iterate_succ_apply', ← ih, ← civil_succ]
    rfl

/-! The order of dates. -/

def Date.Before (date date' : Date) : Prop :=
  date.year < date'.year ∨ date.year = date'.year ∧
    (date.month < date'.month ∨ date.month = date'.month ∧ date.day < date'.day)

theorem Date.before_next (date : Date) : date.Before date.next := by
  unfold Before next
  split_ifs <;> dsimp only <;> omega

theorem Date.Before.trans {a b c : Date} (h : a.Before b) (h' : b.Before c) : a.Before c := by
  unfold Before at *
  omega

theorem civil_before {day day' : Int} (h : day < day') : (civil day).Before (civil day') := by
  obtain ⟨n, rfl⟩ := Int.le.dest (show day + 1 ≤ day' by omega)
  induction n with
  | zero =>
    rw [Int.natCast_zero, Int.add_zero, civil_succ]
    exact (civil day).before_next
  | succ n ih =>
    have hstep : day + 1 + ((n + 1 : Nat) : Int) = day + 1 + (n : Int) + 1 := by omega
    rw [hstep, civil_succ]
    exact (ih (by omega)).trans (Date.before_next _)

theorem civil_bounds (day : Int) :
    (1 ≤ (civil day).month ∧ (civil day).month ≤ 12) ∧ 1 ≤ (civil day).day ∧ (civil day).day ≤ 31 := by
  obtain ⟨h₀, h₁⟩ := marchDate_dayOfYear (day + unixEpoch)
  simp only [civil, MarchDate.civil]
  generalize (marchDate (day + unixEpoch)).dayOfYear = dayOfYear at *
  split_ifs <;> omega

/-- The epoch's year is the first, and 9999 the last, before day 2932897. -/
theorem civil_year {day : Int} (h₀ : 0 ≤ day) (h₁ : day < 2932897) :
    1970 ≤ (civil day).year ∧ (civil day).year ≤ 9999 := by
  have hlast := civil_before h₁
  have hend : civil 2932897 = ⟨10000, 1, 1⟩ := by decide
  have hepoch : civil 0 = epochDate := by decide
  have hbounds := civil_bounds day
  rw [hend] at hlast
  unfold Date.Before at hlast
  rcases Int.lt_or_eq_of_le h₀ with hlt | rfl
  · have hfirst := civil_before hlt
    rw [hepoch] at hfirst
    unfold Date.Before epochDate at hfirst
    simp only at hfirst hlast
    omega
  · rw [hepoch]
    decide

/-! Instants: a day, and the time on it. -/

structure Instant where
  days : Nat
  hour : Fin 24
  minute : Fin 60
  second : Fin 60
  milli : Fin 1000

namespace Instant

/-- The date that is reached by counting the days. -/
def date (instant : Instant) : Date := Date.next^[instant.days] epochDate

def epochMs (instant : Instant) : Int :=
  (((instant.days * 24 + instant.hour.val) * 60 + instant.minute.val) * 60 + instant.second.val) * 1000 +
    instant.milli.val

/-- Year, month, day and time, the long units first. -/
def fields (instant : Instant) : List Int :=
  [instant.date.year, instant.date.month, instant.date.day, instant.hour.val, instant.minute.val,
    instant.second.val, instant.milli.val]

def ofEpochMs (epochMs : Int) : Instant where
  days := (epochMs / 86400000).toNat
  hour := ⟨(epochMs % 86400000 / 3600000).toNat, by omega⟩
  minute := ⟨(epochMs / 60000 % 60).toNat, by omega⟩
  second := ⟨(epochMs / 1000 % 60).toNat, by omega⟩
  milli := ⟨(epochMs % 1000).toNat, by omega⟩

theorem epochMs_ofEpochMs {ms : Int} (h : 0 ≤ ms) : (ofEpochMs ms).epochMs = ms := by
  -- each unit in terms of the next smaller one
  have hday : ms / 86400000 = ms / 3600000 / 24 := by omega
  have hhour : ms % 86400000 / 3600000 = ms / 3600000 % 24 := by omega
  have hminute : ms / 3600000 = ms / 60000 / 60 := by omega
  have hsecond : ms / 60000 = ms / 1000 / 60 := by omega
  simp only [epochMs, ofEpochMs]
  rw [hday, hhour, hminute, hsecond]
  omega

theorem date_ofEpochMs {ms : Int} (h : 0 ≤ ms) : (ofEpochMs ms).date = civil (ms / 86400000) := by
  have hdays : ((ofEpochMs ms).days : Int) = ms / 86400000 := Int.toNat_of_nonneg (by omega)
  rw [date, ← civil_iterate, hdays]

/-- The fields tell instants apart, and tell which is first. -/
theorem fields_lt_iff (i j : Instant) : i.fields < j.fields ↔ i.epochMs < j.epochMs := by
  have hlt : ∀ m n : Nat, m < n → (Date.next^[m] epochDate).Before (Date.next^[n] epochDate) := by
    intro m n hmn
    rw [← civil_iterate, ← civil_iterate]
    exact civil_before (by omega)
  obtain ⟨days, hour, minute, second, milli⟩ := i
  obtain ⟨days', hour', minute', second', milli'⟩ := j
  simp only [fields, epochMs, date, List.cons_lt_cons_iff, List.lt_irrefl, and_false, or_false]
  rcases Nat.lt_trichotomy days days' with h | rfl | h
  · have hbefore := hlt _ _ h
    unfold Date.Before at hbefore
    omega
  · omega
  · have hbefore := hlt _ _ h
    unfold Date.Before at hbefore
    omega

theorem epochMs_eq_of_fields {i j : Instant} (h : i.fields = j.fields) : i.epochMs = j.epochMs := by
  have hi : ¬ i.epochMs < j.epochMs := by
    rw [← fields_lt_iff, h]
    exact List.lt_irrefl _
  have hj : ¬ j.epochMs < i.epochMs := by
    rw [← fields_lt_iff, h]
    exact List.lt_irrefl _
  omega

end Instant
end Calendar
