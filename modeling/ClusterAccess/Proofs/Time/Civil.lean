import ClusterAccess.Time.Civil

/-!
# Days and their dates

The date of a day is in the calendar, and it denotes that day.

A year that begins in March has its days numbered from zero. Eras of 400 years fall into centuries
of 36524 days, these into spans of four years with 1461 days, and these into years; the last year of
an era, and of each span but the last of a century, has a day more.

## Main definitions

* `daysBefore`: the days before a year.
* `Date.inYear`: the date of a day within a year.

## Main statements

* `Date.exists_year`: every day is in a year.
* `Date.toDays_ofDays`, `Date.isValid_ofDays`: the date of a day denotes it, and is valid.
-/
namespace ClusterAccess.Time

/-- The days before 1 March of a year, from the beginning of an era on. -/
def daysBefore (year : Int) : Int := 365 * year + year / 4 - year / 100 + year / 400

/-- The day has a number within a year that begins in March; the last one is a leap day. -/
def IsDayOf (year day : Int) : Prop :=
  0 ≤ day ∧ (day ≤ 364 ∨ day = 365 ∧ isLeapYear (year + 1) = true)

namespace Date

/-- The date of a day within a year that begins in March. -/
def inYear (year day : Int) : Date :=
  let monthFromMarch := (5 * day + 2) / 153
  let dayOfMonth := day - (153 * monthFromMarch + 2) / 5 + 1
  let month := if monthFromMarch < 10 then monthFromMarch + 3 else monthFromMarch - 9
  ⟨year + (if month ≤ 2 then 1 else 0), month.toNat, dayOfMonth.toNat⟩

/-! ## Years -/

/-- A day of an era by its century, span of four years, and year, but for the last day. -/
theorem exists_parts {dayOfEra : Int} (low : 0 ≤ dayOfEra) (high : dayOfEra < 146096) :
    ∃ c q y d : Int, dayOfEra = 36524 * c + 1461 * q + 365 * y + d ∧ (0 ≤ c ∧ c ≤ 3) ∧
      (0 ≤ q ∧ q ≤ 24) ∧ (0 ≤ y ∧ y ≤ 3) ∧ 0 ≤ d ∧ (d ≤ 364 ∨ d = 365 ∧ y = 3 ∧ q ≠ 24) := by
  -- Four years of 365 days leave the last day of a span over.
  by_cases leap : dayOfEra % 36524 % 1461 = 1460
  · exact ⟨dayOfEra / 36524, dayOfEra % 36524 / 1461, 3, 365, by omega⟩
  · exact ⟨dayOfEra / 36524, dayOfEra % 36524 / 1461, dayOfEra % 36524 % 1461 / 365,
      dayOfEra % 36524 % 1461 % 365, by omega⟩

/-- The year that is found for a day of an era. -/
theorem yearOfEra_eq {c q y d : Int} (century : 0 ≤ c ∧ c ≤ 3) (span : 0 ≤ q ∧ q ≤ 24)
    (year : 0 ≤ y ∧ y ≤ 3) (first : 0 ≤ d) (last : d ≤ 364 ∨ d = 365 ∧ y = 3 ∧ q ≠ 24)
    {dayOfEra : Int} (parts : dayOfEra = 36524 * c + 1461 * q + 365 * y + d) :
    (dayOfEra - dayOfEra / 1460 + dayOfEra / 36524 - dayOfEra / 146096) / 365 =
      100 * c + 4 * q + y := by
  have centuries : dayOfEra / 36524 = c := by omega
  have eras : dayOfEra / 146096 = 0 := by omega
  have spans : dayOfEra / 1460 = 25 * c + q + (24 * c + q + 365 * y + d) / 1460 := by omega
  rw [centuries, eras, spans]
  omega

/-- Every day of an era is in one of its years. -/
theorem exists_yearOfEra {dayOfEra : Int} (low : 0 ≤ dayOfEra) (high : dayOfEra < 146097) :
    ∃ year, (dayOfEra - dayOfEra / 1460 + dayOfEra / 36524 - dayOfEra / 146096) / 365 = year ∧
      (0 ≤ year ∧ year < 400) ∧ ∃ day, dayOfEra = 365 * year + year / 4 - year / 100 + day ∧
        0 ≤ day ∧ (day ≤ 364 ∨ day = 365 ∧ (year + 1) % 4 = 0 ∧
          ((year + 1) % 100 ≠ 0 ∨ (year + 1) % 400 = 0)) := by
  -- Four centuries of 36524 days leave the last day of an era over.
  by_cases last : dayOfEra = 146096
  · subst last
    exact ⟨399, by decide, by decide, 365, by decide, by decide, by decide⟩
  · obtain ⟨c, q, y, d, parts, century, span, year, first, leap⟩ :=
      exists_parts low (by omega)
    refine ⟨100 * c + 4 * q + y, yearOfEra_eq century span year first leap parts, by omega,
      d, by omega, first, by omega⟩

/-- The days before a year of an era. -/
theorem daysBefore_era {year : Int} (low : 0 ≤ year) (high : year < 400) (era : Int) :
    daysBefore (year + era * 400) = era * 146097 + (365 * year + year / 4 - year / 100) := by
  have spans : (year + era * 400) / 4 = year / 4 + 100 * era := by omega
  have centuries : (year + era * 400) / 100 = year / 100 + 4 * era := by omega
  have eras : (year + era * 400) / 400 = era := by omega
  rw [daysBefore, spans, centuries, eras]
  omega

/-- Every day is in a year. -/
theorem exists_year (days : Int) : ∃ year day, days = daysBefore year + day - 719468 ∧
    IsDayOf year day ∧ ofDays days = inYear year day := by
  have nonneg : 0 ≤ days + 719468 - (days + 719468) / 146097 * 146097 := by omega
  obtain ⟨year, found, ⟨low, high⟩, day, dayOfEra, first, last⟩ :=
    exists_yearOfEra nonneg (by omega)
  refine ⟨year + (days + 719468) / 146097 * 400, day, ?_, ⟨first, ?_⟩, ?_⟩
  · rw [daysBefore_era low high]
    omega
  · simp only [isLeapYear, Bool.and_eq_true, Bool.or_eq_true, decide_eq_true_eq, bne_iff_ne]
    omega
  · have itself : days + 719468 - (days + 719468) / 146097 * 146097 -
        (365 * year + year / 4 - year / 100) = day := by omega
    simp only [ofDays, found, itself]
    rfl

/-! ## Dates -/

/-- A day is in one of the twelve months from March on, and not before its first day. -/
theorem monthFromMarch_bounds {year day : Int} (within : IsDayOf year day) :
    0 ≤ (5 * day + 2) / 153 ∧ (5 * day + 2) / 153 ≤ 11 ∧
      0 ≤ day - (153 * ((5 * day + 2) / 153) + 2) / 5 := by
  obtain ⟨first, last⟩ := within
  omega

theorem toDays_inYear {year day : Int} (within : IsDayOf year day) :
    (inYear year day).toDays = daysBefore year + day - 719468 := by
  obtain ⟨low, high, first⟩ := monthFromMarch_bounds within
  have days : daysBefore year = daysBefore (year - year / 400 * 400 + year / 400 * 400) := by
    rw [Int.sub_add_cancel]
  rw [days, daysBefore_era (by omega) (by omega)]
  by_cases early : (5 * day + 2) / 153 < 10
  · have month : ¬ ((5 * day + 2) / 153 + 3).toNat ≤ 2 := by omega
    have month' : ¬ (5 * day + 2) / 153 + 3 ≤ 2 := by omega
    simp only [inYear, toDays, if_pos early, if_neg month, if_neg month', Int.add_zero]
    omega
  · have month : ((5 * day + 2) / 153 - 9).toNat ≤ 2 := by omega
    have month' : (5 * day + 2) / 153 - 9 ≤ 2 := by omega
    simp only [inYear, toDays, if_neg early, if_pos month, if_pos month', Int.add_sub_cancel]
    omega

/-- The date of a day denotes the day. -/
theorem toDays_ofDays (days : Int) : (ofDays days).toDays = days := by
  obtain ⟨year, day, itself, within, date⟩ := exists_year days
  rw [date, toDays_inYear within, itself]

/-- No month has a day too many. -/
theorem day_inYear_le {year day : Int} (within : IsDayOf year day) :
    (inYear year day).day ≤ daysInMonth (inYear year day).year (inYear year day).month := by
  obtain ⟨low, high, first⟩ := monthFromMarch_bounds within
  obtain ⟨nonneg, last⟩ := within
  have months : (5 * day + 2) / 153 ∈ ([0, 1, 2, 3, 4, 5, 6, 7, 8, 9, 10, 11] : List Int) := by
    simp only [List.mem_cons, List.not_mem_nil, or_false]
    omega
  simp only [List.mem_cons, List.not_mem_nil, or_false] at months
  by_cases leap : isLeapYear (year + 1) = true <;>
    rcases months with m | m | m | m | m | m | m | m | m | m | m | m <;>
    simp [inYear, m, daysInMonth, leap] at last ⊢ <;> omega

/-- The first date is in January and the last one in December, late and early in their years. -/
theorem year_bounds {year day : Int} (within : IsDayOf year day)
    (first : firstDay ≤ daysBefore year + day - 719468)
    (last : daysBefore year + day - 719468 ≤ lastDay) :
    (firstYear ≤ year ∨ year = firstYear - 1 ∧ 306 ≤ day) ∧
      (year < lastYear ∨ year = lastYear ∧ day ≤ 305) := by
  obtain ⟨nonneg, leap⟩ := within
  have least : firstDay = -96465292 := by decide
  have greatest : lastDay = 95026236 := by decide
  rw [least, daysBefore] at first
  rw [greatest, daysBefore] at last
  simp only [firstYear, lastYear]
  constructor
  · obtain early | rfl | late := Int.lt_trichotomy year (-262144) <;> omega
  · obtain early | rfl | late := Int.lt_trichotomy year 262142 <;> omega

/-- A date is valid that is not before the first day and not after the last one. -/
theorem isValid_inYear {year day : Int} (within : IsDayOf year day)
    (first : firstDay ≤ daysBefore year + day - 719468)
    (last : daysBefore year + day - 719468 ≤ lastDay) : (inYear year day).isValid = true := by
  have short := day_inYear_le within
  obtain ⟨low, high, fromFirst⟩ := monthFromMarch_bounds within
  have bounds := year_bounds within first last
  simp only [isValid, short, Bool.and_eq_true, decide_eq_true_eq, and_true]
  simp only [firstYear, lastYear] at bounds ⊢
  by_cases early : (5 * day + 2) / 153 < 10
  · have month : ¬ (5 * day + 2) / 153 + 3 ≤ 2 := by omega
    simp only [inYear, if_pos early, if_neg month]
    omega
  · have month : (5 * day + 2) / 153 - 9 ≤ 2 := by omega
    simp only [inYear, if_neg early, if_pos month]
    omega

/-- The date of a day is valid if dates go as far. -/
theorem isValid_ofDays {days : Int} (first : firstDay ≤ days) (last : days ≤ lastDay) :
    (ofDays days).isValid = true := by
  obtain ⟨year, day, itself, within, date⟩ := exists_year days
  rw [itself] at first last
  rw [date, isValid_inYear within first last]

theorem daysInMonth_le (year : Int) (month : Nat) : daysInMonth year month ≤ 31 := by
  unfold daysInMonth
  split
  · split <;> decide
  all_goals decide

theorem two_digits_of_isValid {d : Date} (valid : d.isValid = true) :
    d.month < 100 ∧ d.day < 100 := by
  have short := daysInMonth_le d.year d.month
  simp only [isValid, Bool.and_eq_true, decide_eq_true_eq] at valid
  omega

end Date
end ClusterAccess.Time
