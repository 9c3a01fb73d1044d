import ProcessMigration.Time.Calendar

/-!
# The date of a day number

`Date.ofDayNumber` computes a date by integer division with constants that are not the lengths of the
cycles. The proof goes by the cycles themselves: a day of an era is given by its century, its cycle of
four years in it, its year in that, and the day of that year, which begins in March.

* `Date.yearOfEra_eq`: the year of the era is what the cycles say;
* `Date.monthAndDay`: month and day of a day of the year;
* `Date.dayNumber_ofDayNumber` and `Date.isValid_ofDayNumber`: every day number is that of a date of
  the calendar.
-/

namespace ProcessMigration.Time.Date

/-- A day of an era in cycles of 100, 4 and 1 years. Only a year with a leap day has a day 365. -/
structure InCycles (dayOfEra century fours year dayOfYear : Int) : Prop where
  centuries : 0 ≤ century ∧ century ≤ 3
  cycles : 0 ≤ fours ∧ fours ≤ 24
  years : 0 ≤ year ∧ year ≤ 3
  sum : dayOfEra = 36524 * century + 1461 * fours + 365 * year + dayOfYear
  nonneg : 0 ≤ dayOfYear
  leap : dayOfYear ≤ 364 ∨ (dayOfYear = 365 ∧ year = 3 ∧ (fours ≤ 23 ∨ century = 3))

theorem exists_inCycles {dayOfEra : Int} (h0 : 0 ≤ dayOfEra) (h1 : dayOfEra < 146097) :
    ∃ century fours year dayOfYear, InCycles dayOfEra century fours year dayOfYear := by
  -- the last century is a day longer than the others
  by_cases hlast : 109572 ≤ dayOfEra
  · by_cases hyear : 1095 ≤ (dayOfEra - 109572) % 1461
    · refine ⟨3, (dayOfEra - 109572) / 1461, 3, (dayOfEra - 109572) % 1461 - 1095, ?_⟩
      constructor <;> omega
    · refine ⟨3, (dayOfEra - 109572) / 1461, (dayOfEra - 109572) % 1461 / 365,
        (dayOfEra - 109572) % 1461 % 365, ?_⟩
      constructor <;> omega
  · by_cases hyear : 1095 ≤ dayOfEra % 36524 % 1461
    · refine ⟨dayOfEra / 36524, dayOfEra % 36524 / 1461, 3, dayOfEra % 36524 % 1461 - 1095, ?_⟩
      constructor <;> omega
    · refine ⟨dayOfEra / 36524, dayOfEra % 36524 / 1461, dayOfEra % 36524 % 1461 / 365,
        dayOfEra % 36524 % 1461 % 365, ?_⟩
      constructor <;> omega

variable {dayOfEra century fours year dayOfYear : Int}

theorem yearOfEra_eq (h : InCycles dayOfEra century fours year dayOfYear) :
    (dayOfEra - dayOfEra / 1460 + dayOfEra / 36524 - dayOfEra / 146096) / 365 =
      100 * century + 4 * fours + year := by
  obtain ⟨hc, hf, hy, hsum, hnonneg, hleap⟩ := h
  have h4 : dayOfEra / 1460 = 25 * century + fours ∨
      (dayOfEra / 1460 = 25 * century + fours + 1 ∧
        1460 ≤ 24 * century + fours + 365 * year + dayOfYear) := by
    omega
  have h100 : dayOfEra / 36524 = century ∨
      (dayOfEra / 36524 = 4 ∧ century = 3 ∧ fours = 24 ∧ year = 3 ∧ dayOfYear = 365) := by
    omega
  have h400 : (dayOfEra / 146096 = 0 ∧ dayOfEra < 146096) ∨
      (dayOfEra / 146096 = 1 ∧ century = 3 ∧ fours = 24 ∧ year = 3 ∧ dayOfYear = 365) := by
    omega
  rcases h4 with h4 | ⟨h4, h4'⟩ <;> rcases h100 with h100 | ⟨h100, h100'⟩ <;>
    rcases h400 with ⟨h400, h400'⟩ | ⟨h400, h400'⟩ <;> rw [h4, h100, h400] <;> omega

theorem dayOfEra_eq (h : InCycles dayOfEra century fours year dayOfYear) :
    dayOfEra - (365 * (100 * century + 4 * fours + year) +
      (100 * century + 4 * fours + year) / 4 - (100 * century + 4 * fours + year) / 100) =
      dayOfYear := by
  obtain ⟨hc, hf, hy, hsum, hnonneg, hleap⟩ := h
  have h4 : (100 * century + 4 * fours + year) / 4 = 25 * century + fours := by omega
  have h100 : (100 * century + 4 * fours + year) / 100 = century := by omega
  rw [h4, h100]
  omega

/-- The year after a March whose year has a day 365 is a leap year. -/
theorem isLeapYear_of_day365 (h : InCycles dayOfEra century fours year dayOfYear)
    (hday : dayOfYear = 365) (era : Int) :
    isLeapYear (100 * century + 4 * fours + year + era * 400 + 1) = true := by
  obtain ⟨hc, hf, hy, hsum, hnonneg, hleap⟩ := h
  have hlast : year = 3 ∧ (fours ≤ 23 ∨ century = 3) := by omega
  have h4 : (100 * century + 4 * fours + year + era * 400 + 1) % 4 = 0 := by omega
  have h100 : (100 * century + 4 * fours + year + era * 400 + 1) % 100 ≠ 0 ∨
      (100 * century + 4 * fours + year + era * 400 + 1) % 400 = 0 := by
    omega
  unfold isLeapYear
  rcases h100 with h100 | h100 <;> simp [h4, h100]

/-- Month and day of a day of a year that begins in March. -/
theorem monthAndDay {monthFromMarch : Int} {calendarYear : Int} (h0 : 0 ≤ dayOfYear)
    (h1 : dayOfYear ≤ 365) (hmonth : monthFromMarch = (5 * dayOfYear + 2) / 153)
    (hleap : dayOfYear = 365 → isLeapYear calendarYear = true) {month day : Nat}
    (hm : month = (if monthFromMarch < 10 then monthFromMarch + 3 else monthFromMarch - 9).toNat)
    (hd : day = (dayOfYear - (153 * monthFromMarch + 2) / 5 + 1).toNat) :
    (1 ≤ month ∧ month ≤ 12 ∧ 1 ≤ day ∧ day ≤ monthLength calendarYear month) ∧
      ((month : Int) + 9) % 12 = monthFromMarch ∧
      (day : Int) = dayOfYear - (153 * monthFromMarch + 2) / 5 + 1 := by
  have hmonths : monthFromMarch = 0 ∨ monthFromMarch = 1 ∨ monthFromMarch = 2 ∨
      monthFromMarch = 3 ∨ monthFromMarch = 4 ∨ monthFromMarch = 5 ∨ monthFromMarch = 6 ∨
      monthFromMarch = 7 ∨ monthFromMarch = 8 ∨ monthFromMarch = 9 ∨ monthFromMarch = 10 ∨
      monthFromMarch = 11 := by
    omega
  have hday : (day : Int) = dayOfYear - (153 * monthFromMarch + 2) / 5 + 1 := by omega
  refine ⟨?_, ?_, hday⟩
  · unfold monthLength
    rcases hmonths with h | h | h | h | h | h | h | h | h | h | h | h <;> subst h <;>
      simp at hm <;> subst hm <;> simp
    all_goals try omega
    -- in February the leap day is the day 365
    by_cases h365 : dayOfYear = 365
    · rw [if_pos (hleap h365)]
      omega
    · split <;> omega
  · rcases hmonths with h | h | h | h | h | h | h | h | h | h | h | h <;> subst h <;>
      simp at hm <;> subst hm <;> rfl

/-- The date of a day number in terms of its cycles. -/
theorem ofDayNumber_eq {n : Int}
    (h : InCycles ((n + 719468) % 146097) century fours year dayOfYear) :
    ofDayNumber n =
      let yearOfEra := 100 * century + 4 * fours + year
      let monthFromMarch := (5 * dayOfYear + 2) / 153
      let month := if monthFromMarch < 10 then monthFromMarch + 3 else monthFromMarch - 9
      let marchYear := yearOfEra + (n + 719468) / 146097 * 400
      ⟨if month ≤ 2 then marchYear + 1 else marchYear, month.toNat,
        (dayOfYear - (153 * monthFromMarch + 2) / 5 + 1).toNat⟩ := by
  unfold ofDayNumber
  simp only [yearOfEra_eq h, dayOfEra_eq h]

theorem exists_cycles_of_dayNumber (n : Int) :
    ∃ century fours year dayOfYear,
      InCycles ((n + 719468) % 146097) century fours year dayOfYear :=
  exists_inCycles (by omega) (by omega)

theorem ofDayNumber_spec (n : Int) :
    (1 ≤ (ofDayNumber n).month ∧ (ofDayNumber n).month ≤ 12 ∧ 1 ≤ (ofDayNumber n).day ∧
      (ofDayNumber n).day ≤ monthLength (ofDayNumber n).year (ofDayNumber n).month) ∧
      (ofDayNumber n).dayNumber = n := by
  obtain ⟨century, fours, year, dayOfYear, h⟩ := exists_cycles_of_dayNumber n
  have hdate := ofDayNumber_eq h
  rcases hd : ofDayNumber n with ⟨y, month, day⟩
  rw [hd] at hdate
  simp only [Date.mk.injEq] at hdate
  obtain ⟨hy, hm, hday⟩ := hdate
  have h365 : dayOfYear ≤ 365 := by
    have := h.leap
    omega
  have hleap : dayOfYear = 365 → isLeapYear y = true := by
    intro heq
    have hyear := isLeapYear_of_day365 h heq ((n + 719468) / 146097)
    subst heq
    simp at hy
    rw [hy]
    exact hyear
  obtain ⟨hvalid, hmonth, hday'⟩ := monthAndDay h.nonneg h365 rfl hleap hm hday
  refine ⟨hvalid, ?_⟩
  -- back from the month to the day of the year, and from the year to the era
  have hmarch : (if month ≤ 2 then y - 1 else y) =
      100 * century + 4 * fours + year + (n + 719468) / 146097 * 400 := by
    split at hy <;> split <;> omega
  have hera : (100 * century + 4 * fours + year + (n + 719468) / 146097 * 400) / 400 =
      (n + 719468) / 146097 := by
    have hc := h.centuries
    have hf := h.cycles
    have hy' := h.years
    omega
  have hyearOfEra : (100 * century + 4 * fours + year + (n + 719468) / 146097 * 400) % 400 =
      100 * century + 4 * fours + year := by
    have hc := h.centuries
    have hf := h.cycles
    have hy' := h.years
    omega
  have hsum := dayOfEra_eq h
  unfold dayNumber
  simp only [hmarch, hera, hyearOfEra, hmonth, hday']
  omega

theorem dayNumber_ofDayNumber (n : Int) : (ofDayNumber n).dayNumber = n := (ofDayNumber_spec n).2

theorem isValid_ofDayNumber {n : Int} (h : yearInRange (ofDayNumber n).year = true) :
    (ofDayNumber n).isValid = true := by
  obtain ⟨⟨h1, h2, h3, h4⟩, _⟩ := ofDayNumber_spec n
  simp [isValid, h, h1, h2, h3, h4]

end ProcessMigration.Time.Date
