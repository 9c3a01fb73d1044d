/-!
# The civil calendar

Dates of the proleptic Gregorian calendar and their **day numbers**, counted from 1970-01-01.

* `Date.dayNumber` and `Date.ofDayNumber` go back and forth;
* weekdays, the day of the year and the week of the year are read off them.
-/

namespace ProcessMigration.Time

/-- A date of the calendar. Months and days count from one. -/
structure Date where
  year : Int
  month : Nat
  day : Nat
  deriving DecidableEq, Repr

/-- A year with 366 days. -/
def isLeapYear (year : Int) : Bool :=
  year % 4 == 0 && (year % 100 != 0 || year % 400 == 0)

/-- The number of days of a month. -/
def monthLength (year : Int) (month : Nat) : Nat :=
  if month = 2 then if isLeapYear year then 29 else 28
  else if month = 4 ∨ month = 6 ∨ month = 9 ∨ month = 11 then 30
  else 31

/-- The years a date may lie in. -/
def yearInRange (year : Int) : Bool := -262143 ≤ year && year ≤ 262142

namespace Date

/-- The calendar has this date, and its year is in range. -/
def isValid (d : Date) : Bool :=
  yearInRange d.year && 1 ≤ d.month && d.month ≤ 12 && 1 ≤ d.day && d.day ≤ monthLength d.year d.month

/-- Days from 1970-01-01. Years are counted from March, so that the leap day comes last. -/
def dayNumber (d : Date) : Int :=
  let y : Int := if d.month ≤ 2 then d.year - 1 else d.year
  let era := y / 400
  let yearOfEra := y % 400
  let monthFromMarch : Int := (d.month + 9) % 12
  let dayOfYear := (153 * monthFromMarch + 2) / 5 + d.day - 1
  let dayOfEra := yearOfEra * 365 + yearOfEra / 4 - yearOfEra / 100 + dayOfYear
  era * 146097 + dayOfEra - 719468

/-- The date of a day number. -/
def ofDayNumber (n : Int) : Date :=
  let z := n + 719468
  let era := z / 146097
  let dayOfEra := z % 146097
  let yearOfEra := (dayOfEra - dayOfEra / 1460 + dayOfEra / 36524 - dayOfEra / 146096) / 365
  let dayOfYear := dayOfEra - (365 * yearOfEra + yearOfEra / 4 - yearOfEra / 100)
  let monthFromMarch := (5 * dayOfYear + 2) / 153
  let day := dayOfYear - (153 * monthFromMarch + 2) / 5 + 1
  let month := if monthFromMarch < 10 then monthFromMarch + 3 else monthFromMarch - 9
  let year := yearOfEra + era * 400
  ⟨if month ≤ 2 then year + 1 else year, month.toNat, day.toNat⟩

/-- Days since the last Monday. -/
def fromMonday (d : Date) : Nat := ((d.dayNumber + 3) % 7).toNat

/-- Days since the last Sunday. -/
def fromSunday (d : Date) : Nat := ((d.dayNumber + 4) % 7).toNat

/-- The day of the year, from one. -/
def dayOfYear (d : Date) : Nat := (d.dayNumber - (Date.mk d.year 1 1).dayNumber + 1).toNat

/-- The number of full weeks of the year up to this day, weeks beginning on the day that
`sinceStart` counts from. -/
def weekOfYear (d : Date) (sinceStart : Nat) : Nat := (d.dayOfYear + 6 - sinceStart) / 7

/-- The year and the number of the week that holds the date, a week belonging to the year of its
Thursday. -/
def isoWeek (d : Date) : Int × Nat :=
  let thursday := ofDayNumber (d.dayNumber - d.fromMonday + 3)
  (thursday.year, (thursday.dayOfYear - 1) / 7 + 1)

end Date

/-! ## Times of the day -/

/-- Seconds of a day. -/
def secondsOfDay (hour minute second : Nat) : Nat := hour * 3600 + minute * 60 + second

/-- The length of a day in seconds. -/
def dayLength : Int := 86400

/-- Nanoseconds of a second. -/
def second : Nat := 1000000000

end ProcessMigration.Time
