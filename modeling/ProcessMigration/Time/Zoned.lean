import ProcessMigration.Time.Instant

/-!
# Times with an offset

A `ZonedTime` is a date and time of day as a clock shows it, together with the clock's distance from
universal time. `ZonedTime.instant?` is the point in time.
-/

namespace ProcessMigration

/-- A local date and time and its offset. The local seconds are counted as if the clock were at
universal time; the nanoseconds go past one second during a leap second. -/
structure ZonedTime where
  localSeconds : Int
  nanos : Nat
  offset : Int
  deriving DecidableEq, Repr

namespace ZonedTime

/-- Puts together a date, a time of the day, a fraction and an offset. The sixtieth second is the
fifty-ninth with nanoseconds past one second. -/
def ofFields (date : Time.Date) (hour minute sec nanos : Nat) (offset : Int) : ZonedTime :=
  let leap := sec = 60
  let sec := if leap then 59 else sec
  ⟨date.dayNumber * Time.dayLength + Time.secondsOfDay hour minute sec,
    if leap then nanos + Time.second else nanos, offset⟩

/-- The point in time, if its year in universal time is in range. -/
def instant? (z : ZonedTime) : Option Instant :=
  let t : Instant := ⟨z.localSeconds - z.offset, z.nanos⟩
  if Time.yearInRange t.date.year then some t else none

/-- The local date. -/
def date (z : ZonedTime) : Time.Date := Time.Date.ofDayNumber (z.localSeconds / Time.dayLength)

/-- The local second of the day. -/
def secondOfDay (z : ZonedTime) : Nat := (z.localSeconds % Time.dayLength).toNat

end ZonedTime

namespace Time

/-- An offset is less than a day. -/
def offsetInRange (offset : Int) : Bool := offset.natAbs < 86400

end Time
end ProcessMigration
