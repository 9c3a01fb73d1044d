import ProcessMigration.Time.Calendar
import ProcessMigration.Text.Digits

/-!
# Points in time

An `Instant` is a number of seconds of universal time and a number of nanoseconds. During a leap
second the nanoseconds go on past one second, so it sorts after the last nanosecond of its minute
and before the next minute.

* `Instant.lt` is the order of time, `before` the order with a missing time first;
* `Instant.text` writes the fewest of 0, 3, 6 and 9 fraction digits, `Instant.microText` always six.
-/

namespace ProcessMigration

/-- A point in time: seconds since 1970-01-01T00:00:00Z, and nanoseconds after them. -/
structure Instant where
  seconds : Int
  nanos : Nat
  deriving DecidableEq, Repr

namespace Time

/-- A year: four digits, and a sign in front of it where four digits are not enough. -/
def yearChars (year : Int) : List Char :=
  if 0 ≤ year ∧ year ≤ 9999 then Text.zeroPadded 4 year.toNat
  else (if year < 0 then '-' else '+') :: Text.zeroPadded 4 year.natAbs

/-- A date as `YYYY-MM-DD`. -/
def dateChars (d : Date) : List Char :=
  yearChars d.year ++ '-' :: Text.zeroPadded 2 d.month ++ '-' :: Text.zeroPadded 2 d.day

/-- A time of the day as `HH:MM:SS`; a leap second is the sixtieth. -/
def clockChars (secondOfDay nanos : Nat) : List Char :=
  Text.zeroPadded 2 (secondOfDay / 3600) ++ ':' :: Text.zeroPadded 2 (secondOfDay / 60 % 60)
    ++ ':' :: Text.zeroPadded 2 (secondOfDay % 60 + nanos / second)

/-- The fraction of a second with the fewest of 0, 3, 6 and 9 digits. -/
def fractionChars (nanos : Nat) : List Char :=
  let n := nanos % second
  if n = 0 then []
  else if n % 1000000 = 0 then '.' :: Text.zeroPadded 3 (n / 1000000)
  else if n % 1000 = 0 then '.' :: Text.zeroPadded 6 (n / 1000)
  else '.' :: Text.zeroPadded 9 n

end Time

namespace Instant

/-- The order of time. -/
def lt (a b : Instant) : Bool :=
  a.seconds < b.seconds || (a.seconds == b.seconds && a.nanos < b.nanos)

/-- The order of time where a time may be missing: a missing one comes first. -/
def before : Option Instant → Option Instant → Bool
  | none, some _ => true
  | some a, some b => a.lt b
  | _, none => false

/-- The date in universal time. -/
def date (t : Instant) : Time.Date := Time.Date.ofDayNumber (t.seconds / Time.dayLength)

/-- The second of the day in universal time. -/
def secondOfDay (t : Instant) : Nat := (t.seconds % Time.dayLength).toNat

/-- Date, time and a given fraction. -/
def textWith (t : Instant) (fraction : List Char) : String :=
  String.ofList (Time.dateChars t.date ++ 'T' :: Time.clockChars t.secondOfDay t.nanos
    ++ fraction ++ ['Z'])

/-- The text of a point in time. -/
def text (t : Instant) : String := t.textWith (Time.fractionChars t.nanos)

/-- The text of a point in time, cut to microseconds. -/
def microText (t : Instant) : String :=
  t.textWith ('.' :: Text.zeroPadded 6 (t.nanos % Time.second / 1000))

end Instant
end ProcessMigration
