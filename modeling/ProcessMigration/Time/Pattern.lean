import ProcessMigration.Time.Zoned

/-!
# Date patterns

A pattern is a text in which a percent sign and a letter stand for a field of a time. Reading it
gives a list of items, or nothing when a field is unknown or cut off; writing a time through the
items gives its text.

* A **numeric field** has a padding of its own, which `-`, `_` or `0` between the percent sign and
  the letter replaces; no other field takes one.
* One item can be read and not written: the offset in its permissive form, which only makes sense
  for reading times. `Pattern.write?` has no answer for a pattern that holds it.
-/

namespace ProcessMigration.Time

/-- How a number is filled up on the left. -/
inductive Padding where
  | none
  | zeros
  | blanks
  deriving DecidableEq, Repr

/-- Fields that are numbers. -/
inductive NumericField where
  | year | century | yearOfCentury | weekYear | weekYearOfCentury
  | quarter | month | day | dayOfYear
  | weekFromSunday | weekFromMonday | isoWeek | daysFromSunday | weekday
  | hour | hour12 | minute | second | nanosecond | timestamp
  deriving DecidableEq, Repr

/-- Fields that are names, fractions and offsets. -/
inductive TextField where
  | monthShort | monthLong | weekdayShort | weekdayLong
  | halfDayUpper | halfDayLower
  | fraction
  | fixedFraction (point : Bool) (digits : Nat)
  | offset | offsetColon | offsetSeconds | offsetHours | offsetPermissive
  deriving DecidableEq, Repr

/-- A part of a pattern. -/
inductive PatternItem where
  | literal (c : Char)
  | number (field : NumericField) (padding : Padding)
  | field (field : TextField)
  deriving DecidableEq, Repr

namespace Pattern

/-! ## Reading -/

/-- The letters of single numbers, with their own padding. -/
def numeric? : Char → Option (NumericField × Padding)
  | 'Y' => some (.year, .zeros)
  | 'C' => some (.century, .zeros)
  | 'y' => some (.yearOfCentury, .zeros)
  | 'G' => some (.weekYear, .zeros)
  | 'g' => some (.weekYearOfCentury, .zeros)
  | 'q' => some (.quarter, .none)
  | 'm' => some (.month, .zeros)
  | 'd' => some (.day, .zeros)
  | 'e' => some (.day, .blanks)
  | 'j' => some (.dayOfYear, .zeros)
  | 'U' => some (.weekFromSunday, .zeros)
  | 'W' => some (.weekFromMonday, .zeros)
  | 'V' => some (.isoWeek, .zeros)
  | 'w' => some (.daysFromSunday, .none)
  | 'u' => some (.weekday, .none)
  | 'H' => some (.hour, .zeros)
  | 'k' => some (.hour, .blanks)
  | 'I' => some (.hour12, .zeros)
  | 'l' => some (.hour12, .blanks)
  | 'M' => some (.minute, .zeros)
  | 'S' => some (.second, .zeros)
  | 'f' => some (.nanosecond, .zeros)
  | 's' => some (.timestamp, .none)
  | _ => none

/-- Year, month and day. -/
def isoDate : List PatternItem :=
  [.number .year .zeros, .literal '-', .number .month .zeros, .literal '-', .number .day .zeros]

/-- Hour and minute. -/
def hourMinute : List PatternItem :=
  [.number .hour .zeros, .literal ':', .number .minute .zeros]

/-- Hour, minute and second. -/
def clock : List PatternItem := hourMinute ++ [.literal ':', .number .second .zeros]

/-- Month, day and year of the century. -/
def slashDate : List PatternItem :=
  [.number .month .zeros, .literal '/', .number .day .zeros, .literal '/',
    .number .yearOfCentury .zeros]

/-- The letters of names and of combined fields. -/
def named? : Char → Option (List PatternItem)
  | 'b' => some [.field .monthShort]
  | 'h' => some [.field .monthShort]
  | 'B' => some [.field .monthLong]
  | 'a' => some [.field .weekdayShort]
  | 'A' => some [.field .weekdayLong]
  | 'p' => some [.field .halfDayUpper]
  | 'P' => some [.field .halfDayLower]
  | 'z' => some [.field .offset]
  | 'Z' => some [.field .offsetColon]
  | 'D' => some slashDate
  | 'x' => some slashDate
  | 'F' => some isoDate
  | 'v' => some [.number .day .blanks, .literal '-', .field .monthShort, .literal '-',
      .number .year .zeros]
  | 'R' => some hourMinute
  | 'T' => some clock
  | 'X' => some clock
  | 'r' => some [.number .hour12 .zeros, .literal ':', .number .minute .zeros, .literal ':',
      .number .second .zeros, .literal ' ', .field .halfDayUpper]
  | 'c' => some ([.field .weekdayShort, .literal ' ', .field .monthShort, .literal ' ',
      .number .day .blanks, .literal ' '] ++ clock ++ [.literal ' ', .number .year .zeros])
  | '+' => some (isoDate ++ .literal 'T' :: clock ++ [.field .fraction, .field .offsetColon])
  | 't' => some [.literal '\t']
  | 'n' => some [.literal '\n']
  | '%' => some [.literal '%']
  | _ => none

/-- The digit counts of fixed fractions. -/
def fixedDigits? : Char → Option Nat
  | '3' => some 3
  | '6' => some 6
  | '9' => some 9
  | _ => none

/-- The padding that a character asks for. -/
def padding? : Char → Option Padding
  | '-' => some .none
  | '_' => some .blanks
  | '0' => some .zeros
  | _ => none

/-- The field after a percent sign. -/
def specifier? : List Char → Option (List PatternItem × List Char)
  | '#' :: 'z' :: rest => some ([.field .offsetPermissive], rest)
  | '.' :: 'f' :: rest => some ([.field .fraction], rest)
  | '.' :: c :: 'f' :: rest => (fixedDigits? c).map fun n => ([.field (.fixedFraction true n)], rest)
  | ':' :: 'z' :: rest => some ([.field .offsetColon], rest)
  | ':' :: ':' :: 'z' :: rest => some ([.field .offsetSeconds], rest)
  | ':' :: ':' :: ':' :: 'z' :: rest => some ([.field .offsetHours], rest)
  | c :: rest =>
    match padding? c, fixedDigits? c with
    | some p, _ =>
      match rest with
      | d :: rest => (numeric? d).map fun (f, _) => ([.number f p], rest)
      | [] => none
    | none, some n =>
      match rest with
      | 'f' :: rest => some ([.field (.fixedFraction false n)], rest)
      | _ => none
    | none, none =>
      match numeric? c with
      | some (f, p) => some ([.number f p], rest)
      | none => (named? c).map fun items => (items, rest)
  | [] => none

/-- The items of a pattern of at most `fuel` characters. -/
def itemsWithin? : Nat → List Char → Option (List PatternItem)
  | _, [] => some []
  | 0, _ :: _ => none
  | fuel + 1, '%' :: rest => do
    let (items, rest) ← specifier? rest
    return items ++ (← itemsWithin? fuel rest)
  | fuel + 1, c :: rest => (itemsWithin? fuel rest).map (.literal c :: ·)

/-- The items of a pattern, unless a field in it is unknown or cut off. -/
def items? (pattern : String) : Option (List PatternItem) :=
  let cs := pattern.toList
  itemsWithin? cs.length cs

/-! ## Writing -/

/-- A number with a padding, its sign included in the width. -/
def paddedNumber (p : Padding) (width : Nat) (n : Int) (alwaysSign : Bool) : List Char :=
  let sign := if n < 0 then ['-'] else if alwaysSign then ['+'] else []
  let width := if alwaysSign then width + 1 else width
  match p with
  | .none => sign ++ Nat.toDigits 10 n.natAbs
  | .zeros => sign ++ Text.zeroPadded (width - sign.length) n.natAbs
  | .blanks =>
    let text := sign ++ Nat.toDigits 10 n.natAbs
    List.replicate (width - text.length) ' ' ++ text

/-- A natural number with a padding. -/
def paddedNat (p : Padding) (width n : Nat) : List Char := paddedNumber p width n false

/-- A year: a sign is written where four digits are not enough. -/
def paddedYear (p : Padding) (year : Int) : List Char :=
  paddedNumber p 4 year (!(0 ≤ year && year ≤ 9999))

/-- The hour on a clock of twelve. -/
def hour12 (hour : Nat) : Nat := if hour % 12 = 0 then 12 else hour % 12

/-- A numeric field of a time. -/
def numberText (z : ZonedTime) (p : Padding) : NumericField → List Char
  | .year => paddedYear p z.date.year
  | .century => paddedNat p 2 (z.date.year / 100).toNat
  | .yearOfCentury => paddedNat p 2 (z.date.year % 100).toNat
  | .weekYear => paddedYear p z.date.isoWeek.1
  | .weekYearOfCentury => paddedNat p 2 (z.date.isoWeek.1 % 100).toNat
  | .quarter => Nat.toDigits 10 ((z.date.month + 2) / 3)
  | .month => paddedNat p 2 z.date.month
  | .day => paddedNat p 2 z.date.day
  | .dayOfYear => paddedNat p 3 z.date.dayOfYear
  | .weekFromSunday => paddedNat p 2 (z.date.weekOfYear z.date.fromSunday)
  | .weekFromMonday => paddedNat p 2 (z.date.weekOfYear z.date.fromMonday)
  | .isoWeek => paddedNat p 2 z.date.isoWeek.2
  | .daysFromSunday => Nat.toDigits 10 z.date.fromSunday
  | .weekday => Nat.toDigits 10 (z.date.fromMonday + 1)
  | .hour => paddedNat p 2 (z.secondOfDay / 3600)
  | .hour12 => paddedNat p 2 (hour12 (z.secondOfDay / 3600))
  | .minute => paddedNat p 2 (z.secondOfDay / 60 % 60)
  | .second => paddedNat p 2 (z.secondOfDay % 60 + z.nanos / second)
  | .nanosecond => paddedNat p 9 (z.nanos % second)
  | .timestamp => paddedNumber p 9 (z.localSeconds - z.offset) false

/-- The names of the months. -/
def monthNames : List String :=
  ["January", "February", "March", "April", "May", "June", "July", "August", "September",
    "October", "November", "December"]

/-- The names of the days, from Monday on. -/
def weekdayNames : List String :=
  ["Monday", "Tuesday", "Wednesday", "Thursday", "Friday", "Saturday", "Sunday"]

/-- The name of a month. -/
def monthName (d : Date) : List Char := (monthNames.getD (d.month - 1) "").toList

/-- The name of the day of the week. -/
def weekdayName (d : Date) : List Char := (weekdayNames.getD d.fromMonday "").toList

/-- The first half of the day. -/
def isMorning (z : ZonedTime) : Bool := z.secondOfDay / 3600 < 12

/-- The sign, hours, minutes and seconds of an offset. -/
def offsetParts (offset : Int) : Char × List Char × List Char × List Char :=
  let n := offset.natAbs
  (if offset < 0 then '-' else '+', Text.zeroPadded 2 (n / 3600),
    Text.zeroPadded 2 (n / 60 % 60), Text.zeroPadded 2 (n % 60))

/-- A field of a time that is not a number; the permissive offset has no text. -/
def fieldText? (z : ZonedTime) : TextField → Option (List Char)
  | .monthShort => some ((monthName z.date).take 3)
  | .monthLong => some (monthName z.date)
  | .weekdayShort => some ((weekdayName z.date).take 3)
  | .weekdayLong => some (weekdayName z.date)
  | .halfDayUpper => some (if isMorning z then ['A', 'M'] else ['P', 'M'])
  | .halfDayLower => some (if isMorning z then ['a', 'm'] else ['p', 'm'])
  | .fraction => some (fractionChars z.nanos)
  | .fixedFraction point n =>
    let ds := (Text.zeroPadded 9 (z.nanos % second)).take n
    some (if point then '.' :: ds else ds)
  | .offset =>
    let (sign, h, m, _) := offsetParts z.offset
    some (sign :: h ++ m)
  | .offsetColon =>
    let (sign, h, m, _) := offsetParts z.offset
    some (sign :: h ++ ':' :: m)
  | .offsetSeconds =>
    let (sign, h, m, s) := offsetParts z.offset
    some (sign :: h ++ ':' :: m ++ ':' :: s)
  | .offsetHours =>
    let (sign, h, _, _) := offsetParts z.offset
    some (sign :: h)
  | .offsetPermissive => none

/-- The text of one item. -/
def itemText? (z : ZonedTime) : PatternItem → Option (List Char)
  | .literal c => some [c]
  | .number f p => some (numberText z p f)
  | .field f => fieldText? z f

/-- The text of a time through the items of a pattern. -/
def write? (items : List PatternItem) (z : ZonedTime) : Option String :=
  (items.mapM (itemText? z)).map fun parts => String.ofList parts.flatten

end Pattern
end ProcessMigration.Time
