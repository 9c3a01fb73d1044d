import ProcessMigration.Time.Zoned
import ProcessMigration.Text.Blank

/-!
# Reading times leniently

`Instant.read?` takes the times of documents: a date, one of `T`, `t` and a space, a time of day
with an optional fraction, and `Z`, `UTC` or an offset. Blanks are skipped before every number and
every `-` and `:`, numbers may be short, and a year may have a sign and then any number of digits.
-/

namespace ProcessMigration.Time

open Text

/-- Drops blanks. -/
def skipBlank (cs : List Char) : List Char := cs.dropWhile isBlank

/-- A number of at least one and at most `width` digits. -/
def shortNumber? (width : Nat) (cs : List Char) : Option (Nat × List Char) :=
  match (cs.take width).takeWhile Char.isDigit with
  | [] => none
  | ds => some (numberOf ds, cs.drop ds.length)

/-- A number of at least one digit. -/
def longNumber? (cs : List Char) : Option (Nat × List Char) :=
  match cs.takeWhile Char.isDigit with
  | [] => none
  | ds => some (numberOf ds, cs.drop ds.length)

/-- A year after blanks. -/
def year? (cs : List Char) : Option (Int × List Char) :=
  match skipBlank cs with
  | '-' :: rest => (longNumber? rest).map fun (n, rest) => (-(n : Int), rest)
  | '+' :: rest => (longNumber? rest).map fun (n, rest) => ((n : Int), rest)
  | rest => (shortNumber? 4 rest).map fun (n, rest) => ((n : Int), rest)

/-- A number of one or two digits after blanks. -/
def field? (cs : List Char) : Option (Nat × List Char) := shortNumber? 2 (skipBlank cs)

/-- A separator after blanks. -/
def separator? (c : Char) (cs : List Char) : Option (List Char) :=
  match skipBlank cs with
  | d :: rest => if c = d then some rest else none
  | [] => none

/-- Nanoseconds of the digits of a fraction; digits past the ninth are dropped. -/
def nanosOf (ds : List Char) : Nat :=
  let kept := ds.take 9
  numberOf kept * Nat.pow 10 (9 - kept.length)

/-- A fraction, if a point comes next. -/
def fraction? : List Char → Option (Nat × List Char)
  | '.' :: cs =>
    match cs.takeWhile Char.isDigit with
    | [] => none
    | ds => some (nanosOf ds, cs.drop ds.length)
  | cs => some (0, cs)

/-- The sign of an offset: whether it is negative. -/
def offsetSign? (c : Char) : Option Bool :=
  if c = '+' then some false
  else if c = '-' ∨ c = Char.ofNat 0x2212 then some true
  else none

/-- The seconds of an offset. -/
def offsetOf (negative : Bool) (hours minutes : Nat) : Int :=
  let s : Int := hours * 3600 + minutes * 60
  if negative then -s else s

/-- Exactly two digits. -/
def twoDigits? : List Char → Option (Nat × List Char)
  | a :: b :: rest =>
    if a.isDigit && b.isDigit then some (numberOf [a, b], rest) else none
  | _ => none

/-- An offset: a sign, two digits of hours, any colons and blanks, two digits of minutes. -/
def looseOffset? : List Char → Option (Int × List Char)
  | c :: cs => do
    let negative ← offsetSign? c
    let (hours, cs) ← twoDigits? cs
    let (minutes, cs) ← twoDigits? (cs.dropWhile fun c => c = ':' || isBlank c)
    if minutes < 60 then some (offsetOf negative hours minutes, cs) else none
  | [] => none

/-- Universal time or an offset. -/
def zone? : List Char → Option (Int × List Char)
  | 'Z' :: rest => some (0, rest)
  | 'z' :: rest => some (0, rest)
  | a :: b :: c :: rest =>
    if a.toUpper = 'U' ∧ b.toUpper = 'T' ∧ c.toUpper = 'C' then some (0, rest)
    else looseOffset? (a :: b :: c :: rest)
  | cs => looseOffset? cs

/-- A time with its offset, in the lenient form. -/
def readZoned? (cs : List Char) : Option ZonedTime := do
  let (year, cs) ← year? cs
  let cs ← separator? '-' cs
  let (month, cs) ← field? cs
  let cs ← separator? '-' cs
  let (day, cs) ← field? cs
  let cs ← match cs with
    | c :: cs => if c = 'T' ∨ c = 't' ∨ c = ' ' then some cs else none
    | [] => none
  let (hour, cs) ← field? cs
  let cs ← separator? ':' cs
  let (minute, cs) ← field? cs
  let cs ← separator? ':' cs
  let (sec, cs) ← field? cs
  let (nanos, cs) ← fraction? cs
  let (offset, cs) ← zone? (skipBlank cs)
  let date : Date := ⟨year, month, day⟩
  if (skipBlank cs).isEmpty && date.isValid && hour ≤ 23 && minute ≤ 59 && sec ≤ 60
      && offsetInRange offset then
    some (ZonedTime.ofFields date hour minute sec nanos offset)
  else none

end ProcessMigration.Time

/-- The point in time that a text names in the lenient form. -/
def ProcessMigration.Instant.read? (s : String) : Option ProcessMigration.Instant :=
  (ProcessMigration.Time.readZoned? s.toList).bind (·.instant?)
