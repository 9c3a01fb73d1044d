import ProcessMigration.Time.Relaxed

/-!
# Reading times strictly

`ZonedTime.read` takes a time exactly as `YYYY-MM-DDTHH:MM:SS`, an optional fraction and `Z` or an
offset `+hh:mm`, and says what is wrong with any other text. Of two faults the one reported is the
one that is met first: shape and calendar of the date, shape of the time of day, its ranges, the
offset, what is left over, and the range of the offset last.
-/

namespace ProcessMigration.Time

open Text

/-- What is wrong with a text that should be a time. -/
inductive ReadError where
  | premature
  | invalid
  | outOfRange
  | trailing
  deriving DecidableEq, Repr

/-- The wording of a reading error. -/
def ReadError.message : ReadError → String
  | .premature => "premature end of input"
  | .invalid => "input contains invalid characters"
  | .outOfRange => "input is out of range"
  | .trailing => "trailing input"

/-- A reader that consumes characters from the front. -/
abbrev Read (α : Type) := List Char → Except ReadError (α × List Char)

/-- Two digits inside the part of the text that is known to be long enough. -/
def pair : Read Nat
  | a :: b :: rest =>
    if a.isDigit && b.isDigit then .ok (numberOf [a, b], rest) else .error .invalid
  | _ => .error .invalid

/-- One of some characters. -/
def oneOf (allowed : List Char) : Read Unit
  | c :: rest => if allowed.contains c then .ok ((), rest) else .error .invalid
  | [] => .error .invalid

/-- The date, which the calendar must have. -/
def strictDate : Read Date := fun cs => do
  let (century, cs) ← pair cs
  let (yearOfCentury, cs) ← pair cs
  let ((), cs) ← oneOf ['-'] cs
  let (month, cs) ← pair cs
  let ((), cs) ← oneOf ['-'] cs
  let (day, cs) ← pair cs
  let date : Date := ⟨century * 100 + yearOfCentury, month, day⟩
  if date.isValid then .ok (date, cs) else .error .outOfRange

/-- The fraction, if a point comes next. -/
def strictFraction : Read Nat
  | '.' :: cs =>
    match cs.takeWhile Char.isDigit with
    | [] => .error (if cs.isEmpty then .premature else .invalid)
    | ds => .ok (nanosOf ds, cs.drop ds.length)
  | cs => .ok (0, cs)

/-- Two digits of an offset, which may be cut off: a single character is too short unless it takes
several bytes. -/
def offsetPair : Read (Nat × Nat)
  | a :: b :: rest =>
    if a.isDigit && b.isDigit then .ok ((numberOf [a], numberOf [b]), rest) else .error .invalid
  | [a] => .error (if a.toNat < 0x80 then .premature else .invalid)
  | [] => .error .premature

/-- Universal time or an offset. -/
def strictZone : Read Int
  | 'Z' :: rest => .ok (0, rest)
  | 'z' :: rest => .ok (0, rest)
  | [] => .error .premature
  | c :: cs =>
    match offsetSign? c with
    | none => .error .invalid
    | some negative => do
      let ((h, h'), cs) ← offsetPair cs
      let cs ← match cs with
        | ':' :: cs => .ok cs
        | [] => .error .premature
        | _ => .error .invalid
      let ((m, m'), cs) ← offsetPair cs
      if 6 ≤ m then .error .outOfRange
      else .ok (offsetOf negative (h * 10 + h') (m * 10 + m'), cs)

/-- The number of bytes that characters take. -/
def byteLength : List Char → Nat
  | [] => 0
  | c :: cs => c.utf8Size + byteLength cs

/-- A time with its offset, in the strict form. -/
def strictZoned (cs : List Char) : Except ReadError ZonedTime := do
  if byteLength cs < 19 then .error .premature
  let (date, cs) ← strictDate cs
  let ((), cs) ← oneOf ['T', 't', ' '] cs
  let (hour, cs) ← pair cs
  let ((), cs) ← oneOf [':'] cs
  let (minute, cs) ← pair cs
  let ((), cs) ← oneOf [':'] cs
  let (sec, cs) ← pair cs
  let (nanos, cs) ← strictFraction cs
  if 23 < hour ∨ 59 < minute ∨ 60 < sec then .error .outOfRange
  let (offset, cs) ← strictZone cs
  if cs.isEmpty then
    if offsetInRange offset then .ok (ZonedTime.ofFields date hour minute sec nanos offset)
    else .error .outOfRange
  else .error .trailing

end ProcessMigration.Time

/-- The time that a text names in the strict form. -/
def ProcessMigration.ZonedTime.read (s : String) :
    Except ProcessMigration.Time.ReadError ProcessMigration.ZonedTime :=
  ProcessMigration.Time.strictZoned s.toList
