import ProcessMigration.Json.Basic
import ProcessMigration.Text.Digits
import ProcessMigration.Time.Calendar

/-!
# Numbers and dates of a configuration

* A whole number is decimal, or hexadecimal, octal or binary after `0x`, `0o`, `0b`; underscores may
  stand between digits; it must fit 64 bits.
* A number with a fraction or an exponent is the nearest double. `inf` and `nan` are no JSON numbers.
* A date, a time of day, or both with or without an offset, becomes an object whose only member is
  its text; no other object of a configuration has a key of this name.
-/

namespace ProcessMigration.Toml

/-! ## Digits -/

/-- The digits after the first one: an underscore must stand between two digits. -/
def moreDigits? (isDigit : Char → Bool) : List Char → Option (List Char × List Char)
  | [] => some ([], [])
  | '_' :: c :: rest =>
    if isDigit c then (moreDigits? isDigit rest).map fun (ds, rest) => (c :: ds, rest) else none
  | c :: rest =>
    if isDigit c then (moreDigits? isDigit rest).map fun (ds, rest) => (c :: ds, rest)
    else if c = '_' then none
    else some ([], c :: rest)

/-- At least one digit. -/
def digits? (isDigit : Char → Bool) : List Char → Option (List Char × List Char)
  | [] => none
  | c :: rest =>
    if isDigit c then (moreDigits? isDigit rest).map fun (ds, rest) => (c :: ds, rest) else none

/-- The value of a decimal or hexadecimal digit. -/
def digitValue (c : Char) : Nat :=
  if c.isDigit then c.toNat - '0'.toNat
  else if 'a' ≤ c then c.toNat - 'a'.toNat + 10
  else c.toNat - 'A'.toNat + 10

/-- A hexadecimal digit. -/
def isHexDigit (c : Char) : Bool := c.isDigit || ('a' ≤ c && c ≤ 'f') || ('A' ≤ c && c ≤ 'F')

/-- An octal digit. -/
def isOctalDigit (c : Char) : Bool := '0' ≤ c && c ≤ '7'

/-- A binary digit. -/
def isBinaryDigit (c : Char) : Bool := c = '0' || c = '1'

/-! ## Numbers -/

/-- A whole number of 64 bits. -/
def whole? (n : Int) : Option Document :=
  if -0x8000000000000000 ≤ n ∧ n < 0x8000000000000000 then some (.number (some (.int n))) else none

/-- A whole number in another base. -/
def inBase? (base : Nat) (isDigit : Char → Bool) (cs : List Char) :
    Option (Document × List Char) := do
  let (ds, rest) ← digits? isDigit cs
  let n ← whole? (ds.foldl (fun (n : Nat) c => n * base + digitValue c) 0 : Nat)
  return (n, rest)

/-- Decimal digits without a needless zero in front. -/
def wholeDigits? (cs : List Char) : Option (List Char × List Char) :=
  match digits? Char.isDigit cs with
  | some ('0' :: _ :: _, _) => none
  | r => r

/-- The fraction, if a point comes next. -/
def fraction? : List Char → Option (Option (List Char) × List Char)
  | '.' :: rest => (digits? Char.isDigit rest).map fun (ds, rest) => (some ds, rest)
  | cs => some (none, cs)

/-- The exponent after its letter. -/
def exponentAt? (cs : List Char) : Option (Option Int × List Char) :=
  let (negative, cs) := match cs with
    | '-' :: rest => (true, rest)
    | '+' :: rest => (false, rest)
    | cs => (false, cs)
  (digits? Char.isDigit cs).map fun (ds, rest) =>
    let e : Int := Text.numberOf ds
    (some (if negative then -e else e), rest)

/-- The exponent, if its letter comes next. -/
def exponent? : List Char → Option (Option Int × List Char)
  | 'e' :: rest => exponentAt? rest
  | 'E' :: rest => exponentAt? rest
  | cs => some (none, cs)

/-- What a decimal number stands for. One past the doubles is only a number below zero. -/
def decimalValue? (negative : Bool) (ws : List Char) (fraction : Option (List Char))
    (exponent : Option Int) : Option Document :=
  match fraction, exponent with
  | none, none =>
    let n : Int := Text.numberOf ws
    whole? (if negative then -n else n)
  | _, _ =>
    let n : Numeral := ⟨negative, ws.map digitValue, fraction.map (·.map digitValue), exponent⟩
    match n.nearestDouble? with
    | some x => some (.number (some (.double x)))
    | none => if negative then some .nonFinite else none

/-- A number after its sign. -/
def unsigned? (negative : Bool) : List Char → Option (Document × List Char)
  | 'i' :: 'n' :: 'f' :: rest => some (.nonFinite, rest)
  | 'n' :: 'a' :: 'n' :: rest => some (.nonFinite, rest)
  | cs => do
    let (ws, cs) ← wholeDigits? cs
    let (fraction, cs) ← fraction? cs
    let (exponent, cs) ← exponent? cs
    let value ← decimalValue? negative ws fraction exponent
    return (value, cs)

/-- A number. -/
def number? : List Char → Option (Document × List Char)
  | '0' :: 'x' :: rest => inBase? 16 isHexDigit rest
  | '0' :: 'o' :: rest => inBase? 8 isOctalDigit rest
  | '0' :: 'b' :: rest => inBase? 2 isBinaryDigit rest
  | '+' :: rest => unsigned? false rest
  | '-' :: rest => unsigned? true rest
  | cs => unsigned? false cs

/-! ## Dates -/

/-- The key of the object that stands for a date or time. -/
def dateKey : String := "$__toml_private_datetime"

/-- The object of a date or time. -/
def dateDocument (text : List Char) : Document :=
  .object [(some dateKey, .string (some (String.ofList text)))]

/-- A number of two digits up to a limit. -/
def twoDigits? (last : Nat) : List Char → Option (Nat × List Char)
  | a :: b :: rest =>
    if a.isDigit && b.isDigit && Text.numberOf [a, b] ≤ last then
      some (Text.numberOf [a, b], rest)
    else none
  | _ => none

/-- The first nine digits of a fraction of a second as nanoseconds. -/
def nanoseconds (ds : List Char) : Nat :=
  let kept := ds.take 9
  Text.numberOf kept * Nat.pow 10 (9 - kept.length)

/-- The fraction of a second, written without the zeros at its end. -/
def fractionText (nanos : Nat) : List Char :=
  if nanos = 0 then []
  else '.' :: ((Text.zeroPadded 9 nanos).reverse.dropWhile (· = '0')).reverse

/-- A time of day, as it is written. -/
def timeText? (cs : List Char) : Option (List Char × List Char) :=
  match twoDigits? 23 cs with
  | some (h, ':' :: rest) =>
    match twoDigits? 59 rest with
    | some (m, ':' :: rest) =>
      match twoDigits? 60 rest with
      | some (s, rest) =>
        let text := Text.zeroPadded 2 h ++ ':' :: Text.zeroPadded 2 m ++ ':' :: Text.zeroPadded 2 s
        match rest with
        | '.' :: after =>
          match after.takeWhile Char.isDigit with
          | [] => some (text, rest)
          | ds => some (text ++ fractionText (nanoseconds ds), after.dropWhile Char.isDigit)
        | rest => some (text, rest)
      | none => none
    | _ => none
  | _ => none

/-- The hours and minutes of an offset, as they are written. -/
def offsetParts? (sign : Char) (cs : List Char) : Option (List Char × List Char) :=
  match twoDigits? 23 cs with
  | some (h, ':' :: rest) =>
    (twoDigits? 59 rest).map fun (m, rest) =>
      let sign := if h = 0 ∧ m = 0 then '+' else sign
      (sign :: Text.zeroPadded 2 h ++ ':' :: Text.zeroPadded 2 m, rest)
  | _ => none

/-- An offset, if one comes next. -/
def offsetText? : List Char → Option (List Char × List Char)
  | 'Z' :: rest => some (['Z'], rest)
  | 'z' :: rest => some (['Z'], rest)
  | '+' :: rest => offsetParts? '+' rest
  | '-' :: rest => offsetParts? '-' rest
  | cs => some ([], cs)

/-- The time that may follow a date. -/
def timeAfterDate? (cs : List Char) : Option (List Char × List Char) :=
  match cs with
  | c :: d :: rest =>
    if (c = 'T' || c = 't' || c = ' ') && d.isDigit then do
      let (time, rest) ← timeText? (d :: rest)
      let (offset, rest) ← offsetText? rest
      return ('T' :: time ++ offset, rest)
    else some ([], cs)
  | cs => some ([], cs)

/-- A day of the calendar. -/
def isDay (year month day : Nat) : Bool :=
  1 ≤ month && month ≤ 12 && 1 ≤ day && day ≤ Time.monthLength year month

/-- A date, and a time after it if there is one. -/
def date? (year : List Char) (cs : List Char) : Option (Document × List Char) :=
  match twoDigits? 12 cs with
  | some (month, '-' :: rest) =>
    match twoDigits? 31 rest with
    | some (day, rest) =>
      if isDay (Text.numberOf year) month day then
        (timeAfterDate? rest).map fun (time, rest) =>
          (dateDocument (year ++ '-' :: Text.zeroPadded 2 month ++ '-' :: Text.zeroPadded 2 day
            ++ time), rest)
      else none
    | none => none
  | _ => none

/-- A number, date or time: a date shows in its fifth character, a time in its third. -/
def scalar? : List Char → Option (Document × List Char)
  | cs =>
    match cs with
    | a :: b :: c :: d :: '-' :: rest =>
      if [a, b, c, d].all Char.isDigit then date? [a, b, c, d] rest else number? cs
    | a :: b :: ':' :: _ =>
      if a.isDigit && b.isDigit then
        (timeText? cs).map fun (time, rest) => (dateDocument time, rest)
      else number? cs
    | cs => number? cs

end ProcessMigration.Toml
