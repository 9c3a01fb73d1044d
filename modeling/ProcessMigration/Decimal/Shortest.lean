import ProcessMigration.Decimal.Binary64

/-!
# The shortest decimal text of a double

`shortest` finds, for a positive magnitude, the decimal with the **fewest digits** that lies in the
interval of reals rounding to it, and of those the nearest to it. For one digit, two digits and so on
it tests the two neighbours of the value on that decimal grid; the first grid with a hit wins.

`Layout` says how digits are placed: which exponents are written positionally, and how an exponent
is written where one is needed.
-/

namespace ProcessMigration.Decimal

open Binary64

/-- A positive decimal: `digits · 10^exponent`. -/
structure Magnitude where
  digits : Nat
  exponent : Int
  deriving DecidableEq, Repr

/-- The decimal `d · 10^e` counted in units of `2^-1075`, as a fraction. -/
def Magnitude.halfUnits (m : Magnitude) : Nat × Nat :=
  match m.exponent with
  | .ofNat k => (m.digits * Nat.pow 10 k * (2 * one), 1)
  | .negSucc k => (m.digits * (2 * one), Nat.pow 10 (k + 1))

/-- The decimal lies in the interval of reals that round to this code: between the midpoints to the
neighbouring codes, the ends included when the code is even. -/
def readsBack (code : Nat) (m : Magnitude) : Bool :=
  let (num, den) := m.halfUnits
  let low := (units (code - 1) + units code) * den
  let high := (units code + units (code + 1)) * den
  if code % 2 = 0 then low ≤ num && num ≤ high else low < num && num < high

/-- The distance from the code's magnitude, in the fraction's own denominator. -/
def distance (code : Nat) (m : Magnitude) : Nat :=
  let (num, den) := m.halfUnits
  let value := 2 * units code * den
  if value ≤ num then num - value else value - num

/-- The least `j` from `j₀` on with `10^j · u ≥ 1`, for `u` counted in units. -/
def scaleToOne (u : Nat) : Nat → Nat → Nat
  | 0, j => j
  | fuel + 1, j => if one ≤ u * Nat.pow 10 j then j else scaleToOne u fuel (j + 1)

/-- The exponent of the leading decimal digit of a positive code. -/
def leadingExponent (code : Nat) : Int :=
  let u := units code
  if one ≤ u then ((Nat.toDigits 10 (u / one)).length : Int) - 1
  else -(scaleToOne u 400 1 : Nat)

/-- The value's lower neighbour on the grid of multiples of `10^exponent`. -/
def floorOn (code : Nat) (exponent : Int) : Magnitude :=
  match exponent with
  | .ofNat k => ⟨units code / (Nat.pow 10 k * one), exponent⟩
  | .negSucc k => ⟨units code * Nat.pow 10 (k + 1) / one, exponent⟩

/-- The better of the two neighbours on a grid that reads back, if one does; of two equally near
ones the one with an even last digit. -/
def onGrid? (code : Nat) (exponent : Int) : Option Magnitude :=
  let down := floorOn code exponent
  let up := { down with digits := down.digits + 1 }
  match readsBack code down, readsBack code up with
  | true, true =>
    let below := distance code down
    let above := distance code up
    if below < above ∨ (below = above ∧ down.digits % 2 = 0) then some down else some up
  | true, false => some down
  | false, true => some up
  | false, false => none

/-- Drops the zeros at the end of the digits. -/
def Magnitude.trimmed (m : Magnitude) : Nat → Magnitude
  | 0 => m
  | fuel + 1 =>
    if m.digits ≠ 0 ∧ m.digits % 10 = 0 then
      Magnitude.trimmed ⟨m.digits / 10, m.exponent + 1⟩ fuel
    else m

/-- Tries grids of `count`, `count + 1`, … digits. -/
def shortestFrom (code : Nat) (leading : Int) : Nat → Nat → Magnitude
  | 0, count => floorOn code (leading - count)
  | fuel + 1, count =>
    match onGrid? code (leading - count) with
    | some m => m
    | none => shortestFrom code leading fuel (count + 1)

/-- The shortest decimal that reads back as this positive code. -/
def shortest (code : Nat) : Magnitude :=
  (shortestFrom code (leadingExponent code) 17 0).trimmed 20

/-! ## Layout -/

/-- Where the point stands and how an exponent is written. -/
structure Layout where
  /-- The least exponent of the leading digit that is written positionally. -/
  positionalFrom : Int
  /-- The first exponent of the leading digit that is not written positionally any more. -/
  positionalBefore : Int
  /-- What follows the digits of a whole number written positionally. -/
  wholeEnding : String
  /-- The mark before an exponent that is not negative. -/
  exponentMark : String
  /-- The mark before the digits of a negative exponent. -/
  negativeExponentMark : String

/-- The text of a positive decimal without zeros at its end. -/
def Layout.text (l : Layout) (m : Magnitude) : String :=
  let ds := Nat.toDigits 10 m.digits
  let lead : Int := m.exponent + ds.length - 1
  if l.positionalFrom ≤ lead ∧ lead < l.positionalBefore then
    if 0 ≤ m.exponent then
      String.ofList (ds ++ List.replicate m.exponent.toNat '0') ++ l.wholeEnding
    else if 0 ≤ lead then
      let whole := lead.toNat + 1
      String.ofList (ds.take whole ++ '.' :: ds.drop whole)
    else
      String.ofList ('0' :: '.' :: List.replicate ((-lead).toNat - 1) '0' ++ ds)
  else
    let body := match ds with
      | [d] => [d]
      | d :: rest => d :: '.' :: rest
      | [] => []
    let mark := if lead < 0 then l.negativeExponentMark else l.exponentMark
    String.ofList body ++ mark ++ toString lead.natAbs

/-- The text of a double: the sign, then `0` with the ending of whole numbers, or the shortest
decimal that reads back. -/
def Layout.render (l : Layout) (x : Binary64) : String :=
  let sign := if x.negative then "-" else ""
  if x.code = 0 then sign ++ "0" ++ l.wholeEnding else sign ++ l.text (shortest x.code)

end ProcessMigration.Decimal
