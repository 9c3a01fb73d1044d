import ProcessMigration.Decimal.Binary64

/-!
# Numerals

A **numeral** is a number as it is written: sign, whole digits, and perhaps a fraction and an
exponent. `Numeral.value?` is what it stands for:

* digits alone are a whole number while they fit 64 bits (signed below zero, unsigned above);
* everything else, `-0` included, is a double; one past the doubles has no value.

The double is computed from a **significand** of at most 64 bits: further whole digits only count as
powers of ten and further fraction digits are dropped. The significand is rounded to a double first
and then scaled by a power of ten, so the result may differ from the nearest double in its last bit.
-/

namespace ProcessMigration

/-- What a numeral stands for. -/
inductive Number where
  | int (n : Int)
  | double (x : Binary64)
  deriving DecidableEq

/-- A number as it is written. -/
structure Numeral where
  negative : Bool
  whole : List Nat
  fraction : Option (List Nat)
  exponent : Option Int
  deriving DecidableEq, Repr

namespace Numeral

/-- The first significand that does not fit. -/
def significandLimit : Nat := 0x10000000000000000

/-- Appends digits to a significand while the result fits, and returns the digits left over. -/
def accumulate (significand : Nat) : List Nat → Nat × List Nat
  | [] => (significand, [])
  | d :: ds =>
    if significand * 10 + d < significandLimit then accumulate (significand * 10 + d) ds
    else (significand, d :: ds)

/-- The double with this sign, significand and power of ten. -/
def toDouble? (negative : Bool) (significand : Nat) (exponent : Int) : Option Binary64 :=
  Binary64.ofCode? negative (Binary64.scaled (Binary64.nearest significand 1) exponent)

/-- The value of a numeral read as a double. -/
def double? (n : Numeral) : Option Binary64 :=
  let (whole, extra) := accumulate 0 n.whole
  let fraction := n.fraction.getD []
  let (significand, dropped) := accumulate whole fraction
  let kept : Nat := fraction.length - dropped.length
  toDouble? n.negative significand ((extra.length : Int) - kept + n.exponent.getD 0)

/-- The value of a run of digits. -/
def ofDigits (ds : List Nat) : Nat := ds.foldl (fun n d => n * 10 + d) 0

/-- Beyond this power of ten, up or down, there is no double but zero. -/
def reach : Int := 400

/-- The double nearest to what is written, unless it is past the doubles. -/
def nearestDouble? (n : Numeral) : Option Binary64 :=
  let fraction := n.fraction.getD []
  let digits := ofDigits (n.whole ++ fraction)
  let exponent := n.exponent.getD 0 - fraction.length
  let magnitude := (Nat.toDigits 10 digits).length + exponent
  if digits = 0 ∨ magnitude < -reach then Binary64.ofCode? n.negative 0
  else if reach < magnitude then none
  else
    Binary64.ofCode? n.negative <|
      if 0 ≤ exponent then Binary64.nearest (digits * Nat.pow 10 exponent.toNat) 1
      else Binary64.nearest digits (Nat.pow 10 (-exponent).toNat)

/-- What the numeral stands for, unless it is past the doubles. -/
def value? (n : Numeral) : Option Number :=
  match n.fraction, n.exponent with
  | none, none =>
    let k := ofDigits n.whole
    if n.negative then
      if 0 < k ∧ k ≤ 0x8000000000000000 then some (.int (-(k : Int))) else n.double?.map .double
    else if k < significandLimit then some (.int k)
    else n.double?.map .double
  | _, _ => n.double?.map .double

end Numeral
end ProcessMigration
