/-!
# Finite binary64 numbers

A finite double is its sign and its **magnitude code**: the exponent field times `2^52` plus the
fraction field. Codes are ordered as the magnitudes they stand for, and every magnitude is a whole
number of **units** of `2^-1074`, so all arithmetic below is exact arithmetic on natural numbers.

* `units` reads a code, `nearest` rounds a quotient to the nearest code (a tie goes to the even one);
* `timesTenPow` and `scaled` are multiplication and division by powers of ten, each step rounded.
-/

namespace ProcessMigration

/-- The first code past the finite ones. -/
def Binary64.infinityCode : Nat := 0x7FF0000000000000

/-- A finite binary64 number. Zero has two of them. -/
structure Binary64 where
  negative : Bool
  code : Nat
  finite : code < Binary64.infinityCode
  deriving DecidableEq

namespace Binary64

/-- The number of fraction fields, `2^52`. -/
def fractions : Nat := 0x10000000000000

/-- The magnitude of a code, counted in units of `2^-1074`. -/
def units (code : Nat) : Nat :=
  if code < fractions then code
  else (fractions + code % fractions) <<< (code / fractions - 1)

/-- How many units of `2^-1074` make one. -/
def one : Nat := 1 <<< 1074

/-- The code whose magnitude is nearest to `num / den` units; of two equally near ones the even
code. Codes from `infinityCode` on mean that the quotient is too large. -/
def nearestUnits (num den : Nat) : Nat :=
  let shift := Nat.log2 (num / den) - 52
  let step := den <<< shift
  let down := num / step
  let rest := num % step
  let rounded :=
    if step < 2 * rest ∨ (2 * rest = step ∧ down % 2 = 1) then down + 1 else down
  shift * fractions + rounded

/-- The code nearest to the number `num / den`. -/
def nearest (num den : Nat) : Nat := nearestUnits (num * one) den

/-- The number of this sign and code, unless the code is past the finite ones. -/
def ofCode? (negative : Bool) (code : Nat) : Option Binary64 :=
  if h : code < infinityCode then some ⟨negative, code, h⟩ else none

/-- Positive zero. -/
def zero : Binary64 := ⟨false, 0, by decide⟩

instance : Inhabited Binary64 := ⟨zero⟩

/-- The product of a code's magnitude with the double nearest to `10^k`. -/
def timesTenPow (code k : Nat) : Nat :=
  nearest (units code * units (nearest (Nat.pow 10 k) 1)) (one * one)

/-- The quotient of a code's magnitude by the double nearest to `10^k`. -/
def overTenPow (code k : Nat) : Nat :=
  nearest (units code) (units (nearest (Nat.pow 10 k) 1))

/-- The greatest exponent of a power of ten that is a finite double. -/
def maxTenPow : Nat := 308

/-- A code divided by `10^k`, at most 308 powers at a time, each division rounded. -/
def scaledDown (code k : Nat) : Nat :=
  if k ≤ maxTenPow then overTenPow code k
  else if code = 0 then 0
  else scaledDown (overTenPow code maxTenPow) (k - maxTenPow)
termination_by k
decreasing_by simp only [maxTenPow] at *; omega

/-- A code multiplied by `10^e`; too large an exponent gives `infinityCode`, except for zero. -/
def scaled (code : Nat) : Int → Nat
  | .ofNat k =>
    if k ≤ maxTenPow then timesTenPow code k
    else if code = 0 then 0
    else infinityCode
  | .negSucc k => scaledDown code (k + 1)

end Binary64
end ProcessMigration
