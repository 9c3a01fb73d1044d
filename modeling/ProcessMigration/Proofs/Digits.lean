import Mathlib.Algebra.Group.Int.Defs
import Mathlib.Algebra.Group.Nat.Defs
import ProcessMigration.Text.Digits
import ProcessMigration.Decimal.Numeral
import ProcessMigration.Json.Reader

/-!
# Written digits

The decimal digits of a number read back give the number, filled up with zeros or not.

* `Text.length_zeroPadded` and `Text.isDigit_of_mem_zeroPadded`: a field has its width and holds
  digits only;
* `Text.numberOf_zeroPadded`: a field read back;
* `Numeral.ofDigits_toDigits`: a numeral read back.
-/

namespace ProcessMigration

namespace Text

theorem numberOf_eq (ds : List Char) : numberOf ds = Nat.ofDigitChars 10 ds 0 := by
  unfold numberOf Nat.ofDigitChars
  congr 1
  funext n c
  omega

theorem isDigit_of_mem_zeroPadded {width n : Nat} {c : Char} (h : c ∈ zeroPadded width n) :
    c.isDigit = true := by
  rcases List.mem_append.1 h with hfill | hdigit
  · rw [List.eq_of_mem_replicate hfill]
    rfl
  · exact Nat.isDigit_of_mem_toDigits (by omega) (by omega) hdigit

theorem length_zeroPadded {width n : Nat} (hpos : 0 < width) (h : n < 10 ^ width) :
    (zeroPadded width n).length = width := by
  have hlen := (Nat.length_toDigits_le_iff (by omega : 1 < 10) hpos).2 h
  unfold zeroPadded padded
  rw [List.length_append, List.length_replicate]
  omega

theorem numberOf_zeroPadded (width n : Nat) : numberOf (zeroPadded width n) = n := by
  unfold zeroPadded padded
  rw [numberOf_eq, Nat.ofDigitChars_append, Nat.ofDigitChars_replicate_zero, Nat.mul_zero,
    Nat.ofDigitChars_ten_toDigits]

end Text

theorem Numeral.ofDigits_map_digit (ds : List Char) :
    Numeral.ofDigits (ds.map Document.digit) = Text.numberOf ds := by
  unfold Numeral.ofDigits Text.numberOf
  rw [List.foldl_map]
  rfl

theorem Numeral.ofDigits_toDigits (n : Nat) :
    Numeral.ofDigits ((Nat.toDigits 10 n).map Document.digit) = n := by
  rw [Numeral.ofDigits_map_digit, Text.numberOf_eq, Nat.ofDigitChars_ten_toDigits]

end ProcessMigration
