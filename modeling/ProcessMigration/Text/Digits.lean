/-!
# Decimal fields

Numbers in fields of a given width: `padded` fills up on the left with zeros or with blanks, and
`numberOf` reads digits back.
-/

namespace ProcessMigration.Text

/-- The decimal digits of a number, filled up on the left to at least `width` characters. -/
def padded (fill : Char) (width n : Nat) : List Char :=
  let ds := Nat.toDigits 10 n
  List.replicate (width - ds.length) fill ++ ds

/-- The decimal digits of a number, filled up with zeros. -/
def zeroPadded (width n : Nat) : List Char := padded '0' width n

/-- The number that a run of digits stands for. -/
def numberOf (ds : List Char) : Nat := ds.foldl (fun n c => n * 10 + (c.toNat - '0'.toNat)) 0

end ProcessMigration.Text
