import ProcessMigration.Json.Basic
import ProcessMigration.Decimal.Shortest

/-!
# The compact text of a JSON value

No blanks, members in the order of the value, and of the characters only the quote, the backslash
and the control characters below the space are escaped. So the text of a value holds **no line
break**, whatever texts are in it.
-/

namespace ProcessMigration.Json

/-- Doubles are written positionally from `0.00001` up to below `10^16`, whole ones with a zero
after the point, and otherwise with a signed exponent. -/
def doubleLayout : Decimal.Layout where
  positionalFrom := -5
  positionalBefore := 16
  wholeEnding := ".0"
  exponentMark := "e+"
  negativeExponentMark := "e-"

/-- A character inside a JSON text. -/
def escaped (c : Char) : List Char :=
  if c = '"' then ['\\', '"']
  else if c = '\\' then ['\\', '\\']
  else if 0x20 ≤ c.toNat then [c]
  else if c = '\n' then ['\\', 'n']
  else if c = '\r' then ['\\', 'r']
  else if c = '\t' then ['\\', 't']
  else if c.toNat = 8 then ['\\', 'b']
  else if c.toNat = 12 then ['\\', 'f']
  else ['\\', 'u', '0', '0', Nat.digitChar (c.toNat / 16), Nat.digitChar (c.toNat % 16)]

/-- A JSON text with its quotes. -/
def stringChars (s : String) : List Char := '"' :: s.toList.flatMap escaped ++ ['"']

/-- A number. -/
def numberChars : Number → List Char
  | .int n => (toString n).toList
  | .double x => (doubleLayout.render x).toList

mutual

/-- The characters of the compact text of a value. -/
def chars : Json → List Char
  | .null => ['n', 'u', 'l', 'l']
  | .bool true => ['t', 'r', 'u', 'e']
  | .bool false => ['f', 'a', 'l', 's', 'e']
  | .number n => numberChars n
  | .string s => stringChars s
  | .array items => '[' :: itemChars items ++ [']']
  | .object members => '\x7b' :: memberChars members ++ ['\x7d']

/-- The items of an array, with commas between them. -/
def itemChars : List Json → List Char
  | [] => []
  | [x] => chars x
  | x :: y :: rest => chars x ++ ',' :: itemChars (y :: rest)

/-- The members of an object, with commas between them. -/
def memberChars : List (String × Json) → List Char
  | [] => []
  | [(k, x)] => stringChars k ++ ':' :: chars x
  | (k, x) :: m :: rest => stringChars k ++ ':' :: chars x ++ ',' :: memberChars (m :: rest)

end

/-- The compact text of a value. -/
def compact (j : Json) : String := String.ofList j.chars

end ProcessMigration.Json
