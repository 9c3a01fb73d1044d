import ProcessMigration.Decimal.Numeral
import ProcessMigration.SortedMap

/-!
# JSON values

* `Json` is a value: numbers are whole numbers of up to 64 bits or doubles, and the members of an
  object are distinct and ascend by key.
* `Document` is what a text says before anything is read from it: members stand in the order of the
  text and may repeat, and a number past the doubles or a text with half a surrogate pair is kept as
  a value that nothing can be read from. A part that is skipped may hold such values.
* `Document.value?` reads the value of a document, `Json.document` is the way back.
-/

namespace ProcessMigration

/-- A JSON value. -/
inductive Json where
  | null
  | bool (b : Bool)
  | number (n : Number)
  | string (s : String)
  | array (items : List Json)
  | object (members : List (String × Json))
  deriving Inhabited

/-- What a JSON text says. -/
inductive Document where
  | null
  | bool (b : Bool)
  | number (n : Option Number)
  /-- An infinite number, or none at all; it is written as null. -/
  | nonFinite
  | string (s : Option String)
  | array (items : List Document)
  | object (members : List (Option String × Document))
  deriving Inhabited

namespace Json

/-- A whole number. -/
def int (n : Int) : Json := .number (.int n)

/-- A natural number. -/
def nat (n : Nat) : Json := .number (.int n)

/-- The object with the entries of a map. -/
def ofMap (m : SortedMap Json) : Json := .object m.entries

/-- The object with these members, of repeated ones the last. -/
def ofMembers (members : List (String × Json)) : Json := ofMap (SortedMap.ofList members)

/-- The text, or null where there is none. -/
def ofText? : Option String → Json
  | some s => .string s
  | none => .null

/-- The whole number, or null where there is none. -/
def ofInt? : Option Int → Json
  | some n => int n
  | none => .null

/-- The text of a value that is one. -/
def text? : Json → Option String
  | .string s => some s
  | _ => none

/-- The value of a member. -/
def member? (key : String) : Json → Option Json
  | .object members => members.lookup key
  | _ => none

mutual

/-- Whether two values are the same. -/
def same : Json → Json → Bool
  | .null, .null => true
  | .bool a, .bool b => a == b
  | .number a, .number b => decide (a = b)
  | .string a, .string b => a == b
  | .array xs, .array ys => sameItems xs ys
  | .object xs, .object ys => sameMembers xs ys
  | _, _ => false

/-- Whether two lists of values are the same. -/
def sameItems : List Json → List Json → Bool
  | [], [] => true
  | x :: xs, y :: ys => same x y && sameItems xs ys
  | _, _ => false

/-- Whether two lists of members are the same. -/
def sameMembers : List (String × Json) → List (String × Json) → Bool
  | [], [] => true
  | (j, x) :: xs, (k, y) :: ys => j == k && same x y && sameMembers xs ys
  | _, _ => false

end

instance : BEq Json := ⟨same⟩

mutual

/-- A value as a document. -/
def document : Json → Document
  | .null => .null
  | .bool b => .bool b
  | .number n => .number (some n)
  | .string s => .string (some s)
  | .array items => .array (documents items)
  | .object members => .object (memberDocuments members)

/-- The values of a list as documents. -/
def documents : List Json → List Document
  | [] => []
  | x :: xs => document x :: documents xs

/-- The members of an object as documents. -/
def memberDocuments : List (String × Json) → List (Option String × Document)
  | [] => []
  | (k, x) :: xs => (some k, document x) :: memberDocuments xs

end

end Json

namespace Document

mutual

/-- How deeply arrays and objects are nested. -/
def depth : Document → Nat
  | .array items => depthOfItems items + 1
  | .object members => depthOfMembers members + 1
  | _ => 0

/-- The greatest depth in a list. -/
def depthOfItems : List Document → Nat
  | [] => 0
  | x :: xs => max (depth x) (depthOfItems xs)

/-- The greatest depth among members. -/
def depthOfMembers : List (Option String × Document) → Nat
  | [] => 0
  | (_, x) :: xs => max (depth x) (depthOfMembers xs)

end

mutual

/-- The value of a document, unless it holds something that nothing can be read from. -/
def value? : Document → Option Json
  | .null => some .null
  | .bool b => some (.bool b)
  | .number n => n.map .number
  | .nonFinite => some .null
  | .string s => s.map .string
  | .array items => (itemValues? items).map .array
  | .object members => (memberValues? members).map Json.ofMembers

/-- The values of a list of documents. -/
def itemValues? : List Document → Option (List Json)
  | [] => some []
  | x :: xs => do
    let v ← value? x
    let vs ← itemValues? xs
    return v :: vs

/-- The members' values. -/
def memberValues? : List (Option String × Document) → Option (List (String × Json))
  | [] => some []
  | (k, x) :: xs => do
    let key ← k
    let v ← value? x
    let vs ← memberValues? xs
    return (key, v) :: vs

end

end Document
end ProcessMigration
