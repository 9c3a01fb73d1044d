import ProcessMigration.Json.Reader
import ProcessMigration.Time.Relaxed

/-!
# Decoding documents

A `Decoder α` reads a value of a domain type from a document. It has a **room**: how many arrays and
objects may still be entered on the way down. A decoder that enters one needs room for it and
leaves one less.

Records may be written as objects or as arrays of their fields in order:

* a known member may stand only once, unknown members are passed over unless the record is closed;
* an absent field can have a default, a null one only where null is a value of the field;
* an array may stop early where the fields left out have defaults.
-/

namespace ProcessMigration

/-- Reads a value from a document, entering at most `room - 1` nested arrays and objects. -/
abbrev Decoder (α : Type) := Nat → Document → Option α

namespace Decoder

variable {α β : Type}

/-- The room of a text that is decoded while it is read. -/
def textRoom : Nat := 128

/-- Decodes a document that is already in memory: nesting is no limit. -/
def run (d : Decoder α) (doc : Document) : Option α := d (doc.depth + 1) doc

/-- Decodes a value. -/
def ofJson? (d : Decoder α) (j : Json) : Option α := d.run j.document

/-- Decodes a text. -/
def ofText? (d : Decoder α) (s : String) : Option α := (Document.read? s).bind (d textRoom)

/-- The room inside an array or object. -/
def inner? (room : Nat) : Option Nat := if 2 ≤ room then some (room - 1) else none

/-- A text. -/
def text : Decoder String := fun _ doc =>
  match doc with
  | .string s => s
  | _ => none

/-- A whole number from `low` to `high`. -/
def int (low high : Int) : Decoder Int := fun _ doc =>
  match doc with
  | .number (some (.int n)) => if low ≤ n ∧ n ≤ high then some n else none
  | _ => none

/-- A signed number of 64 bits. -/
def int64 : Decoder Int := int (-0x8000000000000000) 0x7FFFFFFFFFFFFFFF

/-- A signed number of 32 bits. -/
def int32 : Decoder Int := int (-0x80000000) 0x7FFFFFFF

/-- A natural number of 64 bits. -/
def nat64 : Decoder Nat := fun room doc => (int 0 0xFFFFFFFFFFFFFFFF room doc).map Int.toNat

/-- A truth value. -/
def bool : Decoder Bool := fun _ doc =>
  match doc with
  | .bool b => some b
  | _ => none

/-- A value or null. -/
def nullable (d : Decoder α) : Decoder (Option α) := fun room doc =>
  match doc with
  | .null => some none
  | doc => (d room doc).map some

/-- A point in time in the lenient form. -/
def instant : Decoder Instant := fun room doc => (text room doc).bind Instant.read?

/-- Any value. -/
def json : Decoder Json := fun room doc => if doc.depth + 1 ≤ room then doc.value? else none

/-- A list. -/
def list (d : Decoder α) : Decoder (List α) := fun room doc =>
  match doc with
  | .array items => do
    let room ← inner? room
    items.mapM (d room)
  | _ => none

/-- A map from texts; of repeated keys the last one counts. -/
def map (d : Decoder α) : Decoder (SortedMap α) := fun room doc =>
  match doc with
  | .object members => do
    let room ← inner? room
    let pairs ← members.mapM fun (k, x) => do
      let key ← k
      let v ← d room x
      return (key, v)
    return SortedMap.ofList pairs
  | _ => none

/-- One of a closed set of names, or an object whose only member has such a name and is null. -/
def name (ofName? : String → Option α) : Decoder α := fun room doc =>
  match doc with
  | .string s => s.bind ofName?
  | .object [(some k, .null)] => if 2 ≤ room then ofName? k else none
  | _ => none

end Decoder

/-! ## Records -/

/-- A record in the course of decoding: the documents of its fields, and the room inside it. -/
structure Record where
  fields : List (String × Document)
  positional : Bool
  room : Nat

namespace Record

variable {α : Type}

/-- The known members of an object, unless one of them stands twice, a key cannot be read, or the
record is closed and has an unknown one. -/
def known? (names : List String) (closed : Bool) :
    List (Option String × Document) → Option (List (String × Document))
  | [] => some []
  | (k, x) :: rest => do
    let key ← k
    let others ← known? names closed rest
    if names.contains key then
      if (others.lookup key).isSome then none else some ((key, x) :: others)
    else if closed then none
    else some others

/-- The record of a document. -/
def ofDocument? (names : List String) (closed : Bool) (room : Nat) : Document → Option Record
  | .object members => do
    let room ← Decoder.inner? room
    return ⟨← known? names closed members, false, room⟩
  | .array items => do
    let room ← Decoder.inner? room
    if items.length ≤ names.length then some ⟨names.zip items, true, room⟩ else none
  | _ => none

/-- The record of a document that must be an object. -/
def ofObject? (names : List String) (room : Nat) : Document → Option Record
  | .object members => ofDocument? names false room (.object members)
  | _ => none

/-- A field that must be there. -/
def required (r : Record) (name : String) (d : Decoder α) : Option α :=
  (r.fields.lookup name).bind (d r.room)

/-- A field with a default. -/
def withDefault (r : Record) (name : String) (d : Decoder α) (default : α) : Option α :=
  match r.fields.lookup name with
  | some doc => d r.room doc
  | none => some default

/-- A field that may be absent or null. -/
def optional (r : Record) (name : String) (d : Decoder α) : Option (Option α) :=
  r.withDefault name d.nullable none

/-- A field that may be null, and absent only from an object. -/
def orNull (r : Record) (name : String) (d : Decoder α) : Option (Option α) :=
  match r.fields.lookup name with
  | some doc => d.nullable r.room doc
  | none => if r.positional then none else some none

end Record

/-- Decodes a record with these fields. -/
def Decoder.record {α : Type} (names : List String) (build : Record → Option α) : Decoder α :=
  fun room doc => (Record.ofDocument? names false room doc).bind build

/-- Decodes a record with these fields and no others. -/
def Decoder.closedRecord {α : Type} (names : List String) (build : Record → Option α) : Decoder α :=
  fun room doc => (Record.ofDocument? names true room doc).bind build

/-- Decodes a record with these fields and no others, or an array that begins with them: what the
array holds beyond them does not count. -/
def Decoder.leadingRecord {α : Type} (names : List String) (build : Record → Option α) : Decoder α :=
  fun room doc =>
    match doc with
    | .array items => Decoder.closedRecord names build room (.array (items.take names.length))
    | doc => Decoder.closedRecord names build room doc

end ProcessMigration
