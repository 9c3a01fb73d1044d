import ProcessMigration.Json.Decode
import ProcessMigration.Text.Lowercase

/-!
# Variables of the source engine

A source variable has a name, a **kind** (how the source engine stores it) and a value, and belongs
to a scope of its process instance. The kinds have fixed lower-case names; a person may also write
them with blanks around, in capitals, and `short` for an integer.
-/

namespace ProcessMigration

/-- How the source engine stores a variable. -/
inductive VariableKind where
  | null | string | boolean | integer | long | double | date | json | xml | object | file
  deriving DecidableEq, Repr, Inhabited

namespace VariableKind

/-- The name of a kind. -/
def name : VariableKind → String
  | .null => "null"
  | .string => "string"
  | .boolean => "boolean"
  | .integer => "integer"
  | .long => "long"
  | .double => "double"
  | .date => "date"
  | .json => "json"
  | .xml => "xml"
  | .object => "object"
  | .file => "file"

/-- All kinds. -/
def all : List VariableKind :=
  [.null, .string, .boolean, .integer, .long, .double, .date, .json, .xml, .object, .file]

/-- The kind of this name. -/
def ofName? (s : String) : Option VariableKind := all.find? fun k => k.name == s

/-- The kind that a person means, or the complaint. -/
def parse (s : String) : Except String VariableKind :=
  let word := Text.lowercase (Text.trim s)
  if word = "short" then .ok .integer
  else match ofName? word with
    | some k => .ok k
    | none => .error ("Unknown variable kind: " ++ word)

/-- Reads a kind. -/
def decode : Decoder VariableKind := .name ofName?

/-- Writes a kind. -/
def encode (k : VariableKind) : Json := .string k.name

end VariableKind

/-- A variable of the source engine. -/
structure SourceVariable where
  name : String
  kind : VariableKind
  value : Json
  scopeId : String
  instanceId : String
  deriving Inhabited

namespace SourceVariable

/-- Reads a variable; one without a value is null. -/
def decode : Decoder SourceVariable :=
  .record ["name", "kind", "value", "scopeId", "processInstanceId"] fun r => do
    let name ← r.required "name" .text
    let kind ← r.required "kind" VariableKind.decode
    let value ← r.withDefault "value" .json .null
    let scopeId ← r.required "scopeId" .text
    let instanceId ← r.required "processInstanceId" .text
    return ⟨name, kind, value, scopeId, instanceId⟩

/-- Writes a variable. -/
def encode (v : SourceVariable) : Json :=
  .object [("name", .string v.name), ("kind", v.kind.encode), ("value", v.value),
    ("scopeId", .string v.scopeId), ("processInstanceId", .string v.instanceId)]

end SourceVariable
end ProcessMigration
