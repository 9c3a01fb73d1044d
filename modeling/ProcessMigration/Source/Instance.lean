import ProcessMigration.Json.Decode

/-!
# Running instances of the source engine

A source instance is listed by its start time and its id. A `Cursor` is a place in that listing.

* `Cursor.lt` is the order of the listing: start time first, a missing one before all others, then
  the id by its bytes;
* `Cursor.precedes` asks whether an instance comes after the place.
-/

namespace ProcessMigration

/-- A process instance of the source engine that no other instance called. -/
structure SourceInstance where
  id : String
  processKey : String
  processId : String
  tenant : Option String
  startTime : Option Instant
  deriving DecidableEq, Repr

/-- A place in the listing of source instances. -/
structure Cursor where
  startTime : Option Instant
  legacyId : String
  deriving DecidableEq, Repr

namespace Cursor

/-- The order of the listing. -/
def lt (a b : Cursor) : Bool :=
  Instant.before a.startTime b.startTime || (a.startTime == b.startTime && a.legacyId < b.legacyId)

end Cursor

/-- The place of an instance. -/
def SourceInstance.cursor (i : SourceInstance) : Cursor := ⟨i.startTime, i.id⟩

/-- The instance comes strictly after this place. -/
def Cursor.precedes (c : Cursor) (i : SourceInstance) : Bool := c.lt i.cursor

/-! ## Written form -/

/-- A time, or null where there is none. -/
def Json.ofInstant? : Option Instant → Json
  | some t => .string t.text
  | none => .null

namespace SourceInstance

/-- The fields of a written instance. -/
def fieldNames : List String :=
  ["id", "processDefinitionKey", "processDefinitionId", "tenantId", "startTime"]

/-- Builds an instance from its fields. -/
def ofRecord? (r : Record) : Option SourceInstance := do
  let id ← r.required "id" .text
  let processKey ← r.required "processDefinitionKey" .text
  let processId ← r.withDefault "processDefinitionId" .text ""
  let tenant ← r.optional "tenantId" .text
  let startTime ← r.optional "startTime" .instant
  return ⟨id, processKey, processId, tenant, startTime⟩

/-- Reads an instance. -/
def decode : Decoder SourceInstance := .record fieldNames ofRecord?

/-- The members of a written instance. -/
def members (i : SourceInstance) : List (String × Json) :=
  [("id", .string i.id), ("processDefinitionKey", .string i.processKey),
    ("processDefinitionId", .string i.processId), ("tenantId", .ofText? i.tenant),
    ("startTime", .ofInstant? i.startTime)]

/-- Writes an instance. -/
def encode (i : SourceInstance) : Json := .object i.members

end SourceInstance

namespace Cursor

/-- Reads a cursor. -/
def decode : Decoder Cursor := .record ["start_time", "legacy_id"] fun r => do
  let startTime ← r.orNull "start_time" .instant
  let legacyId ← r.required "legacy_id" .text
  return ⟨startTime, legacyId⟩

/-- Writes a cursor. -/
def encode (c : Cursor) : Json :=
  .object [("start_time", .ofInstant? c.startTime), ("legacy_id", .string c.legacyId)]

end Cursor
end ProcessMigration
