import ProcessMigration.Json.Decode

/-!
# Mapping records

A mapping record says what became of a source instance: it was **migrated** and has the key of its
target instance, or it was **skipped** for a reason.
-/

namespace ProcessMigration

/-- What a mapping record is about. -/
inductive EntityType where
  | processInstance
  deriving DecidableEq, Repr

namespace EntityType

/-- The tag of an entity type in documents and rows. -/
def tag : EntityType → String
  | .processInstance => "RUNTIME_PROCESS_INSTANCE"

/-- The entity type of a tag. -/
def ofTag? (s : String) : Option EntityType :=
  if s = tag .processInstance then some .processInstance else none

/-- How an entity type is called in a text for people. -/
def displayName : EntityType → String
  | .processInstance => "Process Instance"

/-- Reads an entity type. -/
def decode : Decoder EntityType := .name ofTag?

/-- Writes an entity type. -/
def encode (e : EntityType) : Json := .string e.tag

end EntityType

/-- What became of a source instance. -/
structure MappingRecord where
  legacyId : String
  entityType : EntityType
  targetKey : Option Int
  startDate : Option Instant
  skipReason : Option String
  deriving DecidableEq, Repr

namespace MappingRecord

/-- The record of an instance that was carried over. -/
def migrated (legacyId : String) (targetKey : Int) (startDate : Option Instant) : MappingRecord :=
  ⟨legacyId, .processInstance, some targetKey, startDate, none⟩

/-- The record of an instance that was left behind. -/
def skipped (legacyId : String) (startDate : Option Instant) (reason : String) : MappingRecord :=
  ⟨legacyId, .processInstance, none, startDate, some reason⟩

/-- The record has no target instance. -/
def isSkipped (r : MappingRecord) : Bool := r.targetKey.isNone

/-- Reads a record. -/
def decode : Decoder MappingRecord :=
  .record ["legacy_id", "entity_type", "target_key", "start_date", "skip_reason"] fun r => do
    let legacyId ← r.required "legacy_id" .text
    let entityType ← r.required "entity_type" EntityType.decode
    let targetKey ← r.orNull "target_key" .int64
    let startDate ← r.orNull "start_date" .instant
    let skipReason ← r.orNull "skip_reason" .text
    return ⟨legacyId, entityType, targetKey, startDate, skipReason⟩

/-- Writes a record. -/
def encode (r : MappingRecord) : Json :=
  .object [("legacy_id", .string r.legacyId), ("entity_type", r.entityType.encode),
    ("target_key", .ofInt? r.targetKey),
    ("start_date", match r.startDate with | some t => .string t.text | none => .null),
    ("skip_reason", .ofText? r.skipReason)]

end MappingRecord
end ProcessMigration
