import ProcessMigration.Mapping.Record
import ProcessMigration.Time.Strict

/-!
# Rows of the mapping table

A row is a mapping record as the database holds it: entity type and start date are texts. Dates are
written with six fraction digits and always in universal time, so that dates with a year of four
digits sort as texts the way they sort in time.

* `Row.ofRecord` writes a record, `Row.record` reads a row, complaining about the entity type first;
* `Row.lt` is the order of the listings: start date, a missing one first, then the id.
-/

namespace ProcessMigration

/-- A row of the mapping table. -/
structure Row where
  legacyId : String
  entityType : String
  targetKey : Option Int
  startDate : Option String
  skipReason : Option String
  deriving DecidableEq, Repr

/-- Why a column of a row cannot be read. -/
inductive ColumnError where
  | unknownEntityType (tag : String)
  | timestamp (text : String) (cause : Time.ReadError)
  deriving DecidableEq, Repr

/-- The wording of a column error. -/
def ColumnError.message : ColumnError → String
  | .unknownEntityType tag => "unknown entity type tag: " ++ tag
  | .timestamp text cause => "timestamp parse error: " ++ text ++ ": " ++ cause.message

namespace Row

/-- A record as a row. -/
def ofRecord (r : MappingRecord) : Row :=
  ⟨r.legacyId, r.entityType.tag, r.targetKey, r.startDate.map Instant.microText, r.skipReason⟩

/-- Exactly one of target key and skip reason is there. -/
def hasOneOutcome (r : Row) : Bool := r.targetKey.isNone != r.skipReason.isNone

/-- The row is about an entity of this type. -/
def isOf (t : EntityType) (r : Row) : Bool := r.entityType == t.tag

/-- The row says that its instance was skipped. -/
def isSkipped (r : Row) : Bool := r.skipReason.isSome

/-- The row says that its instance was migrated. -/
def isMigrated (r : Row) : Bool := r.targetKey.isSome

/-- The start date that a column holds. -/
def readDate : Option String → Except ColumnError (Option Instant)
  | none => .ok none
  | some text =>
    match ZonedTime.read text with
    | .ok z => .ok (some ⟨z.localSeconds - z.offset, z.nanos⟩)
    | .error e => .error (.timestamp text e)

/-- A row as a record, or the number of the column that cannot be read. -/
def record (r : Row) : Except (Nat × ColumnError) MappingRecord :=
  match EntityType.ofTag? r.entityType with
  | none => .error (1, .unknownEntityType r.entityType)
  | some t =>
    match readDate r.startDate with
    | .error e => .error (3, e)
    | .ok date => .ok ⟨r.legacyId, t, r.targetKey, date, r.skipReason⟩

/-- The order of dates as texts, a missing one first. -/
def dateLt : Option String → Option String → Bool
  | none, some _ => true
  | some a, some b => a < b
  | _, none => false

/-- The order of the listings. -/
def lt (a b : Row) : Bool :=
  dateLt a.startDate b.startDate || (a.startDate == b.startDate && a.legacyId < b.legacyId)

/-- Rows in the order of the listings. -/
def sorted (rows : List Row) : List Row := rows.mergeSort fun a b => !b.lt a

end Row
end ProcessMigration
