import ProcessMigration.Action
import ProcessMigration.Mapping.Database
import ProcessMigration.Source.Instance
import ProcessMigration.Text.Quoted

/-!
# The mapping store

The mapping store keeps the mapping records in two tables of a database, whose names begin with a
chosen prefix: one for the records, one for the version of the schema.

* A record is **inserted** once; its id must be new.
* A skipped record can be **flipped** to migrated; nothing else changes a record.
* Listings are sorted by start date and id, and cut by offset and limit.
* `migrate` brings the schema up to date, `dropSchema` removes it.

Every operation is an action on the database; one that fails changes nothing, but for the tables
that `migrate` has made before it fails.
-/

namespace ProcessMigration

/-- Why a store operation fails. -/
inductive StoreError where
  | database (cause : DatabaseError)
  | duplicateKey (legacyId : String)
  | notSkipped (legacyId : String)
  | invalidTablePrefix (tablePrefix : String)
  | unsupportedVersion (found : Int)
  deriving DecidableEq, Repr

/-- The version of the schema that this store writes. -/
def schemaVersion : Int := 1

/-- The wording of a store error. -/
def StoreError.message : StoreError → String
  | .database cause => "sqlite error: " ++ cause.message
  | .duplicateKey id => "mapping for legacy id " ++ id ++ " already exists"
  | .notSkipped id => "legacy id " ++ id ++ " has no skipped mapping to update"
  | .invalidTablePrefix p =>
    "invalid table prefix " ++ Text.quoted p
      ++ ": only ASCII letters, digits and '_' are allowed"
  | .unsupportedVersion found =>
    "unsupported schema version " ++ toString found ++ ", max supported " ++ toString schemaVersion

/-- The wording of a store error, followed by that of its cause. -/
def StoreError.chain (e : StoreError) : List String :=
  match e with
  | .database cause => [e.message, cause.message]
  | _ => [e.message]

/-- The tables of a store, by the prefix of their names. -/
structure StoreTables where
  tablePrefix : String
  deriving DecidableEq, Repr

namespace StoreTables

/-- The tables of a prefix of ASCII letters, digits and underscores. -/
def ofPrefix (p : String) : Except StoreError StoreTables :=
  if p.toList.all fun c => c.isAlphanum || c = '_' then .ok ⟨p⟩ else .error (.invalidTablePrefix p)

/-- The table of the records. -/
def mapping (t : StoreTables) : String := t.tablePrefix ++ "migration_mapping"

/-- The table of the schema versions. -/
def versions (t : StoreTables) : String := t.tablePrefix ++ "schema_migrations"

/-- The index for the listings. -/
def orderIndex (t : StoreTables) : String := t.tablePrefix ++ "idx_migration_mapping_order"

/-- The index for the target keys. -/
def targetIndex (t : StoreTables) : String := t.tablePrefix ++ "idx_migration_mapping_target"

end StoreTables

/-- An operation of the store. -/
abbrev StoreAction (α : Type) := Action Database StoreError α

namespace Store

/-- A question to the database. -/
def ask {α : Type} (question : Database → Except DatabaseError α) : StoreAction α := fun db =>
  ((question db).mapError .database, db)

/-- A change of the database. -/
def change (f : Database → Except DatabaseError Database) : StoreAction Unit := fun db =>
  match f db with
  | .ok db => (.ok (), db)
  | .error e => (.error (.database e), db)

/-! ## Schema -/

/-- The version of the schema: the greatest that is noted, zero before the first. -/
def version (t : StoreTables) : StoreAction Int :=
  ask fun db =>
    if db.hasTableNamed t.versions then
      (db.versions t.versions).map fun numbers =>
        match numbers with
        | [] => 0
        | n :: rest => rest.foldl max n
    else .ok 0

/-- The table of the records is there under exactly its name. -/
def tableExists (t : StoreTables) : StoreAction Bool :=
  ask fun db => .ok (db.hasTableNamed t.mapping)

/-- Brings the schema up to date. -/
def migrate (t : StoreTables) : StoreAction Unit := do
  change fun db => db.createTable t.versions (.versions [])
  let current ← version t
  if schemaVersion < current then Action.fail (.unsupportedVersion current)
  else if current < 1 then
    change fun db => db.createTable t.mapping (.mapping [])
    change fun db => db.createIndex t.orderIndex t.mapping
    change fun db => db.createIndex t.targetIndex t.mapping
    change fun db => db.insertVersion t.versions 1
  else return ()

/-- Opens the store of a prefix, making its tables if they are missing. -/
def «open» (tablePrefix : String) : StoreAction StoreTables := do
  let t ← Action.ofExcept (StoreTables.ofPrefix tablePrefix)
  migrate t
  return t

/-- Removes the records and the schema versions. -/
def dropSchema (t : StoreTables) : StoreAction Unit :=
  change fun db => .ok ((db.dropTable t.mapping).dropTable t.versions)

/-! ## Single records -/

/-- The row of an id. -/
def row? (t : StoreTables) (legacyId : String) : StoreAction (Option Row) :=
  ask fun db => (db.rows t.mapping).map (·.find? fun r => r.legacyId == legacyId)

/-- There is a record of this id. -/
def «exists» (t : StoreTables) (legacyId : String) : StoreAction Bool := do
  return (← row? t legacyId).isSome

/-- The record of a row that was found. -/
def read (r : Row) : Except StoreError MappingRecord :=
  r.record.mapError fun (column, cause) => .database (.unreadable column cause)

/-- The record of an id. -/
def find? (t : StoreTables) (legacyId : String) : StoreAction (Option MappingRecord) := do
  match ← row? t legacyId with
  | none => return none
  | some r => return some (← Action.ofExcept (read r))

/-- The target key of an id that was migrated. -/
def targetKey? (t : StoreTables) (legacyId : String) : StoreAction (Option Int) := do
  return (← row? t legacyId).bind (·.targetKey)

/-- Adds a record, whose id must be new. -/
def insert (t : StoreTables) (r : MappingRecord) : StoreAction Unit := fun db =>
  match db.insertRow t.mapping (.ofRecord r) with
  | .ok db => (.ok (), db)
  | .error (.notUnique _ _) => (.error (.duplicateKey r.legacyId), db)
  | .error e => (.error (.database e), db)

/-- A skipped row with this target key instead of its reason. -/
def flipped (targetKey : Int) (r : Row) : Row :=
  { r with targetKey := some targetKey, skipReason := none }

/-- Turns the skipped record of an id into a migrated one. -/
def update (t : StoreTables) (legacyId : String) (targetKey : Int) : StoreAction Unit := fun db =>
  match db.rows t.mapping with
  | .error e => (.error (.database e), db)
  | .ok rows =>
    let toFlip (r : Row) : Bool := r.legacyId == legacyId && r.isSkipped
    if rows.any toFlip then
      (.ok (), db.setContent t.mapping
        (.mapping (rows.map fun r => if toFlip r then flipped targetKey r else r)))
    else (.error (.notSkipped legacyId), db)

/-! ## Listings -/

/-- A number of 64 bits read as a signed one. -/
def signed (n : Nat) : Int := (n : Int).bmod 0x10000000000000000

/-- A cut of a listing. A negative limit is no limit, a negative offset is none. -/
def cut {α : Type} (offset limit : Nat) (xs : List α) : List α :=
  let rest := xs.drop (signed offset).toNat
  if signed limit < 0 then rest else rest.take (signed limit).toNat

/-- A page of the rows of a type that satisfy a condition. -/
def page (t : StoreTables) (type : EntityType) (keep : Row → Bool) (offset limit : Nat) :
    StoreAction (List MappingRecord) := do
  let rows ← ask fun db => db.rows t.mapping
  Action.ofExcept
    ((cut offset limit (Row.sorted (rows.filter fun r => r.isOf type && keep r))).mapM read)

/-- A page of the skipped records. -/
def skipped (t : StoreTables) (type : EntityType) (offset limit : Nat) :
    StoreAction (List MappingRecord) :=
  page t type Row.isSkipped offset limit

/-- A page of the migrated records. -/
def migrated (t : StoreTables) (type : EntityType) (offset limit : Nat) :
    StoreAction (List MappingRecord) :=
  page t type Row.isMigrated offset limit

/-- The number of rows of a type that satisfy a condition. -/
def count (t : StoreTables) (type : EntityType) (keep : Row → Bool) : StoreAction Nat :=
  ask fun db => (db.rows t.mapping).map (·.countP fun r => r.isOf type && keep r)

/-- The number of skipped records. -/
def countSkipped (t : StoreTables) (type : EntityType) : StoreAction Nat :=
  count t type Row.isSkipped

/-- The number of migrated records. -/
def countMigrated (t : StoreTables) (type : EntityType) : StoreAction Nat :=
  count t type Row.isMigrated

/-- The place of the last record of a type in the order of the listings. -/
def latest? (t : StoreTables) (type : EntityType) : StoreAction (Option Cursor) := do
  let rows ← ask fun db => db.rows t.mapping
  match (Row.sorted (rows.filter (Row.isOf type))).getLast? with
  | none => return none
  | some r =>
    match Row.readDate r.startDate with
    | .ok date => return some ⟨date, r.legacyId⟩
    | .error e => Action.fail (.database (.unreadable 1 e))

/-- The records of a type, migrated and skipped ones apart, and the place of the last of them. -/
structure Contents where
  migrated : List MappingRecord
  skipped : List MappingRecord
  latest : Option Cursor
  deriving DecidableEq, Repr

/-- Reads the records of a type, at most so many of each kind. -/
def contents (t : StoreTables) (type : EntityType) (limit : Nat) : StoreAction Contents := do
  let migrated ← Store.migrated t type 0 limit
  let skipped ← Store.skipped t type 0 limit
  let latest ← latest? t type
  return { migrated, skipped, latest }

/-- Writes the contents of a store. -/
def Contents.encode (c : Contents) : Json :=
  .object [("migrated", .array (c.migrated.map MappingRecord.encode)),
    ("skipped", .array (c.skipped.map MappingRecord.encode)),
    ("latest", match c.latest with | some place => place.encode | none => .null)]

/-! ## Transactions -/

/-- Runs operations and keeps their changes only if they are committed. -/
def transaction {α : Type} (commit : Bool) (x : StoreAction α) : StoreAction α := fun db =>
  match x db with
  | (r, changed) => (r, if commit then changed else db)

end Store
end ProcessMigration
