import ProcessMigration.Json.Decode
import ProcessMigration.Json.Printer
import ProcessMigration.Mapping.Database

/-!
# The file of a database

Between two runs a database is kept as a line of JSON text: its tables and its indexes in the order
in which they were made, each table with its rows or its version numbers.

* `Database.fileText` writes the text;
* `Database.ofFileText?` reads it; any other text is no database.
-/

namespace ProcessMigration

namespace Row

/-- Writes a row. -/
def encode (r : Row) : Json :=
  .object [("legacyId", .string r.legacyId), ("entityType", .string r.entityType),
    ("targetKey", .ofInt? r.targetKey), ("startDate", .ofText? r.startDate),
    ("skipReason", .ofText? r.skipReason)]

/-- Reads a row. -/
def decode : Decoder Row :=
  .closedRecord ["legacyId", "entityType", "targetKey", "startDate", "skipReason"] fun r => do
    let legacyId ← r.required "legacyId" .text
    let entityType ← r.required "entityType" .text
    let targetKey ← r.optional "targetKey" .int64
    let startDate ← r.optional "startDate" .text
    let skipReason ← r.optional "skipReason" .text
    return { legacyId, entityType, targetKey, startDate, skipReason }

end Row

namespace Table

/-- Writes a table. -/
def encode (t : Table) : Json :=
  match t.content with
  | .mapping rows => .object [("name", .string t.name), ("rows", .array (rows.map Row.encode))]
  | .versions numbers =>
    .object [("name", .string t.name), ("versions", .array (numbers.map .int))]

/-- Reads a table: it has rows or version numbers, not both. -/
def decode : Decoder Table := .closedRecord ["name", "rows", "versions"] fun r => do
  let name ← r.required "name" .text
  match ← r.optional "rows" (.list Row.decode), ← r.optional "versions" (.list .int64) with
  | some rows, none => return { name, content := .mapping rows }
  | none, some numbers => return { name, content := .versions numbers }
  | _, _ => none

end Table

namespace Index

/-- Writes an index. -/
def encode (i : Index) : Json := .object [("name", .string i.name), ("table", .string i.table)]

/-- Reads an index. -/
def decode : Decoder Index := .closedRecord ["name", "table"] fun r => do
  let name ← r.required "name" .text
  let table ← r.required "table" .text
  return { name, table }

end Index

namespace Database

/-- Writes a database. -/
def encode (db : Database) : Json :=
  .object [("tables", .array (db.tables.map Table.encode)),
    ("indexes", .array (db.indexes.map Index.encode))]

/-- Reads a database. -/
def decode : Decoder Database := .closedRecord ["tables", "indexes"] fun r => do
  let tables ← r.required "tables" (.list Table.decode)
  let indexes ← r.required "indexes" (.list Index.decode)
  return { tables, indexes }

/-- The text of the file that keeps a database. -/
def fileText (db : Database) : String := db.encode.compact ++ "\n"

/-- The database that a file with this text keeps. -/
def ofFileText? (s : String) : Option Database := decode.ofText? s

end Database
end ProcessMigration
