import ProcessMigration.Mapping.Row

/-!
# The database

A database holds tables and indexes under names that share one name space, in which capital and
small letters of ASCII are the same. There are two kinds of tables: mapping tables, and tables of
schema versions.

Making a table or an index that is there already changes nothing; dropping a table takes its indexes
with it.
-/

namespace ProcessMigration

/-- Why the database refuses a statement. -/
inductive DatabaseError where
  | noSuchTable (name : String)
  | outcomeCheck
  | notUnique (table column : String)
  | unreadable (column : Nat) (cause : ColumnError)
  | unrecognizedToken (token : String)
  | reservedName (name : String)
  | nameOfTable (name : String)
  | nameOfIndex (name : String)
  /-- The database may only be read. -/
  | readOnly
  /-- The file cannot be opened. -/
  | file (message : String)
  deriving DecidableEq, Repr

/-- The wording of a database error. -/
def DatabaseError.message : DatabaseError → String
  | .noSuchTable name => "no such table: " ++ name
  | .outcomeCheck => "CHECK constraint failed: (target_key IS NULL) <> (skip_reason IS NULL)"
  | .notUnique table column => "UNIQUE constraint failed: " ++ table ++ "." ++ column
  | .unreadable column cause =>
    "Conversion error from type Text at index: " ++ toString column ++ ", " ++ cause.message
  | .unrecognizedToken token => "unrecognized token: \"" ++ token ++ "\""
  | .reservedName name => "object name reserved for internal use: " ++ name
  | .nameOfTable name => "there is already a table named " ++ name
  | .nameOfIndex name => "there is already an index named " ++ name
  | .readOnly => "attempt to write a readonly database"
  | .file message => message

/-- What a table holds. -/
inductive TableContent where
  | mapping (rows : List Row)
  | versions (numbers : List Int)
  deriving DecidableEq, Repr

/-- A table, under the name it was made with. -/
structure Table where
  name : String
  content : TableContent
  deriving DecidableEq, Repr

/-- An index, under the name it was made with, and the name of its table. -/
structure Index where
  name : String
  table : String
  deriving DecidableEq, Repr

/-- Tables and indexes. -/
structure Database where
  tables : List Table
  indexes : List Index
  deriving DecidableEq, Repr

namespace Database

/-- A database that holds nothing. -/
def empty : Database := ⟨[], []⟩

instance : Inhabited Database := ⟨empty⟩

/-- The names are the same but for the case of ASCII letters. -/
def sameName (a b : String) : Bool := a.toList.map Char.toLower == b.toList.map Char.toLower

/-- The table of this name. -/
def table? (db : Database) (name : String) : Option Table :=
  db.tables.find? fun t => sameName t.name name

/-- There is a table made with exactly this name. -/
def hasTableNamed (db : Database) (name : String) : Bool := db.tables.any fun t => t.name == name

/-- There is an index of this name. -/
def hasIndex (db : Database) (name : String) : Bool := db.indexes.any fun i => sameName i.name name

/-- The beginning of the names that the database keeps for itself. -/
def reservedStart : String := "sqlite_"

/-- The database takes this name for a table or index. A name that begins with a digit is no name,
and some names are reserved. -/
def checkName (name : String) : Except DatabaseError Unit :=
  let cs := name.toList
  if (cs.head?.map Char.isDigit).getD false then .error (.unrecognizedToken name)
  else if sameName (String.ofList (cs.take reservedStart.length)) reservedStart then
    .error (.reservedName name)
  else .ok ()

/-- Makes a table unless it is there. -/
def createTable (db : Database) (name : String) (content : TableContent) :
    Except DatabaseError Database :=
  match checkName name with
  | .error e => .error e
  | .ok () =>
    if (db.table? name).isSome then .ok db
    else if db.hasIndex name then .error (.nameOfIndex name)
    else .ok { db with tables := db.tables ++ [⟨name, content⟩] }

/-- Makes an index of a table unless it is there. -/
def createIndex (db : Database) (name table : String) : Except DatabaseError Database :=
  match checkName name with
  | .error e => .error e
  | .ok () =>
    if (db.table? name).isSome then .error (.nameOfTable name)
    else if db.hasIndex name then .ok db
    else .ok { db with indexes := db.indexes ++ [⟨name, table⟩] }

/-- Drops a table with its indexes, if it is there. -/
def dropTable (db : Database) (name : String) : Database where
  tables := db.tables.filter fun t => !sameName t.name name
  indexes := db.indexes.filter fun i => !sameName i.table name

/-- Puts other content into a table. -/
def setContent (db : Database) (name : String) (content : TableContent) : Database :=
  { db with tables := db.tables.map fun t => if sameName t.name name then { t with content } else t }

/-- The rows of a mapping table. -/
def rows (db : Database) (name : String) : Except DatabaseError (List Row) :=
  match db.table? name with
  | some ⟨_, .mapping rows⟩ => .ok rows
  | _ => .error (.noSuchTable name)

/-- The numbers of a table of versions. -/
def versions (db : Database) (name : String) : Except DatabaseError (List Int) :=
  match db.table? name with
  | some ⟨_, .versions numbers⟩ => .ok numbers
  | _ => .error (.noSuchTable name)

/-- The name that a table was made with. -/
def nameAsMade (db : Database) (name : String) : String :=
  match db.table? name with
  | some t => t.name
  | none => name

/-- Adds a row to a mapping table. The outcome is checked before the id. -/
def insertRow (db : Database) (name : String) (row : Row) : Except DatabaseError Database :=
  match db.rows name with
  | .error e => .error e
  | .ok rows =>
    if !row.hasOneOutcome then .error .outcomeCheck
    else if rows.any fun r => r.legacyId == row.legacyId then
      .error (.notUnique (db.nameAsMade name) "legacy_id")
    else .ok (db.setContent name (.mapping (rows ++ [row])))

/-- Adds a number to a table of versions. -/
def insertVersion (db : Database) (name : String) (version : Int) :
    Except DatabaseError Database :=
  match db.versions name with
  | .error e => .error e
  | .ok numbers =>
    if numbers.contains version then .error (.notUnique (db.nameAsMade name) "version")
    else .ok (db.setContent name (.versions (numbers ++ [version])))

end Database
end ProcessMigration
