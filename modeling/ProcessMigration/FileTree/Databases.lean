import ProcessMigration.FileTree
import ProcessMigration.Mapping.Address
import ProcessMigration.Mapping.Store

/-!
# Databases in files

A database in a file is opened by its address and written back after every change. The path of a
database is taken by its text: two points take back the step before them, whether or not there is a
directory, and slashes at the end do not count. A file of at most one byte is an empty database, and
a missing file is made, empty, when the database is opened.

Other files stand beside a database that is in use: a log of the changes to come, and while it is
changed the pages from before. Where the second cannot be made the database cannot be changed, and a
directory in the place of either may leave it of no use at all. What an earlier use has left there is
taken away.

* `FileTree.openDatabase` opens a database;
* `FileTree.runStore` runs an operation of the mapping store on it.
-/

namespace ProcessMigration

/-- A database that is open. -/
structure OpenDatabase where
  database : Database
  /-- Where it is kept, unless it is in memory. -/
  place : Option Place := none
  writable : Bool := true
  /-- Why it is of no use. -/
  fault : Option DatabaseError := none

namespace FileTree

/-- The greatest number of bytes of the path from the root to a database. -/
def maxDatabasePath : Nat := 504

/-- The greatest number of bytes of the path from the root on the way to a database. -/
def maxPathOnTheWay : Nat := 511

/-- The number of bytes of the path from the root to a place. -/
def pathSize (place : Place) : Nat := place.foldl (fun size name => size + name.utf8ByteSize + 1) 0

/-- The file cannot be opened. -/
def cannotOpen {α : Type} (path : String) : Except DatabaseError α :=
  .error (.file ("unable to open database file: " ++ path))

/-- The place beside a database whose name ends like this. -/
def beside (ending : String) (place : Place) : Place :=
  place.dropLast ++ [(place.getLast?.getD "") ++ ending]

/-- How the names of the files beside a database end. -/
def besideEndings : List String := ["-journal", "-wal"]

/-- The place of the pages from before a change. -/
def sidePlace : Place → Place := beside "-journal"

/-- The place of the log of the changes to come. -/
def logPlace : Place → Place := beside "-wal"

/-- A name can be looked up at this place: it is not too long for a directory that is there, and no
file is on the way. -/
def canLookUp (t : FileTree) (place : Place) : Bool :=
  match t.follow [] place with
  | .ok _ | .error .notFound => true
  | .error _ => false

/-- The place that the steps of a path to a database lead to. -/
def databasePlace? (t : FileTree) (place : Place) : List String → Option Place
  | [] => some place
  | name :: rest =>
    if name.isEmpty || name == "." then databasePlace? t place rest
    else if name == ".." then databasePlace? t place.dropLast rest
    else
      let next := place ++ [name]
      if pathSize next ≤ maxPathOnTheWay && t.canLookUp next then databasePlace? t next rest
      else none

/-- The pages from before a change of the database at a place can be kept. -/
def canMakeSide (t : FileTree) (place : Place) : Bool :=
  match t.follow [] (sidePlace place) with
  | .ok side => t.at? side != some .directory
  | .error _ => false

/-- The database in a file with this content. -/
def databaseIn? : FileContent → Option Database
  | .database db => some db
  | .text s => if s.utf8ByteSize ≤ 1 then some .empty else none
  | .bytes count => if count ≤ 1 then some .empty else none

/-- A file with something in it is at a place. -/
def isFilled (t : FileTree) (place : Place) : Bool :=
  match t.at? place with
  | some (.file content) => content != .text ""
  | _ => false

/-- The pages at a place are from a change that was broken off: their first byte is no null. -/
def isBrokenOff (t : FileTree) (place : Place) : Bool :=
  match t.at? place with
  | some (.file (.text s)) => s.toList.head?.any fun c => c.toNat != 0
  | _ => t.isFilled place

/-- What stands beside the database at a place lets it be read. In a frozen file nothing else
counts. -/
def letsRead (t : FileTree) (a : DatabaseAddress) (place : Place) (isNew : Bool) : Bool :=
  let side := sidePlace place
  let blocked := t.at? side == some .directory || (!a.isWritable && t.isBrokenOff side)
  a.frozen || (t.at? (logPlace place) != some .directory && (isNew || !blocked))

/-- The tree without what is at a place. -/
def without (t : FileTree) (place : Place) : FileTree :=
  { t with nodes := t.nodes.erase (key place) }

/-- The tree without what an earlier use has left beside the database at a place. Pages from before
a change go only where the database may be changed; so does the log, but for a new database. -/
def cleared (t : FileTree) (a : DatabaseAddress) (place : Place) (isNew : Bool) : FileTree :=
  let log := logPlace place
  let side := sidePlace place
  let t := if !a.frozen && (a.isWritable || isNew) && t.isFilled log then t.without log else t
  if a.isWritable && t.isBrokenOff side then t.without side else t

/-- What is known of the database at a place once it is opened. -/
def opened (t : FileTree) (a : DatabaseAddress) (place : Place) (found : Option Database) :
    OpenDatabase × FileTree :=
  let isNew := found == some .empty
  let o : OpenDatabase :=
    { database := found.getD .empty, place, writable := a.isWritable && t.canMakeSide place }
  if t.letsRead a place isNew then
    let fault := if found.isNone then some (.file "file is not a database") else none
    ({ o with fault }, t.cleared a place isNew)
  else ({ o with fault := some (.file "disk I/O error") }, t)

/-- Opens the database in the file at a place. -/
def openAt (t : FileTree) (a : DatabaseAddress) (place : Place) :
    Except DatabaseError (OpenDatabase × FileTree) :=
  match t.at? place with
  | some (.file content) => .ok (t.opened a place (databaseIn? content))
  | some _ => cannotOpen a.path
  | none =>
    if a.access = .create ∧ t.at? place.dropLast = some .directory then
      .ok ((t.put place (.file (.text ""))).opened a place (some .empty))
    else cannotOpen a.path

/-- Opens the database of an address. -/
def openDatabase (t : FileTree) (a : DatabaseAddress) :
    Except DatabaseError (OpenDatabase × FileTree) :=
  if a.inMemory then .ok ({ database := .empty, writable := a.isWritable }, t)
  else
    match t.databasePlace? (t.start a.path) (Path.parts a.path) with
    | none => cannotOpen a.path
    | some place =>
      if place.isEmpty || maxDatabasePath < pathSize place then cannotOpen a.path
      else t.openAt a place

/-- The tree with a database written back. The file beside it goes. -/
def keep (t : FileTree) (o : OpenDatabase) : FileTree :=
  match o.place with
  | none => t
  | some place => (t.put place (.file (.database o.database))).without (sidePlace place)

/-- The tree after a change of a database, if there was one. -/
def save (t : FileTree) (o : OpenDatabase) (database : Database) : FileTree :=
  if database = o.database then t else t.keep { o with database }

/-- Runs an operation on a database that is open, and writes the database back if it has changed. -/
def runStore {α : Type} (t : FileTree) (o : OpenDatabase) (x : StoreAction α) :
    Except StoreError α × OpenDatabase × FileTree :=
  match o.fault with
  | some e => (.error (.database e), o, t)
  | none =>
    let (r, database) := x.run o.database
    if o.writable || database = o.database then (r, { o with database }, t.save o database)
    else (.error (.database .readOnly), o, t)

end FileTree
end ProcessMigration
