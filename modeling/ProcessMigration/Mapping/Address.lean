import ProcessMigration.Json.Reader
import ProcessMigration.Mapping.Database

/-!
# Addresses of databases

A database is in memory or in a file. An address is a path, or a URI with the scheme `file`: a path
in which `%` and two digits stand for a byte, options after a question mark, and a fragment that does
not count.

* `DatabaseAddress.ofText` reads an address;
* an empty path and the path `:memory:` stand for a database in memory.
-/

namespace ProcessMigration

/-- How a database is opened. -/
inductive DatabaseAccess where
  /-- It is made if it is missing. -/
  | create
  | write
  | read
  | memory
  deriving DecidableEq, Repr

/-- Where a database is and how it is opened. -/
structure DatabaseAddress where
  path : String
  access : DatabaseAccess
  /-- The file is taken for one that nobody changes. -/
  frozen : Bool := false
  deriving DecidableEq, Repr

namespace DatabaseAccess

/-- The access of this name. -/
def ofName? : String → Option DatabaseAccess
  | "ro" => some .read
  | "rw" => some .write
  | "rwc" => some .create
  | "memory" => some .memory
  | _ => none

/-- What one kind of access admits of the others: a database that is made may be written, and one
that is written may be read. -/
def rank : DatabaseAccess → Nat
  | .read => 1
  | .write => 2
  | .create => 6
  | .memory => 128

/-- The access `next` may be chosen where `a` was given. -/
def admits (a next : DatabaseAccess) : Bool := next = .memory || next.rank ≤ a.rank

end DatabaseAccess

namespace DatabaseAddress

/-- The database is in memory. -/
def inMemory (a : DatabaseAddress) : Bool :=
  a.access = .memory || a.path.isEmpty || a.path == ":memory:"

/-- Statements may change the database. -/
def isWritable (a : DatabaseAddress) : Bool := a.access != .read && (a.inMemory || !a.frozen)

/-! ## URIs -/

/-- The bytes of a part of a URI. A null byte ends it. -/
def bytes : List Char → List UInt8
  | '%' :: a :: b :: rest =>
    match Document.hexDigit? a, Document.hexDigit? b with
    | some high, some low =>
      if high = 0 ∧ low = 0 then [] else (high * 16 + low).toUInt8 :: bytes rest
    | _, _ => '%'.toNat.toUInt8 :: bytes (a :: b :: rest)
  | c :: rest => (String.singleton c).toUTF8.toList ++ bytes rest
  | [] => []

/-- The text of a part of a URI; a part that is no text stays as it is written. -/
def decoded (part : String) : String :=
  (String.fromUTF8? ⟨(bytes part.toList).toArray⟩).getD part

/-- The part of a text before a mark, and the part after it if the mark is there. -/
def cut (mark : String) (s : String) : String × Option String :=
  match s.splitOn mark with
  | first :: second :: rest => (first, some (mark.intercalate (second :: rest)))
  | _ => (s, none)

/-- The options of a URI; those without a name do not count. -/
def options (query : String) : List (String × String) :=
  let pairs := (query.splitOn "&").map fun part =>
    let (name, value) := cut "=" part
    (decoded name, decoded (value.getD ""))
  pairs.filter fun (name, _) => !name.isEmpty

/-- The text of an option says yes: a number but zero, or a word. -/
def meansYes (value : String) : Bool :=
  let digits := value.toList.takeWhile Char.isDigit
  if digits.isEmpty then ["on", "yes", "true"].contains value.toLower
  else digits.foldl (fun n c => n * 10 + (c.toNat - '0'.toNat)) 0 % 256 != 0

/-- The storage layers that keep a database in a file. -/
def fileLayers : List String := ["unix", "unix-none", "unix-dotfile", "unix-excl"]

/-- The storage layer that keeps a database in memory. -/
def memoryLayer : String := "memdb"

/-- One option more: which storage layer, and how to open. -/
def withOption (a : DatabaseAddress) (name value : String) :
    Except DatabaseError DatabaseAddress :=
  match name with
  | "mode" =>
    match DatabaseAccess.ofName? value with
    | none => .error (.file ("no such access mode: " ++ value))
    | some access =>
      if a.access.admits access then .ok { a with access }
      else .error (.file ("access mode not allowed: " ++ value))
  | "cache" =>
    if value = "shared" ∨ value = "private" then .ok a
    else .error (.file ("no such cache mode: " ++ value))
  | _ => .ok a

/-- Many options more. -/
def withOptions (a : DatabaseAddress) : List (String × String) →
    Except DatabaseError DatabaseAddress
  | [] => .ok a
  | (name, value) :: rest =>
    match a.withOption name value with
    | .ok a => withOptions a rest
    | .error e => .error e

/-- The address in its storage layer, which the last option of this name chooses. -/
def onLayer (a : DatabaseAddress) (given : List (String × String)) :
    Except DatabaseError DatabaseAddress :=
  match given.reverse.lookup "vfs" with
  | none => .ok a
  | some layer =>
    if fileLayers.contains layer then .ok a
    else if layer ≠ memoryLayer then .error (.file ("no such vfs: " ++ layer))
    else if a.inMemory then .ok a
    else .ok { a with path := "", access := if a.frozen then .read else a.access }

/-- The URI without its host, which must be this one. -/
def withoutHost (rest : String) : Except DatabaseError String :=
  match rest.toList with
  | '/' :: '/' :: cs =>
    let host := String.ofList (cs.takeWhile (· != '/'))
    if host = "" ∨ host = "localhost" then .ok (String.ofList (cs.dropWhile (· != '/')))
    else .error (.file ("invalid uri authority: " ++ host))
  | _ => .ok rest

/-- Reads a URI after its scheme. -/
def ofUri (rest : String) : Except DatabaseError DatabaseAddress :=
  match withoutHost rest with
  | .error e => .error e
  | .ok rest =>
    let (path, query) := cut "?" (cut "#" rest).1
    let given := options (query.getD "")
    let frozen := meansYes ((given.lookup "immutable").getD "")
    match withOptions ⟨decoded path, .create, frozen⟩ given with
    | .error e => .error e
    | .ok a => a.onLayer given

/-- The scheme of a file. -/
def scheme : String := "file:"

/-- Reads an address. -/
def ofText (s : String) : Except DatabaseError DatabaseAddress :=
  if s.toList.any fun c => c.toNat = 0 then .error (.file "nul byte found in provided data")
  else if scheme.isPrefixOf s then ofUri (String.ofList (s.toList.drop scheme.length))
  else .ok ⟨s, .create, false⟩

end DatabaseAddress
end ProcessMigration
