import ProcessMigration.Mapping.Database
import ProcessMigration.Path
import ProcessMigration.SortedMap

/-!
# Files and directories

The part of a file system that a program works in: directories, and files that hold a text, a
database, or bytes that are neither. A **place** is the list of the names on the way from the root; a
path leads to a place, and every step on the way must start from a directory that is there.

* `FileTree.locate` follows a path, `FileTree.readText` reads the file at its end;
* `FileTree.write` and `FileTree.append` put a file into a directory that is there;
* `FileTree.makeDirectories` makes a directory and those above it. What it has made stays when it
  fails further down.
-/

namespace ProcessMigration

/-- What a file holds. -/
inductive FileContent where
  | text (s : String)
  | database (db : Database)
  /-- So many bytes that are neither. -/
  | bytes (count : Nat)
  deriving DecidableEq, Repr, Inhabited

/-- What a file holds once a text is added to its end. A database does not care for what comes after
it. -/
def FileContent.extended (s : String) : FileContent → FileContent
  | .text old => .text (old ++ s)
  | .database db => .database db
  | .bytes count => .bytes (count + s.utf8ByteSize)

/-- What is at a place. -/
inductive FileNode where
  | directory
  | file (content : FileContent)
  /-- A device that is always empty, whatever is written to it. -/
  | void
  deriving DecidableEq, Repr, Inhabited

/-- The names on the way from the root. -/
abbrev Place := List String

/-- The files and directories that are known, by the names of their places, and the working
directory. -/
structure FileTree where
  nodes : SortedMap FileNode
  here : Place
  deriving DecidableEq

namespace FileTree

/-! ## Places -/

/-- The key of a place. -/
def key (place : Place) : String := "/".intercalate place

/-- What is at a place. The root is a directory. -/
def at? (t : FileTree) (place : Place) : Option FileNode :=
  if place.isEmpty then some .directory else t.nodes.get? (key place)

/-- The tree with something else at a place. -/
def put (t : FileTree) (place : Place) (node : FileNode) : FileTree :=
  { t with nodes := t.nodes.insert (key place) node }

/-- The directories that every system has at its root. -/
def systemDirectories : List String :=
  ["bin", "dev", "etc", "home", "lib", "proc", "root", "sys", "tmp", "usr", "var"]

/-- An empty working directory at a place, with those above it and what every system has. -/
def workingAt (here : Place) : FileTree :=
  let bare : FileTree := ⟨.empty, here⟩
  let system := systemDirectories.foldl (fun t name => t.put [name] .directory) bare
  let above := (List.range here.length).map fun n => here.take (n + 1)
  above.foldl (fun t place => t.put place .directory) (system.put ["dev", "null"] .void)

/-- An empty working directory. -/
def empty : FileTree := workingAt ["tmp", "workspace"]

instance : Inhabited FileTree := ⟨empty⟩

/-! ## Following a path -/

/-- Where a path starts. -/
def start (t : FileTree) (path : String) : Place := if Path.isAbsolute path then [] else t.here

/-- Where a step from a place leads; the place must be a directory. -/
def step (t : FileTree) (place : Place) (name : String) : Except FileError Place :=
  match t.at? place with
  | none => .error .notFound
  | some .directory =>
    if name.isEmpty || name == "." then .ok place
    else if name == ".." then .ok place.dropLast
    else if Path.maxNameLength < name.utf8ByteSize then .error .nameTooLong
    else .ok (place ++ [name])
  | some _ => .error .notDirectory

/-- Where some steps from a place lead, one after the other. -/
def follow (t : FileTree) (place : Place) : List String → Except FileError Place
  | [] => .ok place
  | name :: rest =>
    match t.step place name with
    | .ok place => follow t place rest
    | .error e => .error e

/-- The place that a path leads to, whatever is there. -/
def locate (t : FileTree) (path : String) : Except FileError Place :=
  match Path.check path with
  | .ok () => t.follow (t.start path) (Path.parts path)
  | .error e => .error e

/-- The place that a path leads to if the slashes at its end do not count. -/
def locateNew (t : FileTree) (path : String) : Except FileError Place :=
  match Path.check path with
  | .ok () => t.follow (t.start path) (Path.partsToLast path)
  | .error e => .error e

/-- What is at the end of a path. -/
def find (t : FileTree) (path : String) : Except FileError FileNode :=
  match t.locate path with
  | .error e => .error e
  | .ok place =>
    match t.at? place with
    | some node => .ok node
    | none => .error .notFound

/-- There is something at the end of a path. -/
def «exists» (t : FileTree) (path : String) : Bool := (t.find path).isOk

/-- There is a directory at the end of a path. -/
def isDirectory (t : FileTree) (path : String) : Bool :=
  match t.find path with
  | .ok .directory => true
  | _ => false

/-! ## Reading -/

/-- The text of the file at a path. -/
def readText (t : FileTree) (path : String) : Except FileError String :=
  match t.find path with
  | .error e => .error e
  | .ok .directory => .error .isDirectory
  | .ok .void => .ok ""
  | .ok (.file (.text s)) => .ok s
  | .ok (.file _) => .error .notText

/-! ## Writing -/

/-- The place of the file that is written at a path: its directory must be there, and no directory
may be in its stead or be meant. -/
def locateFile (t : FileTree) (path : String) : Except FileError Place :=
  if Path.meansDirectory path then
    match Path.check path, t.follow (t.start path) ((Path.partsToLast path).dropLast ++ ["."]) with
    | .error e, _ | _, .error e => .error e
    | .ok (), .ok _ => .error .isDirectory
  else
    match t.locate path with
    | .error e => .error e
    | .ok place => if t.at? place = some .directory then .error .isDirectory else .ok place

/-- Puts a file at a path. -/
def write (t : FileTree) (path : String) (content : FileContent) : Except FileError FileTree :=
  match t.locateFile path with
  | .error e => .error e
  | .ok place => .ok (if t.at? place = some .void then t else t.put place (.file content))

/-- Adds a text to the end of the file at a path, which is made if it is missing. -/
def append (t : FileTree) (path : String) (s : String) : Except FileError FileTree :=
  match t.locateFile path with
  | .error e => .error e
  | .ok place =>
    match t.at? place with
    | none => .ok (t.put place (.file (.text s)))
    | some (.file content) => .ok (t.put place (.file (content.extended s)))
    | some _ => .ok t

/-- Makes a directory in one that is there. -/
def makeDirectory (t : FileTree) (path : String) : Except FileError FileTree :=
  match t.locateNew path with
  | .error e => .error e
  | .ok place =>
    match t.at? place with
    | some _ => .error .alreadyThere
    | none => .ok (t.put place .directory)

/-- Makes a directory unless it is there. -/
def ensureDirectory (t : FileTree) (path : String) : Except FileError Unit × FileTree :=
  match t.makeDirectory path with
  | .ok t => (.ok (), t)
  | .error e => (if t.isDirectory path then .ok () else .error e, t)

/-- Makes the first of these directories; where it lacks the one above it, the next is made
before. -/
def makeChain (t : FileTree) : List String → Except FileError Unit × FileTree
  | [] => (.ok (), t)
  | path :: above =>
    match t.ensureDirectory path with
    | (.error .notFound, t) =>
      match makeChain t above with
      | (.ok (), t) => t.ensureDirectory path
      | failed => failed
    | done => done

/-- Makes a directory and those above it, as far as they are missing. -/
def makeDirectories (t : FileTree) (path : String) : Except FileError Unit × FileTree :=
  t.makeChain (Path.chain path)

/-- Makes the directory that a path is in, and those above it. -/
def makeParent (t : FileTree) (path : String) : Except FileError Unit × FileTree :=
  t.makeDirectories ((Path.parent? path).getD "")

/-- Puts a file at a path and makes the directories above it. -/
def place (t : FileTree) (path : String) (content : FileContent) : Except FileError FileTree :=
  match t.makeParent path with
  | (.error e, _) => .error e
  | (.ok (), t) => t.write path content

/-- Takes away what is at a path, with all that is below it. -/
def remove (t : FileTree) (path : String) : FileTree :=
  match t.locate path with
  | .error _ => t
  | .ok place =>
    let gone (k : String) : Bool := k == key place || (key place ++ "/").isPrefixOf k
    { t with nodes := ⟨t.nodes.entries.filter fun e => !gone e.1, t.nodes.sorted.filter _⟩ }

end FileTree
end ProcessMigration
