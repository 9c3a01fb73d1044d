import ProcessMigration.FileTree
import ProcessMigration.Mapping.File

/-!
# Files as bytes

How the contents of a file tree stand on a disk, and which places on the disk a path leads through.

* `FileContent.ofBytes` tells a text, a database and other bytes from each other;
* `FileTree.placesOn` lists the places on the way to a path;
* `FileTree.changes` and `FileTree.removals` tell what a run has made of a tree.
-/

namespace ProcessMigration

namespace FileContent

/-- The first byte of a file that keeps a database. No text begins with it. -/
def databaseMark : UInt8 := 255

/-- The database that a file with these bytes keeps. -/
def databaseOfBytes? (bytes : ByteArray) : Option Database :=
  if bytes[0]? = some databaseMark then
    (String.fromUTF8? (bytes.extract 1 bytes.size)).bind Database.ofFileText?
  else none

/-- The content of a file with these bytes. -/
def ofBytes (bytes : ByteArray) : FileContent :=
  match String.fromUTF8? bytes with
  | some s => .text s
  | none =>
    match databaseOfBytes? bytes with
    | some db => .database db
    | none => .bytes bytes.size

/-- The bytes of a file, if they are known. -/
def toBytes? : FileContent → Option ByteArray
  | .text s => some s.toUTF8
  | .database db => some (ByteArray.mk #[databaseMark] ++ db.fileText.toUTF8)
  | .bytes _ => none

end FileContent

namespace FileTree

/-- The place of a step, whatever is there. -/
def textualStep (place : Place) (name : String) : Place :=
  if name.isEmpty || name == "." then place
  else if name == ".." then place.dropLast
  else place ++ [name]

/-- The places that a path leads through if every directory on the way is there. -/
def placesOn (t : FileTree) (path : String) : List Place :=
  let walk (places : List Place) (name : String) : List Place :=
    places ++ [textualStep (places.getLast?.getD (t.start path)) name]
  (Path.parts path).foldl walk []

/-- The path from the root to a place. -/
def diskPath (place : Place) : String := "/" ++ key place

/-- The paths from the root of what is new or different in a later tree, and what is there; a
directory comes before what is in it. -/
def changes (before after : FileTree) : List (String × FileNode) :=
  let changed := after.nodes.entries.filter fun (k, node) => before.nodes.get? k != some node
  changed.map fun (k, node) => ("/" ++ k, node)

/-- The paths from the root of the files that are gone from a later tree. -/
def removals (before after : FileTree) : List String :=
  let gone := before.nodes.entries.filter fun (k, _) => (after.nodes.get? k).isNone
  gone.map fun (k, _) => "/" ++ k

end FileTree
end ProcessMigration
