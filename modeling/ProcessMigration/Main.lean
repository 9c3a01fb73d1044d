import ProcessMigration.FileTree.Bytes
import ProcessMigration.Program

/-!
# Running the program

The outer layer: it collects the files that a run looks at, makes the run, and brings what has
changed back to the disk. What a run does is said by `Program.run`.
-/

namespace ProcessMigration

/-- What is at a path on the disk. -/
def nodeAt (path : String) : IO (Option FileNode) := do
  match ← (IO.FS.readBinFile path).toBaseIO with
  | .ok bytes => return some (.file (.ofBytes bytes))
  | .error (.noFileOrDirectory ..) => return none
  | .error (.inappropriateType ..) => return some .directory
  | .error _ => return none

/-- Adds what is on the disk at some places. -/
def addPlaces (files : FileTree) : List Place → IO FileTree
  | [] => return files
  | place :: rest => do
    match ← nodeAt (FileTree.diskPath place) with
    | some node => addPlaces (files.put place node) rest
    | none => addPlaces files rest

/-- Adds what is on the disk on the way to some paths. -/
def addPaths (files : FileTree) (paths : List String) : IO FileTree :=
  addPlaces files (paths.flatMap files.placesOn)

/-- Writes what has changed. -/
def writeBack : List (String × FileNode) → IO Unit
  | [] => return ()
  | (path, node) :: rest => do
    match node with
    | .directory => IO.FS.createDirAll path
    | .file content =>
      match content.toBytes? with
      | some bytes => IO.FS.writeBinFile path bytes
      | none => pure ()
    | .void => pure ()
    writeBack rest

end ProcessMigration

open ProcessMigration in
/-- Runs the program in the working directory. -/
def main (args : List String) : IO UInt32 := do
  let here := (← IO.currentDir).toString
  let bare := FileTree.workingAt (Path.steps here)
  let first ← addPaths bare (Program.paths args bare)
  let files ← addPaths first (Program.paths args first)
  let outcome := Program.run args files
  (← IO.getStdout).putStr outcome.printed
  match outcome.ending.remark? with
  | some remark => IO.eprintln ("runtime-migrator: " ++ remark)
  | none => pure ()
  (FileTree.removals files outcome.files).forM fun path => IO.FS.removeFile path
  writeBack (FileTree.changes files outcome.files)
  return outcome.ending.code.toUInt32
