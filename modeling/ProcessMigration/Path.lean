import ProcessMigration.FileError

/-!
# Paths

A path is a text that names the steps to a file, with slashes between them. It starts at the root if
it begins with a slash, else at the working directory. Nothing and a point are steps that stay, two
points are a step up, and any other name is a step into a directory.

* `Path.check` refuses what is no path at all;
* `Path.parent?` is the path without its last step, `Path.chain` the path with all those before it.
-/

namespace ProcessMigration.Path

/-- The greatest number of bytes of a path. -/
def maxLength : Nat := 4095

/-- The greatest number of bytes of a name. -/
def maxNameLength : Nat := 255

/-- The text can be looked up as a path. -/
def check (path : String) : Except FileError Unit :=
  if path.toList.any fun c => c.toNat = 0 then .error .nullCharacter
  else if maxLength < path.utf8ByteSize then .error .nameTooLong
  else if path.isEmpty then .error .notFound
  else .ok ()

/-- The path starts at the root. -/
def isAbsolute (path : String) : Bool := path.toList.head? == some '/'

/-- The path ends with a slash, so only a directory can be at its end. -/
def meansDirectory (path : String) : Bool := path.toList.getLast? == some '/'

/-- The parts between the slashes. -/
def parts (path : String) : List String := path.splitOn "/"

/-- The parts of a path without the slashes at its end. -/
def partsToLast (path : String) : List String :=
  ((parts path).reverse.dropWhile String.isEmpty).reverse

/-- The parts that count: not the empty ones and the points, but a point at the beginning. -/
def steps (path : String) : List String :=
  let moves := (parts path).filter fun part => !part.isEmpty && part != "."
  if (parts path).head? == some "." then "." :: moves else moves

/-- The path of some steps, from the root or from the working directory. -/
def ofSteps (absolute : Bool) (steps : List String) : String :=
  (if absolute then "/" else "") ++ "/".intercalate steps

/-- The path without its last step. -/
def parent? (path : String) : Option String :=
  match steps path with
  | [] => none
  | all => ofSteps (isAbsolute path) all.dropLast

/-- The path, then the paths of the directories above it, the nearest first. -/
def chain (path : String) : List String :=
  match steps path with
  | [] => if path.isEmpty then [] else [path]
  | all =>
    let above := (List.range (all.length - 1)).reverse.map fun n => all.take (n + 1)
    path :: above.map (ofSteps (isAbsolute path))

end ProcessMigration.Path
