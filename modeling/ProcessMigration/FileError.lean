/-!
# Failures of files

What can go wrong when a file is read or written, and what the operating system says about it.
-/

namespace ProcessMigration

/-- Why a file cannot be read or written. -/
inductive FileError where
  | notFound
  | isDirectory
  | notDirectory
  /-- There is something where something new was to be made. -/
  | alreadyThere
  /-- The path or one of its names has too many bytes. -/
  | nameTooLong
  /-- No path holds the null character. -/
  | nullCharacter
  /-- The bytes are no text. -/
  | notText
  deriving DecidableEq, Repr

/-- The wording of a file error. -/
def FileError.message : FileError → String
  | .notFound => "No such file or directory (os error 2)"
  | .isDirectory => "Is a directory (os error 21)"
  | .notDirectory => "Not a directory (os error 20)"
  | .alreadyThere => "File exists (os error 17)"
  | .nameTooLong => "File name too long (os error 36)"
  | .nullCharacter => "file name contained an unexpected NUL byte"
  | .notText => "stream did not contain valid UTF-8"

/-- Why the state of an engine cannot be loaded from a file. -/
inductive LoadError where
  | file (path : String) (cause : FileError)
  | json (path : String)
  /-- A line of the journal is no entry. -/
  | undecodable (path : String) (line : Nat)
  /-- A line of the journal does not fit the lines before it. -/
  | inapplicable (path : String) (line : Nat) (message : String)
  deriving DecidableEq, Repr

/-- The wording of a load error, followed by that of its cause. -/
def LoadError.chain : LoadError → List String
  | .file path cause => ["io error on " ++ path ++ ": " ++ cause.message, cause.message]
  | .json path => ["invalid json in " ++ path]
  | .undecodable path line => ["journal " ++ path ++ " line " ++ toString line]
  | .inapplicable path line message =>
    ["journal " ++ path ++ " line " ++ toString line ++ ": " ++ message]

end ProcessMigration
