import ProcessMigration.Json.Printer
import ProcessMigration.Text.Quoted
import ProcessMigration.Time.Pattern
import ProcessMigration.Time.Strict
import ProcessMigration.Variables.Pipeline

/-!
# The built-in interceptors

* `Interceptor.textual` hands JSON and XML over as their text, and makes every null variable null;
* `Interceptor.noFiles` refuses files;
* `DateFormat.interceptor` reformats dates by a pattern.
-/

namespace ProcessMigration

namespace Interceptor

/-- JSON and XML payloads travel as text. -/
def textual : Interceptor where
  name := "default"
  priority := 0
  scope := .universal
  execute v value :=
    match v.kind with
    | .json | .xml =>
      match value with
      | .null => .ok .null
      | .string s => .ok (.string s)
      | other => .ok (.string other.compact)
    | .null => .ok .null
    | _ => .ok value

/-- Files cannot be carried over. -/
def noFiles : Interceptor where
  name := "file-validator"
  priority := 2
  scope := .kinds [.file]
  execute _ _ := .error (.refused "File type variables are not supported in the target engine.")

end Interceptor

/-- A date pattern that has been read. -/
structure DateFormat where
  pattern : String
  items : List Time.PatternItem
  deriving DecidableEq, Repr

namespace DateFormat

/-- The pattern that is used where none is given. -/
def defaultPattern : String := "%Y-%m-%dT%H:%M:%S%.3f%:z"

/-- Reads a pattern, or says that it is none. -/
def ofPattern (pattern : String) : Except String DateFormat :=
  match Time.Pattern.items? pattern with
  | some items => .ok ⟨pattern, items⟩
  | none => .error ("invalid date format pattern " ++ Text.quoted pattern)

/-- What is reported when an item of a pattern has no text. -/
def unwritable : String := "a Display implementation returned an error unexpectedly: Error"

/-- Reformats a date. -/
def execute (f : DateFormat) : Json → Except InterceptorFailure Json
  | .null => .ok .null
  | .string s =>
    match ZonedTime.read s with
    | .error e => .error (.refused ("invalid date " ++ Text.quoted s ++ ": " ++ e.message))
    | .ok z =>
      match Time.Pattern.write? f.items z with
      | some text => .ok (.string text)
      | none => .error (.crashed unwritable)
  | other =>
    .error (.refused ("expected an RFC 3339 date string, found " ++ other.compact))

/-- The interceptor of a pattern. -/
def interceptor (f : DateFormat) : Interceptor where
  name := "date-format"
  priority := 5
  scope := .kinds [.date]
  execute _ value := f.execute value

end DateFormat
end ProcessMigration
