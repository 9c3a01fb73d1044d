import ProcessMigration.Action
import ProcessMigration.Variables.Builtin

/-!
# Variables on their way

An interceptor is given an **invocation**: the source variable, which it looks at, and the value
that the target engine will be given, which it may replace.

`DateFormat.invoke` is the work of the interceptor that reformats dates, on an invocation.
-/

namespace ProcessMigration

/-- A variable on its way through the interceptors. -/
structure Invocation where
  source : SourceVariable
  /-- The value that the target engine will be given. -/
  value : Json

/-- Something that an interceptor does to an invocation. -/
abbrev Invoked (α : Type) := Action Invocation InterceptorFailure α

/-- Replaces the value. -/
def Invocation.setValue (value : Json) : Invoked Unit := .modify fun x => { x with value }

/-- Reformats the date of an invocation. -/
def DateFormat.invoke (f : DateFormat) : Invoked Unit := do
  match (← Action.get).value with
  | .null => return ()
  | .string s =>
    match ZonedTime.read s with
    | .error e =>
      Action.fail (.refused ("invalid date " ++ Text.quoted s ++ ": " ++ e.message))
    | .ok z =>
      match Time.Pattern.write? f.items z with
      | some text => Invocation.setValue (.string text)
      | none => Action.fail (.crashed unwritable)
  | other =>
    Action.fail (.refused ("expected an RFC 3339 date string, found " ++ other.compact))

end ProcessMigration
