import ProcessMigration.Variables.Builtin

/-!
# Choosing interceptors

A `Registry` knows interceptors by their ids; some of them run unless they are switched off. The
settings of a configuration choose among them and give them properties.

`Registry.build` checks all ids first, then makes the interceptors: those that run by themselves and
are not mentioned, then the enabled ones in the order of the settings.
-/

namespace ProcessMigration

/-- One configured interceptor. -/
structure InterceptorSettings where
  id : String
  enabled : Bool
  properties : SortedMap Json

/-- Why no pipeline can be built. -/
inductive RegistryError where
  | unknownInterceptor (id : String)
  | duplicateEntry (id : String)
  | invalidProperties (id message : String)
  deriving DecidableEq, Repr

/-- The wording of a registry error. -/
def RegistryError.message : RegistryError → String
  | .unknownInterceptor id => "unknown interceptor id: " ++ id
  | .duplicateEntry id => "interceptor " ++ id ++ " is configured more than once"
  | .invalidProperties id message =>
    "invalid properties for interceptor " ++ id ++ ": " ++ message

/-- Makes an interceptor from its properties. -/
abbrev InterceptorFactory := SortedMap Json → Except RegistryError Interceptor

/-! ## Properties -/

namespace InterceptorFactory

/-- What a value is called in a complaint. -/
def described : Json → String
  | .null => "null"
  | .bool b => "boolean `" ++ (if b then "true" else "false") ++ "`"
  | .number (.int n) => "integer `" ++ toString n ++ "`"
  | .number (.double x) => "floating point `" ++ Json.doubleLayout.render x ++ "`"
  | .string s => "string " ++ Text.quoted s
  | .array _ => "sequence"
  | .object _ => "map"

/-- A factory whose interceptor has no properties. -/
def plain (id : String) (i : Interceptor) : InterceptorFactory := fun properties =>
  match properties.keys with
  | [] => .ok i
  | name :: _ =>
    .error (.invalidProperties id ("unknown field `" ++ name ++ "`, there are no fields"))

/-- The pattern among properties; they are looked at in the order of their names. -/
def patternOf : List (String × Json) → Option String → Except String (Option String)
  | [], found => .ok found
  | (name, value) :: rest, _ =>
    if name = "format" then
      match value with
      | .string s => patternOf rest (some s)
      | .null => patternOf rest none
      | other => .error ("invalid type: " ++ described other ++ ", expected a string")
    else .error ("unknown field `" ++ name ++ "`, expected `format`")

/-- The factory of the interceptor that reformats dates. -/
def dateFormat : InterceptorFactory := fun properties =>
  match patternOf properties.entries none with
  | .error message => .error (.invalidProperties "date-format" message)
  | .ok pattern =>
    match DateFormat.ofPattern (pattern.getD DateFormat.defaultPattern) with
    | .error message => .error (.invalidProperties "date-format" message)
    | .ok f => .ok f.interceptor

end InterceptorFactory

/-! ## The registry -/

/-- Interceptors by their ids, and the ids of those that run unless they are switched off. -/
structure Registry where
  factories : SortedMap InterceptorFactory
  defaults : List String

namespace Registry

/-- A registry that knows nothing. -/
def empty : Registry := ⟨.empty, []⟩

/-- Makes an interceptor known; it runs only when it is configured. -/
def register (r : Registry) (id : String) (f : InterceptorFactory) : Registry :=
  { r with factories := r.factories.insert id f }

/-- Makes an interceptor known that runs unless it is switched off. -/
def registerDefault (r : Registry) (id : String) (f : InterceptorFactory) : Registry :=
  ⟨r.factories.insert id f, if r.defaults.contains id then r.defaults else r.defaults ++ [id]⟩

/-- The registry of the built-in interceptors, all of which run by themselves. -/
def builtin : Registry :=
  ((empty.registerDefault "default" (.plain "default" .textual)).registerDefault
    "file-validator" (.plain "file-validator" .noFiles)).registerDefault
    "date-format" .dateFormat

/-- The ids in ascending order. -/
def ids (r : Registry) : List String := r.factories.keys

/-- Every configured id is known and none is configured twice. -/
def checkIds (r : Registry) : List String → List String → Except RegistryError Unit
  | [], _ => .ok ()
  | id :: rest, seen =>
    if (r.factories.get? id).isNone then .error (.unknownInterceptor id)
    else if seen.contains id then .error (.duplicateEntry id)
    else checkIds r rest (id :: seen)

/-- The ids and properties of the interceptors to be made, in order. -/
def selected (r : Registry) (settings : List InterceptorSettings) :
    List (String × SortedMap Json) :=
  let configured := settings.map (·.id)
  (r.defaults.filter fun id => !configured.contains id).map (fun id => (id, .empty))
    ++ (settings.filter (·.enabled)).map fun s => (s.id, s.properties)

/-- Makes interceptors and adds them to a pipeline. -/
def buildAll (r : Registry) :
    List (String × SortedMap Json) → Pipeline → Except RegistryError Pipeline
  | [], p => .ok p
  | (id, properties) :: rest, p =>
    match r.factories.get? id with
    | none => .error (.unknownInterceptor id)
    | some f =>
      match f properties with
      | .error e => .error e
      | .ok i => buildAll r rest (p.push i)

/-- The pipeline that the settings choose. -/
def build (r : Registry) (settings : List InterceptorSettings) : Except RegistryError Pipeline :=
  match r.checkIds (settings.map (·.id)) [] with
  | .error e => .error e
  | .ok () => r.buildAll (r.selected settings) .empty

end Registry

/-! ## Written form -/

namespace InterceptorSettings

/-- The fields of written settings. -/
def fieldNames : List String := ["id", "enabled", "properties"]

/-- Builds settings from their fields; an interceptor that is mentioned is enabled unless they say
otherwise. -/
def ofRecord? (r : Record) : Option InterceptorSettings := do
  let id ← r.required "id" .text
  let enabled ← r.withDefault "enabled" .bool true
  let properties ← r.withDefault "properties" (.map .json) .empty
  return ⟨id, enabled, properties⟩

/-- Reads settings. -/
def decode : Decoder InterceptorSettings := .closedRecord fieldNames ofRecord?

/-- Writes settings. -/
def encode (s : InterceptorSettings) : Json :=
  .object [("id", .string s.id), ("enabled", .bool s.enabled), ("properties", .ofMap s.properties)]

end InterceptorSettings
end ProcessMigration
