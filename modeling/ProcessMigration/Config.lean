import ProcessMigration.Migration.Settings
import ProcessMigration.Toml.Reader
import ProcessMigration.Variables.Registry

/-!
# Configuration

A configuration has a section each for the migrator, the mapping store, the source engine, the
target engine and the log, and a list of interceptors. Everything has a default; nothing unknown is
accepted, but a section that is written as an array may go on after its last field.

* `Config.ofText` reads a file and checks it;
* `Config.settings` are the settings of the migrator: the job type counts without the blanks around
  it.
-/

namespace ProcessMigration

/-- The section of the migrator. -/
structure MigratorSection where
  pageSize : Nat := 100
  strategy : GatewayStrategy := .skip
  jobType : String := defaultJobType
  jobTypeValidation : Bool := true
  deriving DecidableEq, Repr, Inhabited

/-- The section of the mapping store. -/
structure MappingSection where
  database : String := "runtime-migrator.db"
  tablePrefix : String := ""
  deriving DecidableEq, Repr, Inhabited

/-- The section of the source engine. -/
structure SourceSection where
  snapshot : String := "source-snapshot.json"
  deriving DecidableEq, Repr, Inhabited

/-- The section of the target engine. -/
structure TargetSection where
  definitions : String := "target-definitions.json"
  journal : String := "target-journal.jsonl"
  deriving DecidableEq, Repr, Inhabited

/-- The section of the log. -/
structure LoggingSection where
  level : Option String := none
  directory : Option String := none
  deriving DecidableEq, Repr, Inhabited

/-- A configuration. -/
structure Config where
  migrator : MigratorSection := {}
  mapping : MappingSection := {}
  source : SourceSection := {}
  target : TargetSection := {}
  logging : LoggingSection := {}
  interceptors : List InterceptorSettings := []
  deriving Inhabited

/-- Why a configuration cannot be used. -/
inductive ConfigError where
  /-- The text is no configuration. -/
  | unreadable
  | zeroPageSize
  | blankJobType
  deriving DecidableEq, Repr

/-- The wording of an error about the values of a configuration. -/
def ConfigError.message : ConfigError → String
  | .unreadable => "not a configuration"
  | .zeroPageSize => "migrator.page-size must be at least 1"
  | .blankJobType => "migrator.job-type must not be empty"

/-! ## Written form -/

namespace MigratorSection

/-- Reads the section. -/
def decode : Decoder MigratorSection :=
  .leadingRecord ["page-size", "gateway-strategy", "job-type", "job-type-validation"] fun r => do
    let pageSize ← r.withDefault "page-size" .nat64 100
    let strategy ← r.withDefault "gateway-strategy" GatewayStrategy.decode .skip
    let jobType ← r.withDefault "job-type" .text defaultJobType
    let jobTypeValidation ← r.withDefault "job-type-validation" .bool true
    return { pageSize, strategy, jobType, jobTypeValidation }

/-- Writes the section. -/
def encode (s : MigratorSection) : Json :=
  .object [("page-size", .nat s.pageSize), ("gateway-strategy", s.strategy.encode),
    ("job-type", .string s.jobType), ("job-type-validation", .bool s.jobTypeValidation)]

end MigratorSection

namespace MappingSection

/-- Reads the section. -/
def decode : Decoder MappingSection := .leadingRecord ["database", "table-prefix"] fun r => do
  let database ← r.withDefault "database" .text "runtime-migrator.db"
  let tablePrefix ← r.withDefault "table-prefix" .text ""
  return { database, tablePrefix }

/-- Writes the section. -/
def encode (s : MappingSection) : Json :=
  .object [("database", .string s.database), ("table-prefix", .string s.tablePrefix)]

end MappingSection

namespace SourceSection

/-- Reads the section. -/
def decode : Decoder SourceSection := .leadingRecord ["snapshot"] fun r => do
  return { snapshot := ← r.withDefault "snapshot" .text "source-snapshot.json" }

/-- Writes the section. -/
def encode (s : SourceSection) : Json := .object [("snapshot", .string s.snapshot)]

end SourceSection

namespace TargetSection

/-- Reads the section. -/
def decode : Decoder TargetSection := .leadingRecord ["definitions", "journal"] fun r => do
  let definitions ← r.withDefault "definitions" .text "target-definitions.json"
  let journal ← r.withDefault "journal" .text "target-journal.jsonl"
  return { definitions, journal }

/-- Writes the section. -/
def encode (s : TargetSection) : Json :=
  .object [("definitions", .string s.definitions), ("journal", .string s.journal)]

end TargetSection

namespace LoggingSection

/-- The fields of the written section. -/
def fieldNames : List String := ["level", "directory"]

/-- Builds the section from its fields. -/
def ofRecord? (r : Record) : Option LoggingSection := do
  let level ← r.optional "level" .text
  let directory ← r.optional "directory" .text
  return { level, directory }

/-- Reads the section where it stands by itself. -/
def decode : Decoder LoggingSection := .closedRecord fieldNames ofRecord?

/-- Writes the section. -/
def encode (s : LoggingSection) : Json :=
  .object [("level", .ofText? s.level), ("directory", .ofText? s.directory)]

end LoggingSection

namespace Config

/-- Reads the section of the log. -/
def loggingSection : Decoder LoggingSection :=
  .leadingRecord LoggingSection.fieldNames LoggingSection.ofRecord?

/-- Reads the settings of an interceptor. -/
def interceptor : Decoder InterceptorSettings :=
  .leadingRecord InterceptorSettings.fieldNames InterceptorSettings.ofRecord?

/-- Reads a configuration. -/
def decode : Decoder Config :=
  .leadingRecord ["migrator", "mapping", "source", "target", "logging", "interceptors"] fun r => do
    let migrator ← r.withDefault "migrator" MigratorSection.decode {}
    let mapping ← r.withDefault "mapping" MappingSection.decode {}
    let source ← r.withDefault "source" SourceSection.decode {}
    let target ← r.withDefault "target" TargetSection.decode {}
    let logging ← r.withDefault "logging" loggingSection {}
    let interceptors ← r.withDefault "interceptors" (.list interceptor) []
    return { migrator, mapping, source, target, logging, interceptors }

/-- Writes a configuration. -/
def encode (c : Config) : Json :=
  .object [("migrator", c.migrator.encode), ("mapping", c.mapping.encode),
    ("source", c.source.encode), ("target", c.target.encode), ("logging", c.logging.encode),
    ("interceptors", .array (c.interceptors.map InterceptorSettings.encode))]

/-! ## Use -/

/-- The job type without the blanks around it. -/
def jobType (c : Config) : String := Text.trim c.migrator.jobType

/-- The values of a configuration make sense: pages are not empty, and the job type has a name. -/
def check (c : Config) : Except ConfigError Unit :=
  if c.migrator.pageSize = 0 then .error .zeroPageSize
  else if c.jobType.isEmpty then .error .blankJobType
  else .ok ()

/-- The configuration of a file. -/
def ofText (s : String) : Except ConfigError Config :=
  match (Toml.read? s).bind decode.run with
  | none => .error .unreadable
  | some c =>
    match c.check with
    | .ok () => .ok c
    | .error e => .error e

/-- The settings of the migrator. -/
def settings (c : Config) : MigrationSettings where
  pageSize := c.migrator.pageSize
  strategy := c.migrator.strategy
  jobType := c.jobType
  jobTypeValidation := c.migrator.jobTypeValidation

end Config

/-! ## Log level -/

/-- The level of the log where none is chosen. -/
def defaultLogLevel : String := "info"

/-- The level of the log: the one of the environment, unless it is blank, before the one of the
configuration. -/
def LoggingSection.chosenLevel (environment : Option String) (s : LoggingSection) : String :=
  match environment with
  | some level => if (Text.trim level).isEmpty then s.level.getD defaultLogLevel else level
  | none => s.level.getD defaultLogLevel

end ProcessMigration
