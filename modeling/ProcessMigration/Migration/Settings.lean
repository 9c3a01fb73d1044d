import ProcessMigration.Validation

/-!
# Settings of a migrator

What can be chosen about the runs of a migrator, with the values that hold where nothing is chosen.
-/

namespace ProcessMigration

/-- The job type of the migrator where none is chosen. -/
def defaultJobType : String := "migrator"

/-- What can be chosen about the runs of a migrator. -/
structure MigrationSettings where
  pageSize : Nat := 100
  strategy : GatewayStrategy := .skip
  jobType : String := defaultJobType
  jobTypeValidation : Bool := true
  /-- How many jobs are asked for at once. -/
  maxJobs : Nat := 100
  deriving DecidableEq, Repr, Inhabited

/-- The checks that the settings ask for. -/
def MigrationSettings.validator (s : MigrationSettings) : Validator :=
  ⟨s.strategy, s.jobType, s.jobTypeValidation⟩

/-! ## Written form -/

/-- Reads settings; what is not mentioned keeps its default. -/
def MigrationSettings.decode : Decoder MigrationSettings :=
  .record ["pageSize", "gatewayStrategy", "jobType", "jobTypeValidation", "maxJobs"] fun r => do
    let pageSize ← r.withDefault "pageSize" .nat64 100
    let strategy ← r.withDefault "gatewayStrategy" GatewayStrategy.decode .skip
    let jobType ← r.withDefault "jobType" .text defaultJobType
    let jobTypeValidation ← r.withDefault "jobTypeValidation" .bool true
    let maxJobs ← r.withDefault "maxJobs" .nat64 100
    return { pageSize, strategy, jobType, jobTypeValidation, maxJobs }

/-- The members of written settings. -/
def MigrationSettings.members (s : MigrationSettings) : List (String × Json) :=
  [("pageSize", .nat s.pageSize), ("gatewayStrategy", s.strategy.encode),
    ("jobType", .string s.jobType), ("jobTypeValidation", .bool s.jobTypeValidation),
    ("maxJobs", .nat s.maxJobs)]

end ProcessMigration
