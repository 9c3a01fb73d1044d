import ProcessMigration.Strategy

/-!
# Reports

A report counts what a run did. Every record that the run looked at is counted in `fetched` and in
exactly one of the outcomes of its pass.
-/

namespace ProcessMigration

/-- What a run did. -/
structure Report where
  mode : Mode := .migrate
  /-- Instances and records that the run looked at. -/
  fetched : Nat := 0
  /-- Instances that had a mapping record already. -/
  alreadyMapped : Nat := 0
  /-- Instances that were carried over. -/
  migrated : Nat := 0
  /-- Instances that were skipped. -/
  skipped : Nat := 0
  /-- Skipped instances that were carried over after all. -/
  retried : Nat := 0
  /-- Skipped instances that still cannot be carried over. -/
  stillSkipped : Nat := 0
  /-- Skipped instances that are no longer on the source engine. -/
  vanished : Nat := 0
  /-- Jobs after which an instance was moved onto its active elements. -/
  jobsActivated : Nat := 0
  /-- Jobs of instances that somebody else started. -/
  externallyStartedJobs : Nat := 0
  /-- Jobs whose instance could not be resolved again. -/
  unresolvedJobs : Nat := 0
  /-- Skipped instances that were listed. -/
  listed : Nat := 0
  deriving DecidableEq, Repr, Inhabited

/-- The members of a written report. -/
def Report.members (r : Report) : List (String × Json) :=
  [("mode", r.mode.encode), ("fetched", .nat r.fetched), ("alreadyMapped", .nat r.alreadyMapped),
    ("migrated", .nat r.migrated), ("skipped", .nat r.skipped), ("retried", .nat r.retried),
    ("stillSkipped", .nat r.stillSkipped), ("vanished", .nat r.vanished),
    ("jobsActivated", .nat r.jobsActivated),
    ("externallyStartedJobs", .nat r.externallyStartedJobs),
    ("unresolvedJobs", .nat r.unresolvedJobs), ("listed", .nat r.listed)]

end ProcessMigration
