import ProcessMigration.Migration.Listing

/-!
# Runs of a migrator

A run makes one pass and ends with a report. A run that fails gives no report; what it did stays
done, and what waits to be handed over waits on for the next run of the same migrator.
-/

namespace ProcessMigration.Migrator

variable {σ : Type}

/-- The pass of a mode. -/
def pass (m : Migrator σ) : Mode → Run σ Unit
  | .migrate => m.migratePass
  | .retrySkipped => m.retryPass
  | .listSkipped => do
    let listed ← m.listSkipped
    Run.count fun r => { r with listed }

/-- Makes one pass, from an empty report, an empty output and no warning. -/
def run (m : Migrator σ) (mode : Mode) : Run σ Report := do
  Action.modify fun s => { s with report := { mode }, output := {}, givenUp := [] }
  m.pass mode
  return (← Action.get).report

end ProcessMigration.Migrator
