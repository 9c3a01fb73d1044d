import ProcessMigration.Migration.Pass

/-!
# Listing the skipped instances

The listing prints a heading and a line for each skipped record, its id and its reason, in the order
of the records. Nothing but the output changes.
-/

namespace ProcessMigration.Migrator

variable {σ : Type}

/-- What the listing calls the things that it lists. -/
def listedThings : String := "process instances"

/-- The line that is printed where nothing was skipped. -/
def nothingSkipped : String :=
  "No " ++ listedThings ++ " were skipped during previous migration\n"

/-- The heading of the listing. -/
def skippedHeading : String := "Previously skipped " ++ listedThings ++ ":\n"

/-- The line of a skipped record. -/
def skippedLine (r : MappingRecord) : String := r.legacyId ++ ": " ++ r.skipReason.getD "" ++ "\n"

/-- Prints the skipped records; answers how many there are. -/
def listSkipped (m : Migrator σ) : Run σ Nat := do
  let total ← Run.store m.env.store.countSkipped
  if total = 0 then
    Run.print nothingSkipped
    return 0
  else
    Run.print skippedHeading
    let paging ← Paging.forEach m.skippedPage (fun r => Run.print (skippedLine r))
      (Paging.enough total) (Paging.start .offset m.settings.pageSize (some total))
    return paging.itemsVisited

end ProcessMigration.Migrator
