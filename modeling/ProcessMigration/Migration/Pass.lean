import ProcessMigration.Migration.Drain
import ProcessMigration.Paging

/-!
# The passes

* The **migrate** pass goes through the running instances after the last one that has a mapping
  record, page by page, and gives each instance a record: carried over, or skipped for a reason.
* The **retry** pass goes through the skipped records and tries them again. A record that is carried
  over leaves the set that the pass pages through; the others are kept.

A mapping record is written right after its instance was started, before the next one is looked at.
-/

namespace ProcessMigration.Migrator

variable {σ : Type}

/-! ## Starting an instance -/

/-- Starts an instance on the target engine, writes down its key, and notes what it waits for. -/
def start (m : Migrator σ) (i : SourceInstance) (prepared : Prepared)
    (writeKey : Int → Action σ StoreError Unit) : Run σ Unit := do
  let handle ← Run.engine (m.env.target.createInstance prepared.request)
  Run.store (writeKey handle.instanceKey)
  Run.modifyPending fun p => p.insert handle.instanceKey ⟨i.id, prepared.activations⟩

/-! ## Migrate -/

/-- Gives an instance a mapping record unless it has one. -/
def migrateInstance (m : Migrator σ) (i : SourceInstance) : Run σ Unit := do
  Run.count fun r => { r with fetched := r.fetched + 1 }
  if ← Run.store (m.env.store.exists i.id) then
    Run.count fun r => { r with alreadyMapped := r.alreadyMapped + 1 }
  else
    match ← Run.call (m.prepare i) with
    | .ready prepared =>
      m.start i prepared fun key => m.env.store.insert (.migrated i.id key i.startTime)
      Run.count fun r => { r with migrated := r.migrated + 1 }
    | .skip reason =>
      Run.store (m.env.store.insert (.skipped i.id i.startTime reason))
      Run.count fun r => { r with skipped := r.skipped + 1 }

/-- A page of running instances: after the last one of the page before, or where the records end. -/
def instancePage (m : Migrator σ) (resume : Option Cursor) (request : PageRequest SourceInstance) :
    Run σ (List SourceInstance) :=
  Run.engine <| m.env.source.listAfter
    ((request.after.map SourceInstance.cursor).or resume) request.limit

/-- Goes through the running instances. -/
def migratePass (m : Migrator σ) : Run σ Unit := do
  let resume ← Run.store m.env.store.latest?
  let total ← Run.engine m.env.source.count
  let _ ← Paging.forPages (m.instancePage resume)
    (fun paging page => do
      Action.forAll page m.migrateInstance
      m.drainWhenFull
      return paging)
    (Paging.enough total) (Paging.start .after m.settings.pageSize (some total))
  m.drain

/-! ## Retry -/

/-- Tries a skipped record again; answers whether it was carried over. -/
def retryRecord (m : Migrator σ) (record : MappingRecord) : Run σ Bool := do
  Run.count fun r => { r with fetched := r.fetched + 1 }
  match ← Run.engine (m.env.source.find? record.legacyId) with
  | none =>
    Run.count fun r => { r with vanished := r.vanished + 1 }
    return false
  | some i =>
    match ← Run.call (m.prepare i) with
    | .ready prepared =>
      m.start i prepared fun key => m.env.store.update i.id key
      Run.count fun r => { r with retried := r.retried + 1 }
      return true
    | .skip _ =>
      Run.count fun r => { r with stillSkipped := r.stillSkipped + 1 }
      return false

/-- Tries the records of a page again and keeps those that are not carried over. -/
def retryPage (m : Migrator σ) :
    Paging MappingRecord → List MappingRecord → Run σ (Paging MappingRecord)
  | paging, [] => return paging
  | paging, record :: rest => do
    if ← m.retryRecord record then retryPage m paging rest
    else retryPage m paging.keepOne rest

/-- A page of skipped records. -/
def skippedPage (m : Migrator σ) (request : PageRequest MappingRecord) :
    Run σ (List MappingRecord) :=
  Run.store (m.env.store.skipped request.offset request.limit)

/-- Goes through the skipped records. -/
def retryPass (m : Migrator σ) : Run σ Unit := do
  let total ← Run.store m.env.store.countSkipped
  let _ ← Paging.forPages m.skippedPage
    (fun paging page => do
      let paging ← m.retryPage paging page
      m.drainWhenFull
      return paging)
    (Paging.enough total) (Paging.start .pinned m.settings.pageSize (some total))
  m.drain

end ProcessMigration.Migrator
