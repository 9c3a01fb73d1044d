import ProcessMigration.Migration.Run
import ProcessMigration.Target.Engine

/-!
# Migrating between files

A workspace holds what a run over files works with: a snapshot of the source engine, the target
engine behind its journal, and a database with the tables of the mapping store. The snapshot never
changes; the journal and the database do.
-/

namespace ProcessMigration

/-- A snapshot, a journal and a mapping store. -/
structure Workspace where
  source : SnapshotSource
  target : TargetEngine
  tables : StoreTables
  database : Database

namespace Workspace

variable {α : Type}

/-- An answer of the snapshot. -/
def onSource (f : SnapshotSource → Except ConnectorError α) : Action Workspace ConnectorError α :=
  fun w => (f w.source, w)

/-- An action of the target engine. -/
def onTarget (x : TargetAction α) : Action Workspace ConnectorError α :=
  x.onPart Workspace.target fun target w => { w with target }

/-- An action of the mapping store. -/
def onStore (x : StoreTables → StoreAction α) : Action Workspace StoreError α := fun w =>
  (x w.tables).onPart Workspace.database (fun database w => { w with database }) w

/-- The snapshot as a source engine. -/
def sourceEngine : SourceEngine Workspace where
  count := onSource fun s => .ok s.count
  listAfter after limit := onSource fun s => .ok (s.listAfter after limit)
  find? id := onSource fun s => .ok (s.find? id)
  activityTree id := onSource fun s => s.activityTree id
  variablesOf scopeId := onSource fun s => .ok (s.variablesOf scopeId)
  completedBefore id gateway := onSource fun s => s.completedBefore id gateway

/-- The engine behind the journal as a target engine. No job comes up that does not wait. -/
def jobEngine : JobEngine Workspace where
  createInstance request := onTarget (TargetEngine.createInstance request)
  modifyInstance key terminated activations :=
    onTarget (TargetEngine.modifyInstance key terminated activations)
  searchDefinitions businessId := onTarget (TargetEngine.searchDefinitions businessId)
  activateJobs jobType limit := onTarget (TargetEngine.activateJobs jobType limit)
  jobBound w := w.target.state.outstanding.length

/-- The tables as a mapping store. A record and the key of its instance are written in one
transaction. -/
def recordStore : RecordStore Workspace where
  latest? := onStore fun t => Store.latest? t .processInstance
  «exists» id := onStore fun t => Store.exists t id
  targetKey? id := onStore fun t => Store.targetKey? t id
  insert record := onStore fun t => Store.insert t record
  update id key := onStore fun t => Store.update t id key
  countSkipped := onStore fun t => Store.countSkipped t .processInstance
  skipped offset limit := onStore fun t => Store.skipped t .processInstance offset limit

/-- The environment of a run over files. -/
def environment : Environment Workspace := ⟨sourceEngine, jobEngine, recordStore⟩

/-- The migrator of these settings and interceptors over files. -/
def migrator (settings : MigrationSettings) (pipeline : Pipeline) : Migrator Workspace :=
  ⟨settings, pipeline, environment⟩

end Workspace
end ProcessMigration
