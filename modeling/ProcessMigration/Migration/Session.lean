import ProcessMigration.Migration.Interruption

/-!
# Sessions

A migration is seldom one run. A `Session` is what lasts: a snapshot, a journal and a mapping store,
and the migrator that works on them with what it has still to hand over.

* A `Pass` is one run of the migrator, interrupted or not.
* Between the passes the migrator can be made anew, the target engine can be opened again on its
  journal, the snapshot can be taken again, and others can start instances: each is an `Event`.
* `Session.after` is where a list of events leads.
-/

namespace ProcessMigration

/-- One run of a migrator, and what happens around its calls. -/
structure Pass where
  mode : Mode
  settings : MigrationSettings
  pipeline : Pipeline
  incidents : List Incident := []

/-- What lasts from one run to the next. -/
structure Session where
  state : Interrupted Workspace
  pending : Pending := .empty

/-- What can happen to a session. -/
inductive Event where
  | pass (p : Pass)
  /-- A new migrator takes over: what waited to be handed over is forgotten. -/
  | rebuild
  /-- The target engine is opened again on its journal, unless the journal cannot be read. -/
  | reopen (definitions : List Definition)
  /-- The snapshot is taken again. -/
  | reload (source : SnapshotSource)
  /-- Somebody else starts an instance. -/
  | startByOther (request : CreateRequest)

namespace Workspace

/-- The migrator of these settings and interceptors over files, in the course of events. -/
def interruptedMigrator (settings : MigrationSettings) (pipeline : Pipeline) :
    Migrator (Interrupted Workspace) :=
  ⟨settings, pipeline, Interrupted.environment environment⟩

end Workspace

namespace Session

/-- The name of the journal. -/
def journalName : String := "journal.jsonl"

/-- The session before the first run. -/
def start (w : Workspace) : Session := { state := { world := w } }

/-- The snapshot, the journal and the mapping store. -/
def world (s : Session) : Workspace := s.state.world

/-- Makes a pass; answers its outcome and the state that it leaves. -/
def perform (s : Session) (p : Pass) :
    Except MigrationError Report × RunState (Interrupted Workspace) :=
  ((Workspace.interruptedMigrator p.settings p.pipeline).run p.mode).run
    { world := { s.state with coming := p.incidents }, pending := s.pending }

/-- The session that the state of a run leaves behind. -/
def ofRun (r : RunState (Interrupted Workspace)) : Session :=
  ⟨{ r.world with coming := [] }, r.pending⟩

/-- Puts the workspace in another condition. -/
def mapWorld (s : Session) (f : Workspace → Workspace) : Session :=
  { s with state := s.state.withWorld (f s.world) }

/-- What an event makes of a session. -/
def step (s : Session) : Event → Session
  | .pass p => ofRun (s.perform p).2
  | .rebuild => { s with pending := .empty }
  | .reopen definitions =>
    match TargetEngine.open definitions journalName s.world.target.journal with
    | .ok target => s.mapWorld fun w => { w with target }
    | .error _ => s
  | .reload source => s.mapWorld fun w => { w with source }
  | .startByOther request =>
    { s with state := s.state.startByOther Workspace.jobEngine request }

/-- The session after a list of events. -/
def after (s : Session) (events : List Event) : Session := events.foldl step s

end Session
end ProcessMigration
