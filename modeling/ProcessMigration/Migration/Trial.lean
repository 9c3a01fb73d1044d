import ProcessMigration.Migration.Interruption
import ProcessMigration.Target.Calls

/-!
# Trials

A run over files ends at the first call that fails: an engine gives no answer, the journal takes no
line, a transaction is not committed. A `Trial` puts such failures around a workspace, at any place.

* A `Failure` says how a call fails: it is **refused** before anything is done, or the journal is
  **jammed** while it is carried out. Calls after the scripted ones are answered.
* `Trial.started` keeps what the target engine has answered to requests for new instances,
  `Trial.lostWrites` counts the writes to the mapping store that were refused, and `Trial.rejected`
  keeps what the mapping store itself had against a write.
* A run that breaks off between two calls is one whose next call is refused.
-/

namespace ProcessMigration

/-- How a call fails. -/
inductive Failure where
  /-- Before anything is done. -/
  | refused (message : String)
  /-- The journal takes no line while the call is carried out. -/
  | jammed (cause : FileError)
  deriving DecidableEq, Repr

/-- What a failed call says. -/
def Failure.message : Failure → String
  | refused message => message
  | jammed cause => cause.message

/-- A workspace whose calls can fail. -/
structure Trial where
  world : Workspace
  /-- How the coming calls fare. -/
  coming : List (Option Failure) := []
  /-- The requests that started an instance, with the keys that were answered, in order. -/
  started : List (CreateRequest × InstanceHandle) := []
  /-- The number of writes to the mapping store that were refused. -/
  lostWrites : Nat := 0
  /-- Why the mapping store has rejected writes that came through to it. -/
  rejected : List StoreError := []

namespace Trial

variable {ε α : Type}

/-- The trial with another world. -/
def withWorld (d : Trial) (world : Workspace) : Trial := { d with world }

/-- How the next call fares. -/
def next (d : Trial) : Option Failure × Trial :=
  match d.coming with
  | [] => (none, d)
  | fate :: rest => (fate, { d with coming := rest })

/-- An action of the workspace. -/
def inside (x : Action Workspace ε α) : Action Trial ε α :=
  x.onPart Trial.world fun world d => d.withWorld world

/-- A call that does nothing when it fails. -/
def query (failure : String → ε) (x : Action Trial ε α) : Action Trial ε α := fun d =>
  match d.next with
  | (none, d) => x.run d
  | (some f, d) => (.error (failure f.message), d)

/-- A question to an engine. -/
def ask (op : EngineOperation) (x : Action Workspace ConnectorError α) :
    Action Trial ConnectorError α :=
  query (Interrupted.engineFailure op) (inside x)

/-- A question to the mapping store. -/
def askStore (x : Action Workspace StoreError α) : Action Trial StoreError α :=
  query Interrupted.storeFailure (inside x)

/-- A command to the target engine. With its journal jammed, the engine may still draw keys. -/
def command (op : EngineOperation) (x : TargetAction α) : Action Trial ConnectorError α := fun d =>
  match d.next with
  | (none, d) => (inside (Workspace.onTarget x)).run d
  | (some (.refused message), d) => (.error (Interrupted.engineFailure op message), d)
  | (some (.jammed cause), d) => (inside (Workspace.onTarget (TargetEngine.jam cause x))).run d

/-- Starts an instance and writes down the answer. -/
def create (request : CreateRequest) : Action Trial ConnectorError InstanceHandle := do
  let handle ← command .createInstance (TargetEngine.createInstance request)
  Action.modify fun d => { d with started := d.started ++ [(request, handle)] }
  return handle

/-- A write to the mapping store, which is done as a whole or not at all. -/
def write (x : Action Workspace StoreError Unit) : Action Trial StoreError Unit := fun d =>
  match d.next with
  | (none, d) =>
    match (inside x).run d with
    | (.ok a, d) => (.ok a, d)
    | (.error e, d) => (.error e, { d with rejected := d.rejected ++ [e] })
  | (some f, d) =>
    (.error (Interrupted.storeFailure f.message), { d with lostWrites := d.lostWrites + 1 })

/-- The snapshot in a trial. -/
def sourceEngine : SourceEngine Trial where
  count := ask .countInstances Workspace.sourceEngine.count
  listAfter after limit := ask .listInstances (Workspace.sourceEngine.listAfter after limit)
  find? id := ask .findInstance (Workspace.sourceEngine.find? id)
  activityTree id := ask .activityTree (Workspace.sourceEngine.activityTree id)
  variablesOf scopeId := ask .readVariables (Workspace.sourceEngine.variablesOf scopeId)
  completedBefore id gateway :=
    ask .completedActivities (Workspace.sourceEngine.completedBefore id gateway)

/-- The target engine in a trial. -/
def jobEngine : JobEngine Trial where
  createInstance := create
  modifyInstance key terminated activations :=
    command .modifyInstance (TargetEngine.modifyInstance key terminated activations)
  searchDefinitions businessId :=
    ask .searchDefinitions (Workspace.jobEngine.searchDefinitions businessId)
  activateJobs jobType limit := ask .activateJobs (Workspace.jobEngine.activateJobs jobType limit)
  jobBound d := Workspace.jobEngine.jobBound d.world

/-- The mapping store in a trial. -/
def recordStore : RecordStore Trial where
  latest? := askStore Workspace.recordStore.latest?
  «exists» id := askStore (Workspace.recordStore.exists id)
  targetKey? id := askStore (Workspace.recordStore.targetKey? id)
  insert record := write (Workspace.recordStore.insert record)
  update id key := write (Workspace.recordStore.update id key)
  countSkipped := askStore Workspace.recordStore.countSkipped
  skipped offset limit := askStore (Workspace.recordStore.skipped offset limit)

/-- The environment of a trial. -/
def environment : Environment Trial := ⟨sourceEngine, jobEngine, recordStore⟩

/-- The migrator of these settings and interceptors in a trial. -/
def migrator (settings : MigrationSettings) (pipeline : Pipeline) : Migrator Trial :=
  ⟨settings, pipeline, environment⟩

end Trial

/-! ## Series of trials -/

/-- What lasts from one trial to the next. -/
structure Series where
  state : Trial
  pending : Pending := .empty

/-- One step of a series. -/
inductive SeriesStep where
  /-- A run of a migrator with these settings, whose calls fare like this. -/
  | run (mode : Mode) (settings : MigrationSettings) (pipeline : Pipeline)
    (coming : List (Option Failure))
  /-- A new migrator takes over: what waited to be handed over is forgotten. -/
  | rebuild
  /-- A new process opens the mapping store and the journal, unless the journal cannot be read. -/
  | restart (definitions : List Definition) (path : String)

namespace Series

/-- The series before the first run. -/
def start (w : Workspace) : Series := { state := { world := w } }

/-- Makes a run. -/
def perform (s : Series) (mode : Mode) (settings : MigrationSettings) (pipeline : Pipeline)
    (coming : List (Option Failure)) : Except MigrationError Report × RunState Trial :=
  ((Trial.migrator settings pipeline).run mode).run
    { world := { s.state with coming }, pending := s.pending }

/-- A new process over the same files. -/
def restarted (s : Series) (definitions : List Definition) (path : String) : Series :=
  let w := s.state.world
  match TargetEngine.open definitions path w.target.journal with
  | .ok target =>
    let database := ((Store.open w.tables.tablePrefix).run w.database).2
    { state := s.state.withWorld { w with target, database } }
  | .error _ => s

/-- Where a step leads. -/
def step (s : Series) : SeriesStep → Series
  | .run mode settings pipeline coming =>
    let r := (s.perform mode settings pipeline coming).2
    ⟨r.world, r.pending⟩
  | .rebuild => { s with pending := .empty }
  | .restart definitions path => s.restarted definitions path

/-- Where a list of steps leads. -/
def after (s : Series) (steps : List SeriesStep) : Series := steps.foldl step s

end Series
end ProcessMigration
