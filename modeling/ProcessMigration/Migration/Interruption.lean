import ProcessMigration.Migration.Rehearsal

/-!
# Interrupted runs

A run can be broken off at any call, and it is not alone: others start instances on the same target
engine. `Interrupted` puts such a course of events around an environment.

* An `Incident` says what happens around one call: before it others start instances, and then the
  call is **answered**, **refused** before anything is done, or **cut off** after all is done. Calls
  after the last incident are answered.
* Every call counts, also those to the mapping store.
* `Interrupted.sent` keeps the commands that were sent, each with the world that it was sent into;
  `handedOut` keeps the jobs that arrived, `startedByOthers` the keys of instances of others.
-/

namespace ProcessMigration

/-- How a call fares. -/
inductive Fate where
  | answered
  /-- It fails before anything is done. -/
  | refused (message : String)
  /-- It is carried out, but no answer arrives. -/
  | cutOff (message : String)
  deriving DecidableEq, Repr

/-- What happens around a call. -/
structure Incident where
  /-- What others start before it. -/
  others : List CreateRequest := []
  fate : Fate := .answered

/-- A command to the target engine. -/
inductive Command where
  | create (request : CreateRequest)
  | modify (instanceKey terminatedKey : Int) (activations : List Activation)

/-- A command and the world that it was sent into. -/
structure SentCommand (σ : Type) where
  command : Command
  world : σ

/-- An environment in the course of events. -/
structure Interrupted (σ : Type) where
  world : σ
  /-- What happens around the coming calls. -/
  coming : List Incident := []
  /-- The commands sent, in order. -/
  sent : List (SentCommand σ) := []
  /-- The jobs that were handed out, in order. -/
  handedOut : List Job := []
  /-- The keys of the instances that others have started. -/
  startedByOthers : List Int := []

namespace Interrupted

variable {σ ε α : Type}

/-- The same course of events with another world. -/
def withWorld (d : Interrupted σ) (world : σ) : Interrupted σ := { d with world }

/-- Writes down that a command is sent. -/
def send (command : Command) (d : Interrupted σ) : Interrupted σ :=
  { d with sent := d.sent ++ [⟨command, d.world⟩] }

/-- Writes down jobs that arrive. -/
def arrived (jobs : List Job) (d : Interrupted σ) : Interrupted σ :=
  { d with handedOut := d.handedOut ++ jobs }

/-- Somebody else starts an instance, if the target engine lets it. -/
def startByOther (t : JobEngine σ) (d : Interrupted σ) (request : CreateRequest) : Interrupted σ :=
  match (t.createInstance request).run d.world with
  | (.ok handle, world) =>
    { d with world, startedByOthers := d.startedByOthers ++ [handle.instanceKey] }
  | (.error _, world) => { d with world }

/-- What happens before the next call, and how that call fares. -/
def next (t : JobEngine σ) (d : Interrupted σ) : Fate × Interrupted σ :=
  match d.coming with
  | [] => (.answered, d)
  | c :: rest => (c.fate, c.others.foldl (startByOther t) { d with coming := rest })

/-- A call in the course of events; `note` is what is written down of it in any case. -/
def call (t : JobEngine σ) (failure : String → ε) (note : Interrupted σ → Interrupted σ)
    (x : Action (Interrupted σ) ε α) : Action (Interrupted σ) ε α := fun d =>
  match next t d with
  | (.answered, d) => x.run (note d)
  | (.refused message, d) => (.error (failure message), note d)
  | (.cutOff message, d) => (.error (failure message), (x.run (note d)).2)

/-- An action of the environment. -/
def inside (x : Action σ ε α) : Action (Interrupted σ) ε α :=
  x.onPart Interrupted.world fun world d => d.withWorld world

/-- How a call to an engine fails. -/
def engineFailure (op : EngineOperation) (message : String) : ConnectorError :=
  ⟨op.side, op.name, message⟩

/-- How a call to the mapping store fails. -/
def storeFailure (message : String) : StoreError := .database (.file message)

variable (env : Environment σ)

/-- A call to an engine that sends no command. -/
def query (op : EngineOperation) (x : Action σ ConnectorError α) :
    Action (Interrupted σ) ConnectorError α :=
  call env.target (engineFailure op) id (inside x)

/-- A call to the mapping store. -/
def storeCall (x : Action σ StoreError α) : Action (Interrupted σ) StoreError α :=
  call env.target storeFailure id (inside x)

/-- The source engine in the course of events. -/
def sourceEngine : SourceEngine (Interrupted σ) where
  count := query env .countInstances env.source.count
  listAfter after limit := query env .listInstances (env.source.listAfter after limit)
  find? id := query env .findInstance (env.source.find? id)
  activityTree id := query env .activityTree (env.source.activityTree id)
  variablesOf scopeId := query env .readVariables (env.source.variablesOf scopeId)
  completedBefore id gateway :=
    query env .completedActivities (env.source.completedBefore id gateway)

/-- Hands out jobs and writes down those that arrive. -/
def fetchJobs (jobType : String) (limit : Nat) :
    Action (Interrupted σ) ConnectorError (List Job) := do
  let jobs ← inside (env.target.activateJobs jobType limit)
  Action.modify (arrived jobs)
  return jobs

/-- The target engine in the course of events. What others will start can bring jobs, too. -/
def jobEngine : JobEngine (Interrupted σ) where
  createInstance request :=
    call env.target (engineFailure .createInstance) (send (.create request))
      (inside (env.target.createInstance request))
  modifyInstance key terminated activations :=
    call env.target (engineFailure .modifyInstance) (send (.modify key terminated activations))
      (inside (env.target.modifyInstance key terminated activations))
  searchDefinitions businessId :=
    query env .searchDefinitions (env.target.searchDefinitions businessId)
  activateJobs jobType limit :=
    call env.target (engineFailure .activateJobs) id (fetchJobs env jobType limit)
  jobBound d :=
    env.target.jobBound ((d.coming.flatMap (·.others)).foldl (startByOther env.target) d).world

/-- The mapping store in the course of events. -/
def recordStore : RecordStore (Interrupted σ) where
  latest? := storeCall env env.store.latest?
  «exists» id := storeCall env (env.store.exists id)
  targetKey? id := storeCall env (env.store.targetKey? id)
  insert record := storeCall env (env.store.insert record)
  update id key := storeCall env (env.store.update id key)
  countSkipped := storeCall env env.store.countSkipped
  skipped offset limit := storeCall env (env.store.skipped offset limit)

/-- The environment in the course of events. -/
def environment : Environment (Interrupted σ) :=
  ⟨sourceEngine env, jobEngine env, recordStore env⟩

end Interrupted
end ProcessMigration
