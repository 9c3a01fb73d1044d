import ProcessMigration.Migration.Workspace

/-!
# Rehearsals

A rehearsal runs a migrator over an environment that is watched and made to fail. It writes down
which operations of the engines are called, and a `FaultPlan` says which of them fail, and when.

* An operation with a fault works as often as the fault allows and then fails for good.
* The plan can state another number of running instances, and it can make the target engine hand out
  the same jobs again and again.
* The mapping store is left alone.
-/

namespace ProcessMigration

/-- An operation of one of the engines. -/
inductive EngineOperation where
  | countInstances | listInstances | findInstance | activityTree | readVariables | completedActivities
  | createInstance | modifyInstance | searchDefinitions | activateJobs
  deriving DecidableEq, Repr

namespace EngineOperation

/-- The name of an operation. -/
def name : EngineOperation → String
  | .countInstances => "count_active_root_instances"
  | .listInstances => "list_active_root_instances_after"
  | .findInstance => "find_process_instance"
  | .activityTree => "activity_tree"
  | .readVariables => "variables"
  | .completedActivities => "completed_activities_before"
  | .createInstance => "create_instance"
  | .modifyInstance => "modify_instance"
  | .searchDefinitions => "search_definitions"
  | .activateJobs => "activate_jobs"

/-- The engine that an operation belongs to. -/
def side : EngineOperation → Side
  | .createInstance | .modifyInstance | .searchDefinitions | .activateJobs => .target
  | _ => .source

end EngineOperation

/-- A fault of an operation: it works so many times and then fails with a message. -/
structure Fault where
  operation : String
  after : Nat
  message : String
  deriving DecidableEq, Repr

/-- What is to go wrong. -/
structure FaultPlan where
  faults : List Fault := []
  /-- The number of running instances that is stated. -/
  count : Option Nat := none
  /-- The target engine hands out jobs again. -/
  repeatsJobs : Bool := false
  deriving DecidableEq, Repr, Inhabited

/-- Reads a fault. -/
def Fault.decode : Decoder Fault := .record ["operation", "after", "message"] fun r => do
  let operation ← r.required "operation" .text
  let after ← r.withDefault "after" .nat64 0
  let message ← r.withDefault "message" .text ""
  return ⟨operation, after, message⟩

/-- Reads a plan. -/
def FaultPlan.decode : Decoder FaultPlan := .record ["faults", "count", "stickyJobs"] fun r => do
  let faults ← r.withDefault "faults" (.list Fault.decode) []
  let count ← r.optional "count" .nat64
  let repeatsJobs ← r.withDefault "stickyJobs" .bool false
  return { faults, count, repeatsJobs }

/-- An environment that is watched. -/
structure Rehearsal (σ : Type) where
  world : σ
  plan : FaultPlan := {}
  /-- The operations called since the plan was made, in reverse order. -/
  made : List EngineOperation := []
  /-- The operations called since the last run began, in reverse order. -/
  calls : List EngineOperation := []

namespace Rehearsal

variable {σ α : Type}

/-- The rehearsal with another plan. -/
def withPlan (r : Rehearsal σ) (plan : FaultPlan) : Rehearsal σ := { r with plan, made := [] }

/-- The rehearsal at the beginning of a run. -/
def cleared (r : Rehearsal σ) : Rehearsal σ := { r with calls := [] }

/-- The names of the operations called since the last run began, in order. -/
def callNames (r : Rehearsal σ) : List String := r.calls.reverse.map EngineOperation.name

/-- The fault that strikes an operation after it was called so many times. -/
def fault? (plan : FaultPlan) (op : EngineOperation) (calls : Nat) : Option Fault :=
  plan.faults.find? fun f => f.operation == op.name && f.after ≤ calls

/-- Watches a call of an operation. -/
def watch (op : EngineOperation) (x : Action (Rehearsal σ) ConnectorError α) :
    Action (Rehearsal σ) ConnectorError α := fun r =>
  let noted := { r with made := op :: r.made, calls := op :: r.calls }
  match fault? r.plan op (r.made.count op) with
  | some f => (.error ⟨op.side, op.name, f.message⟩, noted)
  | none => x noted

/-- An action of the environment that is watched. -/
def inside {ε : Type} (x : Action σ ε α) : Action (Rehearsal σ) ε α :=
  x.onPart Rehearsal.world fun world r => { r with world }

/-- An operation of the environment, watched. -/
def watched (op : EngineOperation) (x : Action σ ConnectorError α) :
    Action (Rehearsal σ) ConnectorError α := watch op (inside x)

/-- The source engine, watched. -/
def sourceEngine (s : SourceEngine σ) : SourceEngine (Rehearsal σ) where
  count := watch .countInstances fun r =>
    match r.plan.count with
    | some n => (.ok n, r)
    | none => inside s.count r
  listAfter after limit := watched .listInstances (s.listAfter after limit)
  find? id := watched .findInstance (s.find? id)
  activityTree id := watched .activityTree (s.activityTree id)
  variablesOf scopeId := watched .readVariables (s.variablesOf scopeId)
  completedBefore id gateway := watched .completedActivities (s.completedBefore id gateway)

/-- The target engine, watched; `waiting` are the jobs that it can hand out again. -/
def jobEngine (t : JobEngine σ) (waiting : σ → List Job) : JobEngine (Rehearsal σ) where
  createInstance request := watched .createInstance (t.createInstance request)
  modifyInstance key terminated activations :=
    watched .modifyInstance (t.modifyInstance key terminated activations)
  searchDefinitions businessId := watched .searchDefinitions (t.searchDefinitions businessId)
  activateJobs jobType limit := watch .activateJobs fun r =>
    if r.plan.repeatsJobs then
      (.ok (((waiting r.world).filter fun j => j.jobType == jobType).take limit), r)
    else inside (t.activateJobs jobType limit) r
  jobBound r := max (t.jobBound r.world) (waiting r.world).length

/-- The mapping store, as it is. -/
def recordStore (s : RecordStore σ) : RecordStore (Rehearsal σ) where
  latest? := inside s.latest?
  «exists» id := inside (s.exists id)
  targetKey? id := inside (s.targetKey? id)
  insert record := inside (s.insert record)
  update id key := inside (s.update id key)
  countSkipped := inside s.countSkipped
  skipped offset limit := inside (s.skipped offset limit)

/-- An environment, watched. -/
def environment (env : Environment σ) (waiting : σ → List Job) : Environment (Rehearsal σ) :=
  ⟨sourceEngine env.source, jobEngine env.target waiting, recordStore env.store⟩

end Rehearsal

namespace Workspace

/-- The migrator of these settings and interceptors in a rehearsal over files. -/
def rehearsedMigrator (settings : MigrationSettings) (pipeline : Pipeline) :
    Migrator (Rehearsal Workspace) :=
  ⟨settings, pipeline, Rehearsal.environment environment fun w => w.target.state.outstanding⟩

end Workspace
end ProcessMigration
