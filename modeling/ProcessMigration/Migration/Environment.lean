import ProcessMigration.Action
import ProcessMigration.Connector
import ProcessMigration.Mapping.Store
import ProcessMigration.Source.Snapshot
import ProcessMigration.Target.Command
import ProcessMigration.Target.Definition

/-!
# The environment of a run

A run talks to a source engine, a target engine and a mapping store. `Environment σ` holds what they
can be asked, as actions on a state `σ` of whatever kind: the same passes run over files, over
engines that fail on purpose, and over any other engines.

Any of these actions can fail. A failure ends the run, and what was done before it stays done.
-/

namespace ProcessMigration

/-- Why the listing cannot be printed. -/
inductive OutputError where
  /-- The output takes no more. -/
  | full
  deriving DecidableEq, Repr

/-- The wording of an output error. -/
def OutputError.message : OutputError → String
  | .full => "failed to write whole buffer"

/-- Why a run ends early. -/
inductive MigrationError where
  | store (cause : StoreError)
  | connector (cause : ConnectorError)
  | output (cause : OutputError)
  /-- An interceptor broke off. -/
  | crashed (message : String)
  /-- The target engine hands out more jobs than its environment allows. -/
  | endless
  deriving DecidableEq, Repr

/-- The wording of a migration error. -/
def MigrationError.message : MigrationError → String
  | .store cause => "mapping store failure: " ++ cause.message
  | .connector cause => cause.text
  | .output cause => "failed to write report output: " ++ cause.message
  | .crashed message => message
  | .endless => "the target engine does not run out of jobs"

/-- The wording of a migration error, followed by that of its causes. -/
def MigrationError.chain (e : MigrationError) : List String :=
  match e with
  | .store cause => e.message :: cause.chain
  | .output cause => [e.message, cause.message]
  | _ => [e.message]

/-- What the source engine can be asked. -/
structure SourceEngine (σ : Type) where
  /-- The number of running instances. -/
  count : Action σ ConnectorError Nat
  /-- Running instances after a place, in order, at most so many. -/
  listAfter (after : Option Cursor) (limit : Nat) : Action σ ConnectorError (List SourceInstance)
  /-- The running instance of an id. -/
  find? (id : String) : Action σ ConnectorError (Option SourceInstance)
  /-- The activity tree of an instance. -/
  activityTree (id : String) : Action σ ConnectorError Activity
  /-- The variables of a scope. -/
  variablesOf (scopeId : String) : Action σ ConnectorError (List SourceVariable)
  /-- The activities of an instance that finished before a gateway. -/
  completedBefore (id gatewayActivityId : String) :
    Action σ ConnectorError (List CompletedActivity)

/-- What the target engine can be asked. -/
structure JobEngine (σ : Type) where
  /-- Starts an instance. -/
  createInstance (request : CreateRequest) : Action σ ConnectorError InstanceHandle
  /-- Terminates an element instance and activates elements. -/
  modifyInstance (instanceKey terminatedKey : Int) (activations : List Activation) :
    Action σ ConnectorError Unit
  /-- The definitions of a business id. -/
  searchDefinitions (businessId : String) : Action σ ConnectorError (List Definition)
  /-- Hands out jobs of a type, at most so many. -/
  activateJobs (jobType : String) (limit : Nat) : Action σ ConnectorError (List Job)
  /-- A bound on the number of jobs that can be handed out without a new instance. -/
  jobBound : σ → Nat

/-- What the mapping store can be asked. -/
structure RecordStore (σ : Type) where
  /-- The place of the last record in the order of the listing. -/
  latest? : Action σ StoreError (Option Cursor)
  /-- There is a record of an id. -/
  «exists» (legacyId : String) : Action σ StoreError Bool
  /-- The target key of an id. -/
  targetKey? (legacyId : String) : Action σ StoreError (Option Int)
  /-- Adds a record. -/
  insert (record : MappingRecord) : Action σ StoreError Unit
  /-- Turns a skipped record into a migrated one. -/
  update (legacyId : String) (targetKey : Int) : Action σ StoreError Unit
  /-- The number of skipped records. -/
  countSkipped : Action σ StoreError Nat
  /-- A page of the skipped records. -/
  skipped (offset limit : Nat) : Action σ StoreError (List MappingRecord)

/-- Source engine, target engine and mapping store. -/
structure Environment (σ : Type) where
  source : SourceEngine σ
  target : JobEngine σ
  store : RecordStore σ

/-- A mapping store that refuses every change. -/
def RecordStore.readOnly {σ : Type} (s : RecordStore σ) : RecordStore σ :=
  { s with
    insert := fun _ => Action.fail (.database .readOnly)
    update := fun _ _ => Action.fail (.database .readOnly) }

/-- The environment with a mapping store that refuses every change. -/
def Environment.readOnly {σ : Type} (e : Environment σ) : Environment σ :=
  { e with store := e.store.readOnly }

end ProcessMigration
