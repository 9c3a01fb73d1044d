import ProcessMigration.FlowNode.Resolve
import ProcessMigration.Migration.Environment
import ProcessMigration.Migration.Settings
import ProcessMigration.Variables.Pipeline

/-!
# Preparing an instance

Before anything is sent to the target engine, everything that it needs is resolved, checked and sent
through the interceptors. `Migrator.prepare` answers with what is to be sent, or with the reason for
skipping the instance; only a failing engine or a broken interceptor ends the run.

The checks come in this order: the tree, the flow nodes, a definition that fits, that definition
against the flow nodes, the variables of the instance, the variables of each flow node.
-/

namespace ProcessMigration

/-- What is sent for an instance: the request that starts it, and the activations that move it onto
its active elements once its job comes up. -/
structure Prepared where
  request : CreateRequest
  activations : List Activation

/-- The outcome of preparing an instance. -/
inductive Preparation where
  | ready (prepared : Prepared)
  | skip (reason : String)

/-- Why a preparation does not get to its end. -/
inductive Obstacle where
  /-- The instance cannot be carried over. -/
  | skip (reason : String)
  /-- The run ends. -/
  | halt (cause : MigrationError)

/-- A migrator: its settings, its interceptors and its environment. -/
structure Migrator (σ : Type) where
  settings : MigrationSettings
  pipeline : Pipeline
  env : Environment σ

namespace Migrator

variable {σ α : Type}

/-- A question to an engine in the course of a preparation. -/
def ask (x : Action σ ConnectorError α) : Action σ Obstacle α :=
  x.mapError fun e => .halt (.connector e)

/-- A check whose failure is a reason to skip. -/
def check (r : Except ValidationError α) : Action σ Obstacle α :=
  .ofExcept (r.mapError fun e => .skip e.message)

/-- The variables of a scope after the interceptors. -/
def transformed (m : Migrator σ) (scopeId : String) : Action σ Obstacle Variables := do
  let vs ← ask (m.env.source.variablesOf scopeId)
  .ofExcept <| (m.pipeline.transform vs).mapError fun e =>
    match e with
    | .refused .. => .skip e.message
    | .crashed message => .halt (.crashed message)

/-- Notes what finished before gateways of an instance, by the ids of the gateway instances. -/
def noteHistory (m : Migrator σ) (id : String) :
    List Activity → BranchHistory → Action σ Obstacle BranchHistory
  | [], h => return h
  | gateway :: rest, h => do
    let completed ← ask (m.env.source.completedBefore id gateway.activityId)
    noteHistory m id rest (h.insert gateway.id completed)

/-- What finished before the gateways of a tree, where the strategy wants to know. -/
def history (m : Migrator σ) (id : String) (tree : Activity) : Action σ Obstacle BranchHistory :=
  if m.settings.strategy = .activateLastActivities then
    m.noteHistory id (tree.search ActivityType.parallelGateway) .empty
  else return .empty

/-- The variables with the id of a source instance among them. -/
def withLegacyId (id : String) (vs : Variables) : Variables :=
  vs.insert legacyIdVariable (.string id)

/-- The activations of flow nodes, in the order of their keys. An element that stands for a called
instance carries its id. -/
def activations (m : Migrator σ) : List (String × FlowNode) → Action σ Obstacle (List Activation)
  | [] => return []
  | (scopeId, node) :: rest => do
    let vs ← m.transformed scopeId
    let vs := match node.subProcess with
      | some id => withLegacyId id vs
      | none => vs
    let others ← activations m rest
    return ⟨node.activityId, vs⟩ :: others

/-- Goes through the preparation up to the first obstacle. -/
def resolveAll (m : Migrator σ) (i : SourceInstance) : Action σ Obstacle Prepared := do
  let v := m.settings.validator
  let tree ← ask (m.env.source.activityTree i.id)
  check (v.checkTree tree)
  let history ← m.history i.id tree
  let nodes := FlowNode.resolve m.settings.strategy history tree
  check (v.checkFlowNodes i nodes)
  let definitions ← ask (m.env.target.searchDefinitions i.processKey)
  let definition ← check (Validator.select i definitions)
  check (v.checkDefinition definition nodes)
  let vs ← m.transformed i.id
  let activations ← m.activations nodes.entries
  return {
    request := ⟨definition.key, definition.businessId, definition.tenant, withLegacyId i.id vs⟩
    activations }

/-- What is to be sent for an instance, or why it is skipped. -/
def prepare (m : Migrator σ) (i : SourceInstance) : Action σ MigrationError Preparation := fun s =>
  match m.resolveAll i s with
  | (.ok prepared, s) => (.ok (.ready prepared), s)
  | (.error (.skip reason), s) => (.ok (.skip reason), s)
  | (.error (.halt cause), s) => (.error cause, s)

end Migrator
end ProcessMigration
