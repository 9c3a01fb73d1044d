import ProcessMigration.FlowNode
import ProcessMigration.Source.Search
import ProcessMigration.Strategy
import ProcessMigration.Target.Definition

/-!
# Checks before an instance is carried over

A source instance can be carried over when its tree holds nothing that has no counterpart, when it
has at least one flow node to activate, and when a deployed definition fits it. `ValidationError`
lists what can be wrong; its message becomes the reason for skipping the instance.
-/

namespace ProcessMigration

/-- Why an instance cannot be carried over. -/
inductive ValidationError where
  | multiInstance (activityId : String)
  | activeParallelGateway (activityId : String)
  | noTargetDefinition (businessId legacyId : String)
  | noStartEvent (definitionKey : Int)
  | missingListener (jobType startEvent businessId : String)
  | unknownFlowNode (activityId : String)
  | noActiveFlowNodes (legacyId : String) (strategy : GatewayStrategy)
  deriving DecidableEq, Repr

/-- The wording of a validation error. -/
def ValidationError.message : ValidationError → String
  | .multiInstance id =>
    "Found multi-instance loop characteristics for flow node with id [" ++ id
      ++ "] in source process instance."
  | .activeParallelGateway id =>
    "Parallel gateway [" ++ id
      ++ "] is active in source process instance and the gateway strategy is SKIP."
  | .noTargetDefinition businessId legacyId =>
    "No target deployment found for process ID [" ++ businessId
      ++ "] required for instance with legacyID [" ++ legacyId ++ "]."
  | .noStartEvent key =>
    "Couldn't find process None Start Event in target process with key [" ++ toString key ++ "]."
  | .missingListener jobType startEvent businessId =>
    "No execution listener of type '" ++ jobType ++ "' found on start event [" ++ startEvent
      ++ "] in target process with id [" ++ businessId ++ "]. At least one '" ++ jobType
      ++ "' listener is required."
  | .unknownFlowNode id =>
    "Flow node with id [" ++ id ++ "] doesn't exist in the equivalent deployed target model."
  | .noActiveFlowNodes legacyId strategy =>
    "No active flow nodes could be resolved for process instance [" ++ legacyId
      ++ "] under gateway strategy " ++ strategy.name ++ "."

/-- What the checks depend on. -/
structure Validator where
  strategy : GatewayStrategy
  jobType : String
  jobTypeValidation : Bool
  deriving DecidableEq, Repr

namespace Validator

/-- The mark at the end of the activity id of a multi-instance body. -/
def multiInstanceMark : List Char := "#multiInstanceBody".toList

/-- An activity id without the mark of a multi-instance body. -/
def withoutMark (activityId : String) : String :=
  let cs := activityId.toList
  if multiInstanceMark.isSuffixOf cs then
    String.ofList (cs.take (cs.length - multiInstanceMark.length))
  else activityId

/-- The tree has no multi-instance body, and no parallel gateway where these are skipped. -/
def checkTree (v : Validator) (tree : Activity) : Except ValidationError Unit :=
  match tree.search ActivityType.multiInstanceBody with
  | body :: _ => .error (.multiInstance (withoutMark body.activityId))
  | [] =>
    if v.strategy = .skip then
      match tree.search ActivityType.parallelGateway with
      | gateway :: _ => .error (.activeParallelGateway gateway.activityId)
      | [] => .ok ()
    else .ok ()

/-- There is something to activate: otherwise the target instance would end at once. -/
def checkFlowNodes (v : Validator) (i : SourceInstance) (nodes : SortedMap FlowNode) :
    Except ValidationError Unit :=
  if nodes.entries.isEmpty then .error (.noActiveFlowNodes i.id v.strategy) else .ok ()

/-- The definition was deployed for the instance's process and tenant. -/
def fits (i : SourceInstance) (d : Definition) : Bool :=
  d.businessId == i.processKey && d.tenant == i.tenant

/-- The definition of the greatest version, of equal ones the last. -/
def newest? : List Definition → Option Definition
  | [] => none
  | d :: rest =>
    match newest? rest with
    | none => some d
    | some e => if e.version < d.version then some d else some e

/-- The newest definition that fits the instance. -/
def select (i : SourceInstance) (definitions : List Definition) : Except ValidationError Definition :=
  match newest? (definitions.filter (fits i)) with
  | some d => .ok d
  | none => .error (.noTargetDefinition i.processKey i.id)

/-- The definition can receive the activations: it has a start event with a listener for the
migrator's jobs, unless that is not to be checked, and every flow node. -/
def checkDefinition (v : Validator) (d : Definition) (nodes : SortedMap FlowNode) :
    Except ValidationError Unit :=
  match d.startEvent with
  | none => .error (.noStartEvent d.key)
  | some start =>
    if v.jobTypeValidation && !start.listenerJobTypes.contains v.jobType then
      .error (.missingListener v.jobType start.id d.businessId)
    else
      match nodes.values.find? fun n => !d.hasFlowNode n.activityId with
      | some n => .error (.unknownFlowNode n.activityId)
      | none => .ok ()

end Validator
end ProcessMigration
