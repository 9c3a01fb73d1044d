import ProcessMigration.Action
import ProcessMigration.Connector
import ProcessMigration.FileError
import ProcessMigration.Source.Activity
import ProcessMigration.Source.Variable

/-!
# The source engine as a snapshot

A snapshot lists the running instances of the source engine with all that is known of them. A
`SnapshotSource` keeps them in the order of the listing and answers questions about them; where
several instances have the same id, the first one in that order is meant.
-/

namespace ProcessMigration

/-- A running instance with its tree, its variables and, by the activity ids of parallel gateways,
the activities that finished before these. -/
structure SnapshotInstance where
  inst : SourceInstance
  tree : Activity
  vars : List SourceVariable
  completed : SortedMap (List CompletedActivity)

instance : Inhabited SnapshotInstance := ⟨⟨⟨"", "", "", none, none⟩, default, [], .empty⟩⟩

/-- The source engine at one moment. -/
structure SnapshotSource where
  instances : List SnapshotInstance

namespace SnapshotSource

/-- The source of a list of instances: sorted by their places, equal ones in the given order. -/
def ofInstances (xs : List SnapshotInstance) : SnapshotSource :=
  ⟨xs.mergeSort fun a b => !b.inst.cursor.lt a.inst.cursor⟩

/-- The instance of an id. -/
def instance? (s : SnapshotSource) (id : String) : Option SnapshotInstance :=
  s.instances.find? fun i => i.inst.id == id

/-- The instances after a place, or all of them, at most `limit`. -/
def listAfter (s : SnapshotSource) (after : Option Cursor) (limit : Nat) : List SourceInstance :=
  ((s.instances.map (·.inst)).filter fun i =>
    match after with
    | some c => c.precedes i
    | none => true).take limit

/-- The number of instances. -/
def count (s : SnapshotSource) : Nat := s.instances.length

/-- The instance of an id, without what is known of it. -/
def find? (s : SnapshotSource) (id : String) : Option SourceInstance :=
  (s.instance? id).map (·.inst)

/-- The complaint of an operation about an id that is not there. -/
def unknownInstance (operation id : String) : ConnectorError :=
  ⟨.source, operation, "unknown process instance " ++ id⟩

/-- The tree of an instance. -/
def activityTree (s : SnapshotSource) (id : String) : Except ConnectorError Activity :=
  match s.instance? id with
  | some i => .ok i.tree
  | none => .error (unknownInstance "activity_tree" id)

/-- The variables of a scope, of whichever instance they are recorded under. -/
def variablesOf (s : SnapshotSource) (scopeId : String) : List SourceVariable :=
  (s.instances.flatMap (·.vars)).filter fun v => v.scopeId == scopeId

/-- The activities that finished before a gateway of an instance. -/
def completedBefore (s : SnapshotSource) (id gatewayActivityId : String) :
    Except ConnectorError (List CompletedActivity) :=
  match s.instance? id with
  | some i => .ok ((i.completed.get? gatewayActivityId).getD [])
  | none => .error (unknownInstance "completed_activities_before" id)

end SnapshotSource

/-! ## Written form -/

namespace SnapshotInstance

/-- The fields of a snapshot instance besides those of the instance itself. -/
def ownFields : List String := ["activityTree", "variables", "completedActivities"]

/-- The members with other names, all of which must be readable. -/
def others? (room : Nat) :
    List (Option String × Document) → Option (List (Option String × Document))
  | [] => some []
  | (k, x) :: rest => do
    let key ← k
    let rest ← others? room rest
    if ownFields.contains key then return rest
    else
      let _ ← Decoder.json room x
      return (some key, x) :: rest

/-- Reads a snapshot instance: the fields of the instance stand among its own. -/
def decode : Decoder SnapshotInstance := fun room doc => do
  let r ← Record.ofObject? ownFields room doc
  let tree ← r.required "activityTree" Activity.decode
  let vars ← r.withDefault "variables" (.list SourceVariable.decode) []
  let completed ← r.withDefault "completedActivities" (.map (.list CompletedActivity.decode)) .empty
  match doc with
  | .object members => do
    let others ← others? r.room members
    let fields ← Record.ofObject? SourceInstance.fieldNames room (.object others)
    let inst ← SourceInstance.ofRecord? fields
    return ⟨inst, tree, vars, completed⟩
  | _ => none

/-- Writes a snapshot instance. -/
def encode (s : SnapshotInstance) : Json :=
  .object (s.inst.members ++ [("activityTree", s.tree.encode),
    ("variables", .array (s.vars.map SourceVariable.encode)),
    ("completedActivities",
      .ofMap (s.completed.map fun xs => .array (xs.map CompletedActivity.encode)))])

end SnapshotInstance

namespace SnapshotSource

/-- Reads the instances of a snapshot. -/
def decodeInstances : Decoder (List SnapshotInstance) := .record ["instances"] fun r =>
  r.withDefault "instances" (.list SnapshotInstance.decode) []

/-- Writes the instances of a snapshot. -/
def encodeInstances (xs : List SnapshotInstance) : Json :=
  .object [("instances", .array (xs.map SnapshotInstance.encode))]

/-- The source of a snapshot text. -/
def read? (s : String) : Option SnapshotSource := (decodeInstances.ofText? s).map ofInstances

end SnapshotSource
end ProcessMigration
