import ProcessMigration.Json.Decode

/-!
# Flow nodes to activate

A flow node is an element that the target engine must activate so that a token of the source
instance goes on there. Its **origin** says which part of the activity tree it stands for.
-/

namespace ProcessMigration

/-- The part of the activity tree that a flow node stands for. -/
inductive Origin where
  | activity
  | gateway
  | transition
  /-- An activity that finished before a gateway and is run again. -/
  | replayedBranch
  deriving DecidableEq, Repr

namespace Origin

/-- The name of an origin. -/
def name : Origin → String
  | .activity => "activity"
  | .gateway => "gateway"
  | .transition => "transition"
  | .replayedBranch => "replayed_branch"

/-- The origin of this name. -/
def ofName? (s : String) : Option Origin :=
  [activity, gateway, transition, replayedBranch].find? fun o => o.name == s

end Origin

/-- An element to activate on the target engine. -/
structure FlowNode where
  activityId : String
  subProcess : Option String
  activityType : Option String
  origin : Origin
  deriving DecidableEq, Repr

namespace FlowNode

/-- Reads a flow node. -/
def decode : Decoder FlowNode :=
  .record ["activity_id", "sub_process_instance_id", "activity_type", "origin"] fun r => do
    let activityId ← r.required "activity_id" .text
    let subProcess ← r.orNull "sub_process_instance_id" .text
    let activityType ← r.orNull "activity_type" .text
    let origin ← r.required "origin" (.name Origin.ofName?)
    return ⟨activityId, subProcess, activityType, origin⟩

/-- Writes a flow node. -/
def encode (n : FlowNode) : Json :=
  .object [("activity_id", .string n.activityId), ("sub_process_instance_id", .ofText? n.subProcess),
    ("activity_type", .ofText? n.activityType), ("origin", .string n.origin.name)]

end FlowNode
end ProcessMigration
