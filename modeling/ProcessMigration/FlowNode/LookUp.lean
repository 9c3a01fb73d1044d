import ProcessMigration.Action
import ProcessMigration.FlowNode.Resolve

/-!
# Looking up what finished before a gateway

The flow nodes of a tree do not tell at which gateways the history was looked up for them. Here the
history is in the hands of somebody who is asked for each entry as it is needed.

* `FlowNode.askResolve` resolves a tree and asks for what it has to know;
* `BranchHistory.noting` answers from a history and notes the gateway that it was asked about.
-/

namespace ProcessMigration

/-- Answers what finished before a gateway and notes the id of the gateway. -/
def BranchHistory.noting {ε : Type} (h : BranchHistory) (gatewayId : String) :
    Action (List String) ε (List CompletedActivity) :=
  fun asked => (.ok (h.before gatewayId), asked ++ [gatewayId])

namespace FlowNode

variable {σ ε : Type} (strategy : GatewayStrategy)
  (ask : String → Action σ ε (List CompletedActivity))

/-- What a waiting parallel gateway emits. -/
def askGateway (g : Activity) : Action σ ε (List (String × FlowNode)) :=
  match strategy with
  | .ignore => return []
  | .activateLastActivities => do
    let completed ← ask g.id
    return (CompletedActivity.lastPerActivity completed).values.map fun b =>
      (b.id, ⟨b.activityId, b.calledInstance, some b.activityType, .replayedBranch⟩)
  | .migrate | .skip => return [(g.id, ⟨g.activityId, g.subProcess, some g.activityType, .gateway⟩)]

/-- What a node below the root emits by itself. -/
def askActivity (a : Activity) : Action σ ε (List (String × FlowNode)) :=
  if a.isOf ActivityType.subProcess then return []
  else if a.isOf ActivityType.parallelGateway then askGateway strategy ask a
  else if a.children.isEmpty && a.transitions.isEmpty then
    return [(a.id, ⟨a.activityId, a.subProcess, some a.activityType, .activity⟩)]
  else return []

mutual

/-- The emissions of a tree below its root, in order. -/
def askEmissions : Activity → Action σ ε (List (String × FlowNode))
  | ⟨_, _, _, _, children, transitions⟩ => do
    let below ← askChildEmissions children
    return below ++ ofTransitions transitions

/-- The emissions of a node's children. -/
def askChildEmissions : List Activity → Action σ ε (List (String × FlowNode))
  | [] => return []
  | a :: rest => do
    let below ← askEmissions a
    let own ← askActivity strategy ask a
    let others ← askChildEmissions rest
    return below ++ own ++ others

end

/-- The flow nodes to activate, by the ids of the tokens they stand for. -/
def askResolve (tree : Activity) : Action σ ε (SortedMap FlowNode) := do
  return .ofList (← askEmissions strategy ask tree)

end FlowNode
end ProcessMigration
