import ProcessMigration.FlowNode
import ProcessMigration.Source.Activity
import ProcessMigration.Strategy

/-!
# From an activity tree to flow nodes

`resolve` finds the elements that the target engine must activate so that the instance goes on where
the tree says it stands. Each is filed under the id of the source token that it stands for.

* Every node below the root **emits** after its own subtree: a node without children and
  transitions stands for itself, a parallel gateway is treated by the strategy, a sub-process and
  any other inner node emit nothing.
* After its children a node emits its transitions, those to a sub-process excepted.
* Where two emissions have the same id the later one counts.
-/

namespace ProcessMigration

/-- For each gateway, by the id of its instance, the activities that finished before it. -/
abbrev BranchHistory := SortedMap (List CompletedActivity)

namespace BranchHistory

/-- The activities that finished before a gateway. -/
def before (h : BranchHistory) (gatewayId : String) : List CompletedActivity :=
  (h.get? gatewayId).getD []

end BranchHistory

namespace CompletedActivity

/-- The later of two completions: a missing end time is the earliest, and of two that ended at the
same time the second one counts. -/
def later (current candidate : CompletedActivity) : CompletedActivity :=
  if Instant.before candidate.endTime current.endTime then current else candidate

/-- Notes a completion as the last one of its activity unless a later one is noted. -/
def note (latest : SortedMap CompletedActivity) (a : CompletedActivity) :
    SortedMap CompletedActivity :=
  latest.insert a.activityId <|
    match latest.get? a.activityId with
    | some current => later current a
    | none => a

/-- The last completion of each activity, by activity id. -/
def lastPerActivity (completed : List CompletedActivity) : SortedMap CompletedActivity :=
  completed.foldl note .empty

end CompletedActivity

namespace FlowNode

/-- What a waiting parallel gateway emits. -/
def ofGateway (strategy : GatewayStrategy) (history : BranchHistory) (g : Activity) :
    List (String × FlowNode) :=
  match strategy with
  | .ignore => []
  | .activateLastActivities =>
    (CompletedActivity.lastPerActivity (history.before g.id)).values.map fun b =>
      (b.id, ⟨b.activityId, b.calledInstance, some b.activityType, .replayedBranch⟩)
  | .migrate | .skip => [(g.id, ⟨g.activityId, g.subProcess, some g.activityType, .gateway⟩)]

/-- What a node below the root emits by itself. -/
def ofActivity (strategy : GatewayStrategy) (history : BranchHistory) (a : Activity) :
    List (String × FlowNode) :=
  if a.isOf ActivityType.subProcess then []
  else if a.isOf ActivityType.parallelGateway then ofGateway strategy history a
  else if a.children.isEmpty && a.transitions.isEmpty then
    [(a.id, ⟨a.activityId, a.subProcess, some a.activityType, .activity⟩)]
  else []

/-- What a node's transitions emit. -/
def ofTransitions (ts : List Transition) : List (String × FlowNode) :=
  (ts.filter fun t => t.activityType != ActivityType.subProcess).map fun t =>
    (t.id, ⟨t.activityId, t.subProcess, none, .transition⟩)

mutual

/-- The emissions of a tree below its root, in order. -/
def emissions (strategy : GatewayStrategy) (history : BranchHistory) :
    Activity → List (String × FlowNode)
  | ⟨_, _, _, _, children, transitions⟩ =>
    childEmissions strategy history children ++ ofTransitions transitions

/-- The emissions of a node's children. -/
def childEmissions (strategy : GatewayStrategy) (history : BranchHistory) :
    List Activity → List (String × FlowNode)
  | [] => []
  | a :: rest =>
    emissions strategy history a ++ ofActivity strategy history a
      ++ childEmissions strategy history rest

end

/-- The flow nodes to activate, by the ids of the tokens they stand for. -/
def resolve (strategy : GatewayStrategy) (history : BranchHistory) (tree : Activity) :
    SortedMap FlowNode :=
  .ofList (emissions strategy history tree)

end FlowNode
end ProcessMigration
