import ProcessMigration.Json.Decode
import ProcessMigration.Source.Instance

/-!
# The activity tree of a running instance

The source engine describes where an instance stands by a tree of activity instances; its root is
the process instance itself. A **transition** is a token that waits between two activities. A
`CompletedActivity` finished on a branch that has reached a parallel gateway.

`Activity.preorder` lists a tree's nodes, each before its children and these from left to right.
-/

namespace ProcessMigration

/-- A token that waits before an activity. -/
structure Transition where
  id : String
  activityId : String
  activityType : String
  subProcess : Option String
  deriving DecidableEq, Repr

/-- A node of the activity tree. -/
structure Activity where
  id : String
  activityId : String
  activityType : String
  subProcess : Option String
  children : List Activity
  transitions : List Transition
  deriving Repr, Inhabited

/-- An activity that finished before a parallel gateway was reached. -/
structure CompletedActivity where
  id : String
  activityId : String
  activityType : String
  calledInstance : Option String
  endTime : Option Instant
  deriving DecidableEq, Repr

/-! ## Activity types with a meaning of their own -/

namespace ActivityType

/-- A sub-process: only what runs inside it counts. -/
def subProcess : String := "subProcess"

/-- A parallel gateway that waits for further branches. -/
def parallelGateway : String := "parallelGateway"

/-- The body of an activity that runs several times. -/
def multiInstanceBody : String := "multiInstanceBody"

end ActivityType

namespace Activity

/-- The activity has this type. -/
def isOf (a : Activity) (type : String) : Bool := a.activityType == type

mutual

/-- The nodes of a tree, each before its children, these from left to right. -/
def preorder : Activity → List Activity
  | a@⟨_, _, _, _, children, _⟩ => a :: preorderAll children

/-- The nodes of several trees, one tree after the other. -/
def preorderAll : List Activity → List Activity
  | [] => []
  | a :: rest => preorder a ++ preorderAll rest

end

end Activity

/-! ## Written form -/

namespace Transition

/-- Reads a transition. -/
def decode : Decoder Transition :=
  .record ["id", "activityId", "activityType", "subProcessInstanceId"] fun r => do
    let id ← r.required "id" .text
    let activityId ← r.required "activityId" .text
    let activityType ← r.required "activityType" .text
    let subProcess ← r.optional "subProcessInstanceId" .text
    return ⟨id, activityId, activityType, subProcess⟩

/-- Writes a transition. -/
def encode (t : Transition) : Json :=
  .object [("id", .string t.id), ("activityId", .string t.activityId),
    ("activityType", .string t.activityType), ("subProcessInstanceId", .ofText? t.subProcess)]

end Transition

namespace Activity

/-- Reads a tree of at most `levels` levels. -/
def decodeWithin : Nat → Decoder Activity
  | 0 => fun _ _ => none
  | levels + 1 =>
    .record ["id", "activityId", "activityType", "subProcessInstanceId", "children", "transitions"]
      fun r => do
        let id ← r.required "id" .text
        let activityId ← r.required "activityId" .text
        let activityType ← r.required "activityType" .text
        let subProcess ← r.optional "subProcessInstanceId" .text
        let children ← r.withDefault "children" (.list (decodeWithin levels)) []
        let transitions ← r.withDefault "transitions" (.list Transition.decode) []
        return ⟨id, activityId, activityType, subProcess, children, transitions⟩

/-- Reads a tree. Every level takes room, so the room bounds the levels. -/
def decode : Decoder Activity := fun room => decodeWithin room room

mutual

/-- Writes a tree. -/
def encode : Activity → Json
  | ⟨id, activityId, activityType, subProcess, children, transitions⟩ =>
    .object [("id", .string id), ("activityId", .string activityId),
      ("activityType", .string activityType), ("subProcessInstanceId", .ofText? subProcess),
      ("children", .array (encodeAll children)),
      ("transitions", .array (transitions.map Transition.encode))]

/-- Writes several trees. -/
def encodeAll : List Activity → List Json
  | [] => []
  | a :: rest => encode a :: encodeAll rest

end

end Activity

namespace CompletedActivity

/-- Reads a completed activity. -/
def decode : Decoder CompletedActivity :=
  .record ["id", "activityId", "activityType", "calledProcessInstanceId", "endTime"] fun r => do
    let id ← r.required "id" .text
    let activityId ← r.required "activityId" .text
    let activityType ← r.required "activityType" .text
    let called ← r.optional "calledProcessInstanceId" .text
    let endTime ← r.optional "endTime" .instant
    return ⟨id, activityId, activityType, called, endTime⟩

/-- Writes a completed activity. -/
def encode (a : CompletedActivity) : Json :=
  .object [("id", .string a.id), ("activityId", .string a.activityId),
    ("activityType", .string a.activityType), ("calledProcessInstanceId", .ofText? a.calledInstance),
    ("endTime", .ofInstant? a.endTime)]

end CompletedActivity
end ProcessMigration
