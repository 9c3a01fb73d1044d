import ProcessMigration.Key
import ProcessMigration.Target.Definition
import ProcessMigration.Target.Journal

/-!
# The state of the target engine

The state is what the journal says: the instances, the jobs that still wait, and the keys that must
not be used again. Only which jobs have been handed out is not in the journal.

`TargetState.apply` adds one entry. A started instance brings its jobs along; a modified one loses
the jobs that wait on the terminated element instance.
-/

namespace ProcessMigration

/-- An instance on the target engine. -/
structure TargetInstance where
  instanceKey : Int
  definitionKey : Int
  businessId : String
  vars : Variables
  activeElements : List Activation
  terminated : List Int

/-- The state of the target engine. -/
structure TargetState where
  keys : KeyAllocator
  instances : List TargetInstance
  outstanding : List Job
  handedOut : List Int

/-- The partition of the keys that the journal engine makes. -/
def journalPartition : Int := 1

/-- Writes an instance. -/
def TargetInstance.encode (i : TargetInstance) : Json :=
  .object [("instanceKey", .int i.instanceKey), ("definitionKey", .int i.definitionKey),
    ("businessId", .string i.businessId), ("variables", .ofMap i.vars),
    ("activeElements", .array (i.activeElements.map Activation.encode)),
    ("terminated", .array (i.terminated.map .int))]

namespace TargetState

/-- The state before any entry. Keys of definitions are not used again. -/
def start (definitions : List Definition) : TargetState :=
  ⟨definitions.foldl (fun a d => a.resumeAfter d.key) (.forPartition journalPartition), [], [], []⟩

/-- The instance of a key. -/
def instance? (s : TargetState) (key : Int) : Option TargetInstance :=
  s.instances.find? fun i => i.instanceKey == key

/-- The jobs of a started instance. -/
def jobsOf (e : StartedInstance) : List Job :=
  e.jobs.map fun j =>
    ⟨j.key, j.jobType, e.instanceKey, e.startElementInstanceKey.getD e.instanceKey,
      e.startElementId.getD "", e.vars⟩

/-- All keys of a started instance. -/
def keysOf (e : StartedInstance) : List Int :=
  e.instanceKey :: e.startElementInstanceKey.toList ++ e.jobs.map (·.key)

/-- Adds a started instance, in place of one with the same key. -/
def create (s : TargetState) (e : StartedInstance) : TargetState :=
  let i : TargetInstance := ⟨e.instanceKey, e.definitionKey, e.businessId, e.vars, [], []⟩
  { s with
    keys := (keysOf e).foldl (fun a k => a.resumeAfter k) s.keys
    instances := s.instances.filter (fun j => j.instanceKey != e.instanceKey) ++ [i]
    outstanding := s.outstanding ++ jobsOf e }

/-- The job waits on this element instance. -/
def waitsOn (m : ModifiedInstance) (j : Job) : Bool :=
  j.instanceKey == m.instanceKey && j.elementInstanceKey == m.terminatedKey

/-- An instance after its tokens were moved. -/
def moved (m : ModifiedInstance) (i : TargetInstance) : TargetInstance :=
  { i with
    terminated := i.terminated ++ [m.terminatedKey]
    activeElements := i.activeElements ++ m.activations }

/-- Moves the tokens of an instance. -/
def modify (s : TargetState) (m : ModifiedInstance) : TargetState :=
  { s with
    instances := s.instances.map fun i => if i.instanceKey == m.instanceKey then moved m i else i
    outstanding := s.outstanding.filter fun j => !waitsOn m j }

/-- The complaint about an instance key that is not there. -/
def unknownInstance (key : Int) : String := "unknown process instance key " ++ toString key

/-- Adds one entry. -/
def apply (s : TargetState) : JournalEntry → Except String TargetState
  | .create e => .ok (s.create e)
  | .modify m =>
    if (s.instance? m.instanceKey).isSome then .ok (s.modify m)
    else .error (unknownInstance m.instanceKey)

end TargetState
end ProcessMigration
