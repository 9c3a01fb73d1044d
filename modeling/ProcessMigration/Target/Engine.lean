import ProcessMigration.Action
import ProcessMigration.Connector
import ProcessMigration.FileError
import ProcessMigration.Target.State
import ProcessMigration.Text.Blank
import ProcessMigration.Text.Lines

/-!
# The target engine behind a journal

The engine knows its definitions, keeps its state and appends every accepted command to the journal
before the command takes effect. Opening it again on the same journal gives the same state, except
that no job counts as handed out.

* `TargetEngine.open` reads the journal line by line; blank lines are passed over;
* `createInstance` and `modifyInstance` are the commands, `activateJobs` hands out jobs, each of
  them once.

A refused command leaves the text of the journal, instances and jobs as they were; the keys it has
drawn stay drawn.
-/

namespace ProcessMigration

/-- The file of the journal. -/
inductive JournalFile where
  | absent
  | text (content : String)
  /-- The file is not there and cannot be made; it may have been tried. -/
  | unwritable (cause : FileError) (tried : Bool)
  /-- The file can be neither read nor written. -/
  | broken (cause : FileError)
  deriving DecidableEq, Repr

namespace JournalFile

/-- Appends a line. -/
def append (line : String) : JournalFile → Except FileError JournalFile
  | .absent => .ok (.text (line ++ "\n"))
  | .text content => .ok (.text (content ++ line ++ "\n"))
  | .unwritable cause _ => .error cause
  | .broken cause => .error cause

/-- The file after a line could not be appended. -/
def tried : JournalFile → JournalFile
  | .unwritable cause _ => .unwritable cause true
  | f => f

/-- What the file holds beyond what it held before. -/
def addedTo (before : JournalFile) : JournalFile → String
  | .text s =>
    match before with
    | .text old => String.ofList (s.toList.drop old.length)
    | _ => s
  | _ => ""

/-- The text of the journal, empty before the first command. -/
def content : JournalFile → Except FileError String
  | .absent => .ok ""
  | .text content => .ok content
  | .unwritable _ _ => .ok ""
  | .broken cause => .error cause

end JournalFile

/-- The target engine. -/
structure TargetEngine where
  definitions : List Definition
  journal : JournalFile
  state : TargetState

/-- A call to the target engine. -/
abbrev TargetAction (α : Type) := Action TargetEngine ConnectorError α

namespace TargetEngine

/-! ## Opening -/

/-- A blank line. -/
def isBlankLine (line : String) : Bool := line.toList.all Text.isBlank

/-- Adds the entries of the lines, counted from `number`. -/
def replay (path : String) (s : TargetState) (number : Nat) :
    List String → Except LoadError TargetState
  | [] => .ok s
  | line :: rest =>
    if isBlankLine line then replay path s (number + 1) rest
    else
      match JournalEntry.read? line with
      | none => .error (.undecodable path number)
      | some e =>
        match s.apply e with
        | .error message => .error (.inapplicable path number message)
        | .ok s => replay path s (number + 1) rest

/-- Opens the engine on a journal. -/
def «open» (definitions : List Definition) (path : String) (journal : JournalFile) :
    Except LoadError TargetEngine :=
  match journal.content with
  | .error cause => .error (.file path cause)
  | .ok content =>
    match replay path (TargetState.start definitions) 1 (Text.lines content) with
    | .error e => .error e
    | .ok state => .ok ⟨definitions, journal, state⟩

/-! ## Commands -/

/-- A refused call. -/
def refuse {α : Type} (operation message : String) : TargetAction α :=
  Action.fail ⟨.target, operation, message⟩

/-- Draws a key. -/
def drawKey : TargetAction Int := fun t =>
  match t.state.keys.next? with
  | some (key, keys) => (.ok key, { t with state := { t.state with keys } })
  | none => (.error ⟨.target, "create_instance", "key space exhausted"⟩, t)

/-- Draws a key for a job of each type. -/
def drawJobs : List String → TargetAction (List JournalJob)
  | [] => return []
  | jobType :: rest => do
    let key ← drawKey
    let jobs ← drawJobs rest
    return ⟨key, jobType⟩ :: jobs

/-- Appends an entry to the journal and lets it take effect. -/
def accept (operation : String) (e : JournalEntry) : TargetAction Unit := fun t =>
  match t.journal.append e.line with
  | .error cause =>
    (.error ⟨.target, operation, cause.message⟩, { t with journal := t.journal.tried })
  | .ok journal =>
    match t.state.apply e with
    | .ok state => (.ok (), { t with journal, state })
    | .error message => (.error ⟨.target, operation, message⟩, { t with journal })

/-- Starts an instance. -/
def createInstance (request : CreateRequest) : TargetAction InstanceHandle := do
  let t ← Action.get
  match t.definitions.find? fun d => d.key == request.definitionKey with
  | none =>
    refuse "create_instance"
      ("unknown process definition key " ++ toString request.definitionKey)
  | some d =>
    let instanceKey ← drawKey
    let started : StartedInstance :=
      ⟨instanceKey, d.key, d.businessId, request.tenant, none, none, [], request.vars⟩
    let started ← match d.startEvent with
      | none => pure started
      | some event => do
        let elementKey ← drawKey
        let jobs ← drawJobs event.listenerJobTypes
        pure { started with
          startElementId := some event.id
          startElementInstanceKey := some elementKey
          jobs }
    accept "create_instance" (.create started)
    return ⟨instanceKey, d.key⟩

/-- Moves the tokens of an instance: terminates an element instance and activates elements. -/
def modifyInstance (instanceKey terminatedKey : Int) (activations : List Activation) :
    TargetAction Unit := do
  let t ← Action.get
  if (t.state.instance? instanceKey).isSome then
    accept "modify_instance" (.modify ⟨instanceKey, terminatedKey, activations⟩)
  else refuse "modify_instance" (TargetState.unknownInstance instanceKey)

/-- The definitions of a business id. -/
def searchDefinitions (businessId : String) : TargetAction (List Definition) := do
  let t ← Action.get
  return t.definitions.filter fun d => d.businessId == businessId

/-- The first jobs of a type that wait and have not been handed out. -/
def available (s : TargetState) (jobType : String) (limit : Nat) : List Job :=
  (s.outstanding.filter fun j => j.jobType == jobType && !s.handedOut.contains j.key).take limit

/-- Hands out jobs of a type, at most `limit`. -/
def activateJobs (jobType : String) (limit : Nat) : TargetAction (List Job) := fun t =>
  let jobs := available t.state jobType limit
  (.ok jobs,
    { t with state := { t.state with handedOut := t.state.handedOut ++ jobs.map (·.key) } })

end TargetEngine
end ProcessMigration
