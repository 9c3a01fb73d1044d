import ProcessMigration.Json.Printer
import ProcessMigration.Target.Command

/-!
# Journal entries

The journal of the target engine holds one accepted command per line. An entry records everything
that the command decided, the keys above all, so that reading the journal gives the state again.

* `JournalEntry.line` writes an entry: its members in a fixed order, `command` first, and nothing in
  it breaks the line;
* `JournalEntry.read?` takes a line back.
-/

namespace ProcessMigration

/-- A job that was created with an instance. -/
structure JournalJob where
  key : Int
  jobType : String
  deriving DecidableEq, Repr

/-- A started instance. -/
structure StartedInstance where
  instanceKey : Int
  definitionKey : Int
  businessId : String
  tenant : Option String
  startElementId : Option String
  startElementInstanceKey : Option Int
  jobs : List JournalJob
  vars : Variables

/-- An instance whose tokens were moved. -/
structure ModifiedInstance where
  instanceKey : Int
  terminatedKey : Int
  activations : List Activation

/-- An accepted command. -/
inductive JournalEntry where
  | create (started : StartedInstance)
  | modify (modified : ModifiedInstance)

namespace JournalJob

/-- Reads a job. -/
def decode : Decoder JournalJob := .record ["key", "jobType"] fun r => do
  let key ← r.required "key" .int64
  let jobType ← r.required "jobType" .text
  return ⟨key, jobType⟩

/-- Writes a job. -/
def encode (j : JournalJob) : Json :=
  .object [("key", .int j.key), ("jobType", .string j.jobType)]

end JournalJob

namespace JournalEntry

/-- The command of a started instance. -/
def createCommand : String := "create-instance"

/-- The command of a modified instance. -/
def modifyCommand : String := "modify-instance"

/-- Writes an entry. -/
def encode : JournalEntry → Json
  | .create s =>
    .object [("command", .string createCommand), ("instanceKey", .int s.instanceKey),
      ("definitionKey", .int s.definitionKey), ("businessId", .string s.businessId),
      ("tenantId", .ofText? s.tenant), ("startElementId", .ofText? s.startElementId),
      ("startElementInstanceKey", .ofInt? s.startElementInstanceKey),
      ("jobs", .array (s.jobs.map JournalJob.encode)), ("variables", .ofMap s.vars)]
  | .modify m =>
    .object [("command", .string modifyCommand), ("instanceKey", .int m.instanceKey),
      ("terminatedElementInstanceKey", .int m.terminatedKey),
      ("activations", .array (m.activations.map Activation.encode))]

/-- The line of an entry, without its line feed. -/
def line (e : JournalEntry) : String := e.encode.compact

/-- The fields of a started instance. -/
def createFields : List String :=
  ["instanceKey", "definitionKey", "businessId", "tenantId", "startElementId",
    "startElementInstanceKey", "jobs", "variables"]

/-- Builds a started instance from its fields. -/
def startedOf? (r : Record) : Option StartedInstance := do
  let instanceKey ← r.required "instanceKey" .int64
  let definitionKey ← r.required "definitionKey" .int64
  let businessId ← r.required "businessId" .text
  let tenant ← r.optional "tenantId" .text
  let startElementId ← r.orNull "startElementId" .text
  let startElementInstanceKey ← r.orNull "startElementInstanceKey" .int64
  let jobs ← r.withDefault "jobs" (.list JournalJob.decode) []
  let vars ← r.withDefault "variables" .variableMap .empty
  return ⟨instanceKey, definitionKey, businessId, tenant, startElementId, startElementInstanceKey,
    jobs, vars⟩

/-- The fields of a modified instance. -/
def modifyFields : List String := ["instanceKey", "terminatedElementInstanceKey", "activations"]

/-- Builds a modified instance from its fields. -/
def modifiedOf? (r : Record) : Option ModifiedInstance := do
  let instanceKey ← r.required "instanceKey" .int64
  let terminatedKey ← r.required "terminatedElementInstanceKey" .int64
  let activations ← r.required "activations" (.list Activation.decode)
  return ⟨instanceKey, terminatedKey, activations⟩

/-- Decodes the entry of a command. -/
def ofCommand? (command : String) (record? : List String → Option Record) : Option JournalEntry :=
  if command = createCommand then
    (record? createFields).bind fun r => (startedOf? r).map .create
  else if command = modifyCommand then
    (record? modifyFields).bind fun r => (modifiedOf? r).map .modify
  else none

/-- Reads an entry. The command decides which fields there are, wherever it stands, so all of the
entry must be readable. In an array the command comes first and the fields of its entry follow. -/
def decode : Decoder JournalEntry := fun room doc => do
  let _ ← Decoder.json room doc
  match doc with
  | .array (command :: fields) =>
    ofCommand? (← Decoder.text room command) fun names =>
      Record.ofDocument? names false room (.array fields)
  | _ =>
    let tag ← Record.ofObject? ["command"] room doc
    ofCommand? (← tag.required "command" .text) fun names => Record.ofObject? names room doc

/-- Reads the entry of a line. -/
def read? (line : String) : Option JournalEntry := decode.ofText? line

end JournalEntry
end ProcessMigration
