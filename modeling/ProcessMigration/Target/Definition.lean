import ProcessMigration.Json.Decode

/-!
# Process definitions deployed on the target engine

A definition has a key, the business id and the version of its process, and the ids of its flow
nodes. Its start event may have **listeners**: for each of them the target engine creates a job when
an instance starts.
-/

namespace ProcessMigration

/-- The event at which instances of a process start. -/
structure StartEvent where
  id : String
  listenerJobTypes : List String
  deriving DecidableEq, Repr

/-- A deployed process definition. -/
structure Definition where
  key : Int
  businessId : String
  version : Int
  tenant : Option String
  flowNodeIds : List String
  startEvent : Option StartEvent
  deriving DecidableEq, Repr

/-- The process has a flow node of this id. -/
def Definition.hasFlowNode (d : Definition) (id : String) : Bool := d.flowNodeIds.contains id

/-! ## Written form -/

/-- A list of texts. -/
def Json.ofTexts (ss : List String) : Json := .array (ss.map .string)

namespace StartEvent

/-- Reads a start event. -/
def decode : Decoder StartEvent := .record ["id", "listenerJobTypes"] fun r => do
  let id ← r.required "id" .text
  let listeners ← r.withDefault "listenerJobTypes" (.list .text) []
  return ⟨id, listeners⟩

/-- Writes a start event. -/
def encode (e : StartEvent) : Json :=
  .object [("id", .string e.id), ("listenerJobTypes", .ofTexts e.listenerJobTypes)]

end StartEvent

namespace Definition

/-- Reads a definition. -/
def decode : Decoder Definition :=
  .record ["key", "businessId", "version", "tenantId", "flowNodeIds", "startEvent"] fun r => do
    let key ← r.required "key" .int64
    let businessId ← r.required "businessId" .text
    let version ← r.required "version" .int32
    let tenant ← r.optional "tenantId" .text
    let flowNodeIds ← r.withDefault "flowNodeIds" (.list .text) []
    let startEvent ← r.optional "startEvent" StartEvent.decode
    return ⟨key, businessId, version, tenant, flowNodeIds, startEvent⟩

/-- Writes a definition. -/
def encode (d : Definition) : Json :=
  .object [("key", .int d.key), ("businessId", .string d.businessId), ("version", .int d.version),
    ("tenantId", .ofText? d.tenant), ("flowNodeIds", .ofTexts d.flowNodeIds),
    ("startEvent", match d.startEvent with | some e => e.encode | none => .null)]

/-- Reads a file of definitions. -/
def decodeFile : Decoder (List Definition) := .record ["definitions"] fun r =>
  r.withDefault "definitions" (.list decode) []

end Definition
end ProcessMigration
