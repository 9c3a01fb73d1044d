import ProcessMigration.Json.Decode

/-!
# Commands to the target engine and its jobs

* `CreateRequest` starts an instance, answered by an `InstanceHandle`;
* `Activation` names an element to be activated with its local variables;
* `Job` is work that the target engine hands out; it carries the variables of its instance, among
  them perhaps the id of the source instance that it stands for.
-/

namespace ProcessMigration

/-- The variables of an instance or a scope. -/
abbrev Variables := SortedMap Json

/-- The variable that carries the id of the source instance. -/
def legacyIdVariable : String := "legacyId"

/-- A request to start an instance. -/
structure CreateRequest where
  definitionKey : Int
  businessId : String
  tenant : Option String
  vars : Variables

/-- The keys of a started instance. -/
structure InstanceHandle where
  instanceKey : Int
  definitionKey : Int
  deriving DecidableEq, Repr

/-- An element to be activated. -/
structure Activation where
  elementId : String
  vars : Variables

/-- A job that waits on an element instance. -/
structure Job where
  key : Int
  jobType : String
  instanceKey : Int
  elementInstanceKey : Int
  elementId : String
  vars : Variables

/-- The id of the source instance that a job stands for. -/
def Job.legacyId? (j : Job) : Option String := (j.vars.get? legacyIdVariable).bind Json.text?

/-! ## Written form -/

/-- Reads variables. -/
def Decoder.variableMap : Decoder Variables := .map .json

namespace CreateRequest

/-- Reads a request. -/
def decode : Decoder CreateRequest :=
  .record ["definitionKey", "businessId", "tenantId", "variables"] fun r => do
    let definitionKey ← r.required "definitionKey" .int64
    let businessId ← r.required "businessId" .text
    let tenant ← r.optional "tenantId" .text
    let vars ← r.withDefault "variables" .variableMap .empty
    return ⟨definitionKey, businessId, tenant, vars⟩

/-- Writes a request. -/
def encode (c : CreateRequest) : Json :=
  .object [("definitionKey", .int c.definitionKey), ("businessId", .string c.businessId),
    ("tenantId", .ofText? c.tenant), ("variables", .ofMap c.vars)]

end CreateRequest

/-- Writes a handle. -/
def InstanceHandle.encode (h : InstanceHandle) : Json :=
  .object [("instanceKey", .int h.instanceKey), ("definitionKey", .int h.definitionKey)]

namespace Activation

/-- Reads an activation. -/
def decode : Decoder Activation := .record ["elementId", "variables"] fun r => do
  let elementId ← r.required "elementId" .text
  let vars ← r.withDefault "variables" .variableMap .empty
  return ⟨elementId, vars⟩

/-- Writes an activation. -/
def encode (a : Activation) : Json :=
  .object [("elementId", .string a.elementId), ("variables", .ofMap a.vars)]

end Activation

namespace Job

/-- Reads a job. -/
def decode : Decoder Job :=
  .record ["key", "jobType", "processInstanceKey", "elementInstanceKey", "elementId", "variables"]
    fun r => do
      let key ← r.required "key" .int64
      let jobType ← r.required "jobType" .text
      let instanceKey ← r.required "processInstanceKey" .int64
      let elementInstanceKey ← r.required "elementInstanceKey" .int64
      let elementId ← r.required "elementId" .text
      let vars ← r.withDefault "variables" .variableMap .empty
      return ⟨key, jobType, instanceKey, elementInstanceKey, elementId, vars⟩

/-- Writes a job. -/
def encode (j : Job) : Json :=
  .object [("key", .int j.key), ("jobType", .string j.jobType),
    ("processInstanceKey", .int j.instanceKey), ("elementInstanceKey", .int j.elementInstanceKey),
    ("elementId", .string j.elementId), ("variables", .ofMap j.vars)]

end Job
end ProcessMigration
