import ProcessMigration.Proofs.ActiveTokens
import ProcessMigration.Proofs.PipelineRuns
import ProcessMigration.Proofs.Preparation

/-!
# What an instance must meet

Whether an instance of a snapshot is carried over is decided by its tree, the definitions, the
settings and the interceptors. There are nine **requirements**, in a fixed order, and each of them
that is not met has its **complaint**. The first complaint is the reason for skipping the instance.

* `Candidate.Complains` says of each requirement what is wrong if it is not met; those about flow
  nodes are stated by the tokens of the tree, and those about variables by the executions of the
  interceptors;
* `Candidate.FirstComplaint` is the complaint about the first requirement that is not met, and
  `Candidate.IsPrepared` what is sent if there is none;
* `Candidate.complaint?` computes the first complaint, and `Candidate.complaint?_eq_some` is the
  bridge between the two.
-/

namespace ProcessMigration

/-! ## Names and interceptors -/

/-- The activity of which an element is the body: its id but for the mark at the end, or its id as
it is if there is no mark. -/
def BodyOf (activityId name : String) : Prop :=
  activityId = name ++ "#multiInstanceBody" ∨
    activityId = name ∧ ∀ other, activityId ≠ other ++ "#multiInstanceBody"

/-- The mark is at the end of an id if a name is in front of it. -/
theorem Validator.mark_isSuffix_iff {activityId : String} :
    multiInstanceMark.isSuffixOf activityId.toList = true ↔
      ∃ name, activityId = name ++ "#multiInstanceBody" := by
  rw [List.isSuffixOf_iff_suffix]
  constructor
  · rintro ⟨cs, hcs⟩
    refine ⟨String.ofList cs, ?_⟩
    rw [← String.toList_inj, String.toList_append, String.toList_ofList]
    exact hcs.symm
  · rintro ⟨name, rfl⟩
    rw [String.toList_append]
    exact List.suffix_append name.toList multiInstanceMark

theorem Validator.withoutMark_append (name : String) :
    withoutMark (name ++ "#multiInstanceBody") = name := by
  have hmark : ("#multiInstanceBody").toList = multiInstanceMark := rfl
  unfold withoutMark
  rw [if_pos (mark_isSuffix_iff.2 ⟨name, rfl⟩), String.toList_append, hmark, List.length_append,
    Nat.add_sub_cancel, List.take_left, String.ofList_toList]

theorem Validator.withoutMark_eq_iff {activityId name : String} :
    withoutMark activityId = name ↔ BodyOf activityId name := by
  unfold BodyOf
  by_cases hmarked : ∃ other, activityId = other ++ "#multiInstanceBody"
  · obtain ⟨other, rfl⟩ := hmarked
    rw [withoutMark_append]
    constructor
    · rintro rfl
      exact .inl rfl
    · rintro (hsame | ⟨-, hunmarked⟩)
      · rw [← withoutMark_append other, hsame, withoutMark_append]
      · exact absurd rfl (hunmarked other)
  · have hunmarked : withoutMark activityId = activityId := by
      unfold withoutMark
      rw [if_neg (mt mark_isSuffix_iff.1 hmarked)]
    rw [hunmarked]
    constructor
    · intro hsame
      exact .inr ⟨hsame, fun other heq => hmarked ⟨other, heq⟩⟩
    · rintro (heq | ⟨hsame, -⟩)
      · exact absurd ⟨name, heq⟩ hmarked
      · exact hsame

/-- No interceptor ever breaks off. -/
def Pipeline.Steady (p : Pipeline) : Prop :=
  ∀ i ∈ p.interceptors, ∀ v value message, i.execute v value ≠ .error (.crashed message)

/-- Where no interceptor breaks off, the first variable that does not pass is refused. -/
theorem Pipeline.FailsFirst.refused {p : Pipeline} {vs : List SourceVariable} {es : List Execution}
    {e : PipelineError} (hsteady : p.Steady) (h : FailsFirst p vs es e) :
    ∃ i name message, e = .refused i name message := by
  cases h with
  | @intro _ _ v done rest i _ _ _ value failure _ _ hsees _ hfails =>
    cases failure with
    | refused message => exact ⟨i.name, v.name, message, rfl⟩
    | crashed message =>
      have hseen : i ∈ p.seeing v := by
        rw [hsees]
        exact List.mem_append_cons_self
      exact absurd hfails (hsteady i (List.mem_filter.1 hseen).1 v value message)

/-! ## Requirements -/

/-- An instance of a snapshot, with all that decides about it. -/
structure Candidate where
  settings : MigrationSettings
  pipeline : Pipeline
  definitions : List Definition
  source : SnapshotSource
  subject : SnapshotInstance

/-- What an instance must meet to be carried over. -/
inductive Requirement where
  /-- No node of the tree is the body of a multi-instance activity. -/
  | singleInstances
  /-- No node of the tree is a parallel gateway, where instances with gateways are skipped. -/
  | noGateway
  /-- There is a flow node. -/
  | someFlowNode
  /-- A definition is there for the process and the tenant. -/
  | fittingDefinition
  /-- The definition has a start event. -/
  | startEvent
  /-- The start event has a listener of the migrator, where this is checked. -/
  | listener
  /-- The definition has the elements of all flow nodes. -/
  | knownElements
  /-- No variable of the instance is refused. -/
  | instanceVariables
  /-- No variable of a flow node is refused. -/
  | nodeVariables

/-- The requirements in the order in which they are checked. -/
def Requirement.inOrder : List Requirement :=
  [singleInstances, noGateway, someFlowNode, fittingDefinition, startEvent, listener, knownElements,
    instanceVariables, nodeVariables]

theorem Requirement.mem_inOrder (r : Requirement) : r ∈ inOrder := by
  cases r <;> simp [inOrder]

namespace Candidate

variable (c : Candidate)

/-- What finished before the gateways of the tree. -/
def history : BranchHistory :=
  .ofList ((c.subject.tree.preorder.filter fun a =>
    a.activityType = ActivityType.parallelGateway).map
      fun g => (g.id, (c.subject.completed.get? g.activityId).getD []))

/-- The flow nodes to activate: those of the tokens of the tree, by the ids of the tokens. -/
def nodes : SortedMap FlowNode :=
  .ofList ((ActiveToken.inOrder c.settings.strategy c.history c.subject.tree).map fun token =>
    (token.id, token.flowNode))

/-- The definitions for the process and the tenant of the instance. -/
def fitting : List Definition :=
  c.definitions.filter fun d =>
    d.businessId = c.subject.inst.processKey ∧ d.tenant = c.subject.inst.tenant

/-- The last of the fitting definitions whose version is not exceeded. -/
def definition? : Option Definition :=
  c.fitting.reverse.find? fun d => c.fitting.all fun e => e.version ≤ d.version

/-- The variables of a scope, in the order in which the snapshot has them. -/
def scopeVariables (scopeId : String) : List SourceVariable :=
  (c.source.instances.flatMap (·.vars)).filter fun v => v.scopeId = scopeId

/-- The variables of a scope all pass the interceptors that see them, and this is what they are by
then. -/
def Carries (scopeId : String) (vs : Variables) : Prop :=
  ∃ es pairs, c.pipeline.PassAll (c.scopeVariables scopeId) es pairs ∧ vs = .ofList pairs

/-- A variable of a scope is refused, the first one that does not pass the interceptors that see it,
and this is the wording. -/
def Refuses (scopeId reason : String) : Prop :=
  ∃ es i name message, reason = (PipelineError.refused i name message).message ∧
    c.pipeline.FailsFirst (c.scopeVariables scopeId) es (.refused i name message)

/-- The requirement is not met, and the text says what is wrong. What is required of the definition
can be missed only if there is one. -/
def Complains : Requirement → String → Prop
  | .singleInstances, reason => ∃ body name,
    c.subject.tree.preorder.find? (fun a => a.activityType = ActivityType.multiInstanceBody) =
      some body ∧ BodyOf body.activityId name ∧
        reason = (ValidationError.multiInstance name).message
  | .noGateway, reason => c.settings.strategy = .skip ∧ ∃ gateway,
    c.subject.tree.preorder.find? (fun a => a.activityType = ActivityType.parallelGateway) =
      some gateway ∧ reason = (ValidationError.activeParallelGateway gateway.activityId).message
  | .someFlowNode, reason => c.nodes.entries = [] ∧
    reason = (ValidationError.noActiveFlowNodes c.subject.inst.id c.settings.strategy).message
  | .fittingDefinition, reason => c.fitting = [] ∧
    reason = (ValidationError.noTargetDefinition c.subject.inst.processKey c.subject.inst.id).message
  | .startEvent, reason => ∃ d, c.definition? = some d ∧ d.startEvent = none ∧
    reason = (ValidationError.noStartEvent d.key).message
  | .listener, reason => ∃ d event, c.definition? = some d ∧ d.startEvent = some event ∧
    c.settings.jobTypeValidation = true ∧ c.settings.jobType ∉ event.listenerJobTypes ∧
      reason = (ValidationError.missingListener c.settings.jobType event.id d.businessId).message
  | .knownElements, reason => ∃ d node, c.definition? = some d ∧
    c.nodes.values.find? (fun n => n.activityId ∉ d.flowNodeIds) = some node ∧
      reason = (ValidationError.unknownFlowNode node.activityId).message
  | .instanceVariables, reason => c.Refuses c.subject.inst.id reason
  | .nodeVariables, reason => ∃ before key after, c.nodes.keys = before ++ key :: after ∧
    (∀ k ∈ before, ∃ vs, c.Carries k vs) ∧ c.Refuses key reason

/-- The requirement is met. -/
def Meets (r : Requirement) : Prop := ∀ reason, ¬c.Complains r reason

/-- The text is the complaint about the first requirement that is not met. -/
def FirstComplaint (reason : String) : Prop :=
  ∃ met r others, Requirement.inOrder = met ++ r :: others ∧ (∀ q ∈ met, c.Meets q) ∧
    c.Complains r reason

/-- The activation of a flow node: its element, its variables, and the id of the instance that it
stands for if it stands for one. -/
def Activates (entry : String × FlowNode) (a : Activation) : Prop :=
  ∃ vs, c.Carries entry.1 vs ∧ a.elementId = entry.2.activityId ∧
    a.vars = match entry.2.subProcess with
      | some id => vs.insert legacyIdVariable (.string id)
      | none => vs

/-- What is sent for an instance without a complaint: a request for the definition with the
variables and the id of the instance, and an activation of each flow node in the order of keys. -/
structure IsPrepared (p : Prepared) : Prop where
  request : ∃ d vs, c.definition? = some d ∧ c.Carries c.subject.inst.id vs ∧
    p.request = ⟨d.key, d.businessId, d.tenant,
      vs.insert legacyIdVariable (.string c.subject.inst.id)⟩
  activations : List.Forall₂ c.Activates c.nodes.entries p.activations

/-! ## Computing the complaints -/

/-- What the interceptors refuse of a scope, as the pipeline says. -/
def refusal? (scopeId : String) : Option String :=
  match c.pipeline.transform (c.scopeVariables scopeId) with
  | .error (.refused i name message) => some (PipelineError.refused i name message).message
  | _ => none

/-- The complaint about a requirement, if it is not met. -/
def complaint : Requirement → Option String
  | .singleInstances =>
    (c.subject.tree.preorder.find? fun a =>
      a.activityType = ActivityType.multiInstanceBody).map fun body =>
        (ValidationError.multiInstance (Validator.withoutMark body.activityId)).message
  | .noGateway =>
    if c.settings.strategy = .skip then
      (c.subject.tree.preorder.find? fun a =>
        a.activityType = ActivityType.parallelGateway).map fun gateway =>
          (ValidationError.activeParallelGateway gateway.activityId).message
    else none
  | .someFlowNode =>
    if c.nodes.entries = [] then
      some (ValidationError.noActiveFlowNodes c.subject.inst.id c.settings.strategy).message
    else none
  | .fittingDefinition =>
    if c.fitting = [] then
      some (ValidationError.noTargetDefinition c.subject.inst.processKey c.subject.inst.id).message
    else none
  | .startEvent => do
    let d ← c.definition?
    if d.startEvent = none then some (ValidationError.noStartEvent d.key).message else none
  | .listener => do
    let d ← c.definition?
    let event ← d.startEvent
    if c.settings.jobTypeValidation ∧ c.settings.jobType ∉ event.listenerJobTypes then
      some (ValidationError.missingListener c.settings.jobType event.id d.businessId).message
    else none
  | .knownElements => do
    let d ← c.definition?
    let node ← c.nodes.values.find? fun n => n.activityId ∉ d.flowNodeIds
    some (ValidationError.unknownFlowNode node.activityId).message
  | .instanceVariables => c.refusal? c.subject.inst.id
  | .nodeVariables => c.nodes.keys.findSome? c.refusal?

/-- The complaint about the first requirement that is not met. -/
def complaint? : Option String := Requirement.inOrder.findSome? c.complaint

/-! ## The bridge -/

theorem refusal?_eq_some {scopeId reason : String} :
    c.refusal? scopeId = some reason ↔ c.Refuses scopeId reason := by
  unfold refusal?
  constructor
  · intro h
    split at h
    · next i name message htransform =>
      obtain ⟨es, hfails⟩ := Pipeline.failsFirst_of_transform htransform
      exact ⟨es, i, name, message, (Option.some.inj h).symm, hfails⟩
    · cases h
  · rintro ⟨es, i, name, message, rfl, hfails⟩
    rw [Pipeline.transform_of_failsFirst hfails]

theorem transform_of_carries {scopeId : String} {vs : Variables} (h : c.Carries scopeId vs) :
    c.pipeline.transform (c.scopeVariables scopeId) = .ok vs := by
  obtain ⟨es, pairs, hall, rfl⟩ := h
  exact Pipeline.transform_of_passAll hall

/-- A scope is either carried over or refused. -/
theorem refusal?_eq_none (hsteady : c.pipeline.Steady) {scopeId : String} :
    c.refusal? scopeId = none ↔ ∃ vs, c.Carries scopeId vs := by
  constructor
  · intro h
    rcases Pipeline.passAll_or_failsFirst c.pipeline (c.scopeVariables scopeId) with
      ⟨es, pairs, hall⟩ | ⟨es, e, hfails⟩
    · exact ⟨_, es, pairs, hall, rfl⟩
    · obtain ⟨i, name, message, rfl⟩ := hfails.refused hsteady
      rw [c.refusal?_eq_some.2 ⟨es, i, name, message, rfl, hfails⟩] at h
      cases h
  · rintro ⟨vs, hvs⟩
    unfold refusal?
    rw [c.transform_of_carries hvs]

/-- What is computed for a requirement is its complaint. -/
theorem complaint_eq_some (hsteady : c.pipeline.Steady) (r : Requirement) {reason : String} :
    c.complaint r = some reason ↔ c.Complains r reason := by
  cases r with
  | singleInstances =>
    simp only [complaint, Complains, Option.map_eq_some_iff, @eq_comm _ _ reason,
      ← Validator.withoutMark_eq_iff, exists_and_left, exists_eq_left']
  | noGateway =>
    by_cases hskip : c.settings.strategy = .skip
    · simp only [complaint, Complains, hskip, if_true, true_and, Option.map_eq_some_iff,
        @eq_comm _ _ reason]
    · simp only [complaint, Complains, hskip, if_false, false_and, reduceCtorEq]
  | someFlowNode =>
    simp only [complaint, Complains, Option.ite_none_right_eq_some, Option.some.injEq,
      @eq_comm _ _ reason]
  | fittingDefinition =>
    simp only [complaint, Complains, Option.ite_none_right_eq_some, Option.some.injEq,
      @eq_comm _ _ reason]
  | startEvent =>
    simp only [complaint, Complains, Option.bind_eq_bind, Option.bind_eq_some_iff,
      Option.ite_none_right_eq_some, Option.some.injEq, @eq_comm _ _ reason]
  | listener =>
    simp only [complaint, Complains, Option.bind_eq_bind, Option.bind_eq_some_iff,
      Option.ite_none_right_eq_some, Option.some.injEq, @eq_comm _ _ reason, and_assoc,
      exists_and_left]
  | knownElements =>
    simp only [complaint, Complains, Option.bind_eq_bind, Option.bind_eq_some_iff,
      Option.some.injEq, @eq_comm _ _ reason, exists_and_left]
  | instanceVariables => exact c.refusal?_eq_some
  | nodeVariables =>
    simp only [complaint, Complains, List.findSome?_eq_some_iff, c.refusal?_eq_none hsteady,
      c.refusal?_eq_some]
    constructor
    · rintro ⟨before, key, after, hkeys, hrefuses, hcarried⟩
      exact ⟨before, key, after, hkeys, hcarried, hrefuses⟩
    · rintro ⟨before, key, after, hkeys, hcarried, hrefuses⟩
      exact ⟨before, key, after, hkeys, hrefuses, hcarried⟩

theorem complaint_eq_none (hsteady : c.pipeline.Steady) (r : Requirement) :
    c.complaint r = none ↔ c.Meets r := by
  unfold Meets
  rw [Option.eq_none_iff_forall_ne_some]
  exact forall_congr' fun reason => not_congr (c.complaint_eq_some hsteady r)

theorem complaint?_eq_some (hsteady : c.pipeline.Steady) {reason : String} :
    c.complaint? = some reason ↔ c.FirstComplaint reason := by
  unfold complaint? FirstComplaint
  simp only [List.findSome?_eq_some_iff, c.complaint_eq_some hsteady, c.complaint_eq_none hsteady]
  constructor
  · rintro ⟨met, r, others, hsplit, hcomplains, hmet⟩
    exact ⟨met, r, others, hsplit, hmet, hcomplains⟩
  · rintro ⟨met, r, others, hsplit, hmet, hcomplains⟩
    exact ⟨met, r, others, hsplit, hcomplains, hmet⟩

theorem complaint?_eq_none (hsteady : c.pipeline.Steady) :
    c.complaint? = none ↔ ∀ r, c.Meets r := by
  unfold complaint?
  rw [List.findSome?_eq_none_iff]
  constructor
  · intro h r
    exact (c.complaint_eq_none hsteady r).1 (h r r.mem_inOrder)
  · intro h r _
    exact (c.complaint_eq_none hsteady r).2 (h r)

end Candidate
end ProcessMigration
