import Mathlib.Data.List.Nodup
import ProcessMigration.Proofs.Interruption

/-!
# What a preparation asks and answers

A preparation sends nothing: it asks the engines, checks, and puts a request together.

* `Environment.Answers`: a property is kept by all that a preparation asks;
* `Prepared.Fits`: what is prepared carries the id of its source instance, and its request is for a
  definition that was selected for the instance and passed the checks; `Prepared.Fits.listens`: its
  start event has a listener of the migrator;
* `Migrator.prepare_triple` is the specification of a preparation, `Run.prepare_triple` the same for
  a run over files in the course of events.
-/

namespace ProcessMigration

open ProcessMigration.Action (Triple ReadOnly)

variable {σ : Type}

/-- The definitions of a business id, out of all that are deployed. -/
def Definition.ofBusiness (definitions : List Definition) (businessId : String) :
    List Definition :=
  definitions.filter fun d => d.businessId == businessId

/-- What is prepared for an instance belongs to it: the request carries its id, and is for a
definition that was selected for it and can receive some flow node. -/
structure Prepared.Fits (settings : MigrationSettings) (definitions : List Definition)
    (i : SourceInstance) (p : Prepared) : Prop where
  carriesId : p.request.vars.get? legacyIdVariable = some (.string i.id)
  isFor : ∃ d nodes, Validator.select i (Definition.ofBusiness definitions i.processKey) = .ok d ∧
    p.request.definitionKey = d.key ∧ nodes.entries.isEmpty = false ∧
    settings.validator.checkDefinition d nodes = .ok ()

theorem Validator.mem_of_newest? {definitions : List Definition} {d : Definition}
    (h : newest? definitions = some d) : d ∈ definitions := by
  induction definitions with
  | nil => cases h
  | cons d' rest ih =>
    unfold newest? at h
    split at h
    · cases h
      exact List.mem_cons_self
    · next e he =>
      split at h
      · cases h
        exact List.mem_cons_self
      · cases h
        exact List.mem_cons_of_mem _ (ih he)

/-- A definition that is selected is deployed for the process and the tenant of the instance. -/
theorem Validator.fits_of_select {i : SourceInstance} {definitions : List Definition}
    {d : Definition} (h : select i definitions = .ok d) : d ∈ definitions ∧ fits i d = true := by
  unfold select at h
  split at h
  · next d' hd' =>
    cases h
    exact List.mem_filter.1 (mem_of_newest? hd')
  · cases h

/-- What is prepared starts an instance of a process that listens, where this is checked and no two
definitions have the same key. -/
theorem Prepared.Fits.listens {settings : MigrationSettings} {definitions : List Definition}
    {i : SourceInstance} {p : Prepared} (h : p.Fits settings definitions i)
    (hvalidation : settings.jobTypeValidation = true) (hkeys : (definitions.map (·.key)).Nodup)
    {d : Definition} (hfind : definitions.find? (fun d => d.key == p.request.definitionKey) = some d) :
    settings.jobType ∈ (d.startEvent.map (·.listenerJobTypes)).getD [] := by
  obtain ⟨d', nodes, hselect, hkey, _, hcheck⟩ := h.isFor
  have hmem : d' ∈ definitions := (List.mem_filter.1 (Validator.fits_of_select hselect).1).1
  have hfound : d.key = p.request.definitionKey := by simpa using List.find?_some hfind
  have hsame : d = d' :=
    List.inj_on_of_nodup_map hkeys (List.mem_of_find?_eq_some hfind) hmem (hfound.trans hkey)
  subst hsame
  unfold Validator.checkDefinition at hcheck
  split at hcheck
  · cases hcheck
  · next event hevent =>
    split at hcheck
    · cases hcheck
    · next hlistens =>
      rw [hevent]
      have hvalidates : settings.validator.jobTypeValidation = true := hvalidation
      have hmem : settings.validator.jobType ∈ event.listenerJobTypes := by
        simpa [hvalidates] using hlistens
      exact hmem

/-- A preparation's questions to the engines keep a property, and the definitions found are those
of a fixed list. -/
structure Environment.Answers (env : Environment σ) (P : σ → Prop)
    (definitions : List Definition) : Prop where
  activityTree : ∀ id, Triple P (env.source.activityTree id) (fun _ => P) P
  variablesOf : ∀ scopeId, Triple P (env.source.variablesOf scopeId) (fun _ => P) P
  completedBefore : ∀ id gateway,
    Triple P (env.source.completedBefore id gateway) (fun _ => P) P
  searchDefinitions : ∀ businessId, Triple P (env.target.searchDefinitions businessId)
    (fun found s => P s ∧ found = Definition.ofBusiness definitions businessId) P

namespace Migrator

section

variable {m : Migrator σ} {P : σ → Prop} {definitions : List Definition}
  (h : m.env.Answers P definitions)
include h

theorem transformed_triple (scopeId : String) :
    Triple P (m.transformed scopeId) (fun _ => P) P := by
  refine Triple.bind (Triple.mapError (h.variablesOf scopeId)) ?_
  intro vs
  exact Triple.ofExcept (fun _ s _ hs => hs) fun s hs => hs

theorem noteHistory_triple (id : String) (gateways : List Activity) (history : BranchHistory) :
    Triple P (m.noteHistory id gateways history) (fun _ => P) P := by
  induction gateways generalizing history with
  | nil => exact Triple.pure fun s hs => hs
  | cons gateway rest ih =>
    exact Triple.bind (Triple.mapError (h.completedBefore id gateway.activityId)) fun _ => ih _

theorem history_triple (id : String) (tree : Activity) :
    Triple P (m.history id tree) (fun _ => P) P := by
  unfold Migrator.history
  split
  · exact noteHistory_triple h id _ _
  · exact Triple.pure fun s hs => hs

theorem activations_triple (nodes : List (String × FlowNode)) :
    Triple P (m.activations nodes) (fun _ => P) P := by
  induction nodes with
  | nil => exact Triple.pure fun s hs => hs
  | cons node rest ih =>
    obtain ⟨scopeId, node⟩ := node
    refine Triple.bind (transformed_triple h scopeId) ?_
    intro vs
    exact Triple.bind ih fun others => Triple.pure fun s hs => hs

omit h in
theorem check_triple {α : Type} (r : Except ValidationError α) :
    Triple P (check r) (fun a s => P s ∧ r = .ok a) P := by
  refine Triple.ofExcept ?_ fun s hs => hs
  intro a s hr hs
  refine ⟨hs, ?_⟩
  cases r with
  | ok b =>
    cases hr
    rfl
  | error e => cases hr

theorem resolveAll_triple (i : SourceInstance) :
    Triple P (m.resolveAll i)
      (fun prepared s => P s ∧ prepared.Fits m.settings definitions i) P := by
  unfold Migrator.resolveAll
  refine Triple.bind (Triple.mapError (h.activityTree i.id)) ?_
  intro tree
  refine Triple.bind ((check_triple _).post fun _ s hs => hs.1) ?_
  intro _
  refine Triple.bind (history_triple h i.id tree) ?_
  intro history
  refine Triple.bind (check_triple _) ?_
  intro _
  apply Triple.of_state
  rintro s₀ ⟨hs₀, hnodes⟩
  have hnonempty :
      (FlowNode.resolve m.settings.strategy history tree).entries.isEmpty = false := by
    unfold Validator.checkFlowNodes at hnodes
    split at hnodes
    · cases hnodes
    · next hne => simpa using hne
  refine Triple.bind (((Triple.mapError (h.searchDefinitions i.processKey))).pre
    fun s hs => hs ▸ hs₀) ?_
  intro found
  apply Triple.of_state
  rintro s₁ ⟨hs₁, hfound⟩
  subst hfound
  refine Triple.bind ((check_triple _).pre fun s hs => hs ▸ hs₁) ?_
  intro d
  apply Triple.of_state
  rintro s₂ ⟨hs₂, hselect⟩
  refine Triple.bind ((check_triple _).pre fun s hs => hs ▸ hs₂) ?_
  intro _
  apply Triple.of_state
  rintro s₃ ⟨hs₃, hcheck⟩
  refine Triple.bind ((transformed_triple h i.id).pre fun s hs => hs ▸ hs₃) ?_
  intro vs
  refine Triple.bind (activations_triple h _) ?_
  intro activations
  apply Triple.pure
  intro s hs
  refine ⟨hs, ?_, d, _, hselect, rfl, hnonempty, hcheck⟩
  -- the id goes in last, whatever a variable of this name held before
  show (SortedMap.insert vs legacyIdVariable (.string i.id)).get? legacyIdVariable = _
  rw [SortedMap.get?_insert, if_pos rfl]

/-- A preparation keeps what its questions keep, and what it prepares fits the instance. -/
theorem prepare_triple (i : SourceInstance) :
    Triple P (m.prepare i) (fun r s => P s ∧
      ∀ prepared, r = .ready prepared → prepared.Fits m.settings definitions i) P := by
  intro s hs
  have hrun := resolveAll_triple h i s hs
  unfold Action.run prepare
  unfold Action.run at hrun
  split
  · next r s' heq =>
    split at heq
    · next prepared s₁ hall =>
      cases heq
      rw [hall] at hrun
      refine ⟨hrun.1, ?_⟩
      intro p hp
      cases hp
      exact hrun.2
    · next reason s₁ hall =>
      cases heq
      rw [hall] at hrun
      exact ⟨hrun, fun p hp => by cases hp⟩
    · cases heq
  · next e s' heq =>
    split at heq
    · cases heq
    · cases heq
    · next cause s₁ hall =>
      cases heq
      rw [hall] at hrun
      exact hrun

end
end Migrator

/-! ## Over files -/

namespace Workspace

theorem onSource_readOnly {α : Type} (f : SnapshotSource → Except ConnectorError α) :
    ReadOnly (onSource f) :=
  fun _ => rfl

theorem searchDefinitions_readOnly (businessId : String) :
    ReadOnly (jobEngine.searchDefinitions businessId) :=
  fun _ => rfl

theorem source_keeps {α : Type} {P : Interrupted Workspace → Prop}
    (hP : Interrupted.Stable jobEngine P) (op : EngineOperation)
    (f : SnapshotSource → Except ConnectorError α) :
    Triple P (Interrupted.query environment op (onSource f)) (fun _ => P) P :=
  (Interrupted.query_reads hP (onSource_readOnly f)).post fun _ _ h => h.1

/-- The engines' answers to a preparation in the course of events. -/
theorem answers {P : Interrupted Workspace → Prop} {definitions : List Definition}
    (hP : Interrupted.Stable jobEngine P)
    (hdefinitions : ∀ d, P d → d.world.target.definitions = definitions) :
    (Interrupted.environment environment).Answers P definitions where
  activityTree id := source_keeps hP .activityTree fun s => s.activityTree id
  variablesOf scopeId := source_keeps hP .readVariables fun s => .ok (s.variablesOf scopeId)
  completedBefore id gateway :=
    source_keeps hP .completedActivities fun s => s.completedBefore id gateway
  searchDefinitions businessId := by
    refine (Interrupted.query_reads hP (searchDefinitions_readOnly businessId)).post ?_
    intro found d ⟨hd, hfound⟩
    refine ⟨hd, ?_⟩
    rw [← hdefinitions d hd]
    cases hfound
    rfl

end Workspace

/-- A preparation in a run over files. -/
theorem Run.prepare_triple {P : RunState (Interrupted Workspace) → Prop}
    {definitions : List Definition} {settings : MigrationSettings} {pipeline : Pipeline}
    (hP : Run.Stable Workspace.jobEngine P)
    (hdefinitions : ∀ s, P s → s.world.world.target.definitions = definitions)
    (i : SourceInstance) :
    Triple P (Run.call ((Workspace.interruptedMigrator settings pipeline).prepare i))
      (fun r s => P s ∧
        ∀ prepared, r = .ready prepared → prepared.Fits settings definitions i) P :=
  Run.call_triple fun s =>
    Migrator.prepare_triple (Workspace.answers (hP s) fun _ hd => hdefinitions _ hd) i

end ProcessMigration
