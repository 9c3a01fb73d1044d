import ProcessMigration.Proofs.Requirements

/-!
# What decides about an instance

A preparation asks the source and the target, checks what it learns, and leaves everything as it is.
It checks the requirements in their order, so that it stops with the first complaint, and without
one it ends with what is to be sent.

* `Migrator.Checks`: an action that asks and checks, with its complaint;
* `Validator.newest?_eq`, `Candidate.reason?_checkDefinition`, `Candidate.In.activations_checks`:
  what the parts of a preparation check;
* `Migrator.prepare_decides`: the decision.
-/

namespace ProcessMigration

/-! ## Actions that check -/

namespace Migrator

/-- The action leaves everything as it is. With a complaint it stops for this reason, and without
one it ends with a value of `P`. -/
def Checks {σ α : Type} (w : σ) (complaint : Option String) (x : Action σ Obstacle α)
    (P : α → Prop) : Prop :=
  match complaint with
  | some reason => x.run w = (.error (.skip reason), w)
  | none => ∃ a, x.run w = (.ok a, w) ∧ P a

/-- What is wrong with the outcome of a check. -/
def reason? {α : Type} (r : Except ValidationError α) : Option String :=
  match r with
  | .ok _ => none
  | .error e => some e.message

namespace Checks

variable {σ α β : Type} {w : σ} {complaint others : Option String} {P : α → Prop} {Q : β → Prop}

theorem pure {a : α} (h : P a) : Checks w none (Pure.pure a : Action σ Obstacle α) P :=
  ⟨a, rfl, h⟩

/-- The complaint of one action after the other is the first complaint. -/
theorem bind {x : Action σ Obstacle α} {f : α → Action σ Obstacle β} (hx : Checks w complaint x P)
    (hf : ∀ a, P a → Checks w others (f a) Q) : Checks w (complaint.or others) (x >>= f) Q := by
  cases complaint with
  | some reason => exact Action.run_bind_error hx f
  | none =>
    obtain ⟨a, hrun, ha⟩ := hx
    have hrest := hf a ha
    rw [Option.none_or]
    unfold Checks
    rw [Action.run_bind_ok hrun]
    exact hrest

/-- An action that complains about nothing goes ahead. -/
theorem step {x : Action σ Obstacle α} {f : α → Action σ Obstacle β} (hx : Checks w none x P)
    (hf : ∀ a, P a → Checks w complaint (f a) Q) : Checks w complaint (x >>= f) Q := by
  have h := hx.bind hf
  rwa [Option.none_or] at h

/-- A value is made of what was found. -/
theorem map {x : Action σ Obstacle α} {f : α → β} (hx : Checks w complaint x P)
    (hf : ∀ a, P a → Q (f a)) : Checks w complaint (x >>= fun a => Pure.pure (f a)) Q := by
  have h := hx.bind fun a ha => pure (hf a ha)
  rwa [Option.or_none] at h

theorem ask {x : Action σ ConnectorError α} {a : α} (h : x.run w = (.ok a, w)) :
    Checks w none (Migrator.ask x) fun b => b = a := by
  refine ⟨a, ?_, rfl⟩
  unfold Action.run at h
  unfold Action.run Migrator.ask Action.mapError
  rw [h]

theorem check (w : σ) (r : Except ValidationError α) :
    Checks w (reason? r) (Migrator.check r) fun a => r = .ok a := by
  cases r with
  | error e => exact rfl
  | ok a => exact ⟨a, rfl, rfl⟩

end Checks
end Migrator

/-! ## What is checked -/

namespace Validator

theorem newest?_eq_none {definitions : List Definition} :
    newest? definitions = none ↔ definitions = [] := by
  cases definitions with
  | nil => simp [newest?]
  | cons d rest =>
    unfold newest?
    split
    · simp
    · split <;> simp

/-- The definition stands after others that are no newer and before others that are older. -/
def IsNewest (definitions : List Definition) (d : Definition) : Prop :=
  ∃ earlier later, definitions = earlier ++ d :: later ∧
    (∀ e ∈ earlier, e.version ≤ d.version) ∧ ∀ e ∈ later, e.version < d.version

theorem IsNewest.version_le {definitions : List Definition} {d e : Definition}
    (h : IsNewest definitions d) (he : e ∈ definitions) : e.version ≤ d.version := by
  obtain ⟨earlier, later, rfl, hearlier, hlater⟩ := h
  rcases List.mem_append.1 he with he | he
  · exact hearlier e he
  rcases List.mem_cons.1 he with rfl | he
  · exact Int.le_refl _
  · exact Int.le_of_lt (hlater e he)

theorem isNewest_of_newest? {definitions : List Definition} {d : Definition}
    (h : newest? definitions = some d) : IsNewest definitions d := by
  induction definitions generalizing d with
  | nil => cases h
  | cons first rest ih =>
    unfold newest? at h
    split at h
    · next hnone =>
      cases h
      rw [newest?_eq_none.1 hnone]
      exact ⟨[], [], rfl, by simp, by simp⟩
    · next e hrest =>
      split at h
      · next hnewer =>
        cases h
        refine ⟨[], rest, rfl, by simp, ?_⟩
        intro e' he'
        exact Int.lt_of_le_of_lt ((ih hrest).version_le he') hnewer
      · next hnot =>
        cases h
        obtain ⟨earlier, later, hsplit, hearlier, hlater⟩ := ih hrest
        refine ⟨first :: earlier, later, by rw [hsplit, List.cons_append], ?_, hlater⟩
        intro e' he'
        rcases List.mem_cons.1 he' with rfl | he'
        · exact Int.not_lt.1 hnot
        · exact hearlier e' he'

/-- The newest definition is the last one whose version is not exceeded. -/
theorem newest?_eq (definitions : List Definition) : newest? definitions =
    definitions.reverse.find? fun d => definitions.all fun e => e.version ≤ d.version := by
  cases hnewest : newest? definitions with
  | none =>
    rw [newest?_eq_none.1 hnewest]
    rfl
  | some d =>
    have hd := isNewest_of_newest? hnewest
    symm
    rw [List.find?_eq_some_iff_append]
    refine ⟨by simpa using fun e he => hd.version_le he, ?_⟩
    obtain ⟨earlier, later, rfl, -, hlater⟩ := hd
    refine ⟨later.reverse, earlier.reverse, by simp, ?_⟩
    intro e he
    have hless : e.version < d.version := hlater e (List.mem_reverse.1 he)
    have hexceeded : ¬d.version ≤ e.version := Int.not_le.2 hless
    simp [hexceeded]

end Validator

namespace Candidate

open ProcessMigration.Migrator (Checks reason?)

variable (c : Candidate)

theorem findSome?_cons_or {α β : Type} (f : α → Option β) (a : α) (rest : List α) :
    (a :: rest).findSome? f = (f a).or (rest.findSome? f) := by
  rw [List.findSome?_cons]
  cases f a <;> rfl

/-- The first complaint, spelled out. -/
theorem complaint?_eq : c.complaint? =
    (c.complaint .singleInstances).or ((c.complaint .noGateway).or ((c.complaint .someFlowNode).or
      ((c.complaint .fittingDefinition).or ((c.complaint .startEvent).or ((c.complaint .listener).or
        ((c.complaint .knownElements).or ((c.complaint .instanceVariables).or
          (c.complaint .nodeVariables)))))))) := by
  unfold complaint? Requirement.inOrder
  simp only [findSome?_cons_or, List.findSome?_nil, Option.or_none]

/-! ## The validator's checks -/

theorem reason?_checkTree : reason? (c.settings.validator.checkTree c.subject.tree) =
    (c.complaint .singleInstances).or (c.complaint .noGateway) := by
  unfold Validator.checkTree
  simp only [complaint, ← List.head?_filter, ← Activity.search_eq_typed]
  split
  · next body _ hsearch =>
    rw [hsearch]
    rfl
  · next hsearch =>
    rw [hsearch]
    have hstrategy : c.settings.validator.strategy = c.settings.strategy := rfl
    rw [hstrategy]
    by_cases hskip : c.settings.strategy = .skip
    · rw [if_pos hskip, if_pos hskip]
      split
      · next gateway _ hgateway =>
        rw [hgateway]
        rfl
      · next hgateway =>
        rw [hgateway]
        rfl
    · rw [if_neg hskip, if_neg hskip]
      rfl

theorem reason?_checkFlowNodes :
    reason? (c.settings.validator.checkFlowNodes c.subject.inst c.nodes) =
      c.complaint .someFlowNode := by
  unfold Validator.checkFlowNodes
  simp only [complaint, List.isEmpty_iff]
  split
  · rfl
  · rfl

theorem filter_fits : (Definition.ofBusiness c.definitions c.subject.inst.processKey).filter
    (Validator.fits c.subject.inst) = c.fitting := by
  unfold Definition.ofBusiness fitting Validator.fits
  rw [List.filter_filter]
  apply List.filter_congr
  intro d _
  rw [Bool.eq_iff_iff]
  simp only [Bool.and_eq_true, beq_iff_eq, decide_eq_true_eq]
  constructor
  · rintro ⟨hfits, -⟩
    exact hfits
  · intro hfits
    exact ⟨hfits, hfits.1⟩

theorem select_eq : Validator.select c.subject.inst
    (Definition.ofBusiness c.definitions c.subject.inst.processKey) =
      match c.definition? with
      | some d => .ok d
      | none => .error (.noTargetDefinition c.subject.inst.processKey c.subject.inst.id) := by
  have hnewest : Validator.newest? ((Definition.ofBusiness c.definitions
      c.subject.inst.processKey).filter (Validator.fits c.subject.inst)) = c.definition? :=
    c.filter_fits ▸ Validator.newest?_eq _
  unfold Validator.select
  cases hd : c.definition? with
  | none => rw [hnewest, hd]
  | some d => rw [hnewest, hd]

theorem definition?_eq_none : c.definition? = none ↔ c.fitting = [] := by
  unfold definition?
  rw [← Validator.newest?_eq, Validator.newest?_eq_none]

theorem reason?_select : reason? (Validator.select c.subject.inst
    (Definition.ofBusiness c.definitions c.subject.inst.processKey)) =
      c.complaint .fittingDefinition := by
  rw [select_eq]
  simp only [complaint, ← definition?_eq_none]
  cases c.definition? with
  | none => rfl
  | some d => rfl

theorem reason?_checkDefinition {d : Definition} (hd : c.definition? = some d) :
    reason? (c.settings.validator.checkDefinition d c.nodes) =
      ((c.complaint .startEvent).or (c.complaint .listener)).or (c.complaint .knownElements) := by
  unfold Validator.checkDefinition
  simp only [complaint, hd, Option.bind_eq_bind, Option.bind_some]
  cases hevent : d.startEvent with
  | none => rfl
  | some event =>
    have hlistens : (c.settings.validator.jobTypeValidation &&
        !event.listenerJobTypes.contains c.settings.validator.jobType) = true ↔
        c.settings.jobTypeValidation = true ∧ c.settings.jobType ∉ event.listenerJobTypes := by
      simp [MigrationSettings.validator]
    have hunknown : (fun n : FlowNode => !d.hasFlowNode n.activityId) =
        fun n => decide (n.activityId ∉ d.flowNodeIds) := by
      funext n
      simp [Definition.hasFlowNode]
    simp only [hlistens, hunknown, Option.bind_some, reduceCtorEq, if_false, Option.none_or]
    by_cases hmissing : c.settings.jobTypeValidation = true ∧
        c.settings.jobType ∉ event.listenerJobTypes
    · rw [if_pos hmissing, if_pos hmissing]
      rfl
    · rw [if_neg hmissing, if_neg hmissing]
      split
      · next n hn => rw [hn]; rfl
      · next hn => rw [hn]; rfl

/-! ## The parts of a preparation -/

/-- The candidate is an instance of the snapshot of a workspace. -/
structure In (w : Workspace) : Prop where
  definitions : c.definitions = w.target.definitions
  source : c.source = w.source
  subject : w.source.instance? c.subject.inst.id = some c.subject
  steady : c.pipeline.Steady

/-- The migrator that decides about the candidate. -/
def migrator : Migrator Workspace := Workspace.migrator c.settings c.pipeline

variable {c} {w : Workspace}

theorem In.activityTree (h : c.In w) :
    (c.migrator.env.source.activityTree c.subject.inst.id).run w = (.ok c.subject.tree, w) := by
  show (w.source.activityTree c.subject.inst.id, w) = _
  unfold SnapshotSource.activityTree
  rw [h.subject]

theorem In.completedBefore (h : c.In w) (gateway : String) :
    (c.migrator.env.source.completedBefore c.subject.inst.id gateway).run w =
      (.ok ((c.subject.completed.get? gateway).getD []), w) := by
  show (w.source.completedBefore c.subject.inst.id gateway, w) = _
  unfold SnapshotSource.completedBefore
  rw [h.subject]

theorem In.variablesOf (h : c.In w) (scopeId : String) :
    (c.migrator.env.source.variablesOf scopeId).run w =
      (.ok (c.scopeVariables scopeId), w) := by
  unfold Candidate.scopeVariables
  rw [h.source]
  rfl

theorem In.searchDefinitions (h : c.In w) (businessId : String) :
    (c.migrator.env.target.searchDefinitions businessId).run w =
      (.ok (Definition.ofBusiness c.definitions businessId), w) := by
  rw [h.definitions]
  rfl

theorem In.noteHistory_checks (h : c.In w) (gateways : List Activity) (noted : BranchHistory) :
    Checks w none (c.migrator.noteHistory c.subject.inst.id gateways noted) fun history =>
      history = gateways.foldl (fun m g =>
        m.insert g.id ((c.subject.completed.get? g.activityId).getD [])) noted := by
  induction gateways generalizing noted with
  | nil => exact Checks.pure rfl
  | cons g rest ih =>
    refine (Checks.ask (h.completedBefore g.activityId)).step ?_
    intro completed hcompleted
    subst hcompleted
    exact ih _

/-- The flow nodes under the history that is noted are those of the candidate. -/
theorem In.history_checks (h : c.In w) :
    Checks w none (c.migrator.history c.subject.inst.id c.subject.tree) fun history =>
      FlowNode.resolve c.settings.strategy history c.subject.tree = c.nodes := by
  have hstrategy : c.migrator.settings.strategy = c.settings.strategy := rfl
  unfold Migrator.history
  rw [hstrategy]
  by_cases hlast : c.settings.strategy = .activateLastActivities
  · rw [if_pos hlast]
    obtain ⟨history, hrun, hhistory⟩ := h.noteHistory_checks
      (c.subject.tree.search ActivityType.parallelGateway) .empty
    have hsame : history = c.history := by
      rw [hhistory, Activity.search_eq_typed, Candidate.history, SortedMap.ofList, List.foldl_map]
    exact ⟨history, hrun, hsame ▸ FlowNode.resolve_eq ..⟩
  · rw [if_neg hlast]
    refine Checks.pure ?_
    have hsame : ActiveToken.inOrder c.settings.strategy .empty c.subject.tree =
        ActiveToken.inOrder c.settings.strategy c.history c.subject.tree := by
      apply ActiveToken.inOrder_congr
      intro g _ _
      -- only where finished activities are run again does the history matter
      unfold ActiveToken.atGateway
      split
      · rfl
      · next hstrategy => exact absurd hstrategy hlast
      · rfl
      · rfl
    rw [FlowNode.resolve_eq, hsame]
    rfl

theorem In.transformed_checks (h : c.In w) (scopeId : String) :
    Checks w (c.refusal? scopeId) (c.migrator.transformed scopeId) (c.Carries scopeId) := by
  refine (Checks.ask (h.variablesOf scopeId)).step ?_
  rintro vs rfl
  unfold refusal?
  rcases Pipeline.passAll_or_failsFirst c.pipeline (c.scopeVariables scopeId) with
    ⟨es, pairs, hall⟩ | ⟨es, e, hfails⟩
  · have htransform := Pipeline.transform_of_passAll hall
    rw [htransform]
    refine ⟨.ofList pairs, ?_, es, pairs, hall, rfl⟩
    show (Except.mapError _ (c.pipeline.transform _), w) = _
    rw [htransform]
    rfl
  · have htransform := Pipeline.transform_of_failsFirst hfails
    obtain ⟨i, name, message, rfl⟩ := hfails.refused h.steady
    rw [htransform]
    show (Except.mapError _ (c.pipeline.transform _), w) = _
    rw [htransform]
    rfl

theorem In.activations_checks (h : c.In w) (entries : List (String × FlowNode)) :
    Checks w (entries.findSome? fun entry => c.refusal? entry.1) (c.migrator.activations entries)
      (List.Forall₂ c.Activates entries) := by
  induction entries with
  | nil => exact Checks.pure .nil
  | cons entry rest ih =>
    obtain ⟨scopeId, node⟩ := entry
    rw [findSome?_cons_or]
    refine (h.transformed_checks scopeId).bind ?_
    intro vs hvs
    exact ih.map fun others hothers => .cons ⟨vs, hvs, rfl, rfl⟩ hothers

/-- A preparation checks the requirements in their order. -/
theorem In.resolveAll_checks (h : c.In w) :
    Checks w c.complaint? (c.migrator.resolveAll c.subject.inst) c.IsPrepared := by
  -- each check takes its complaints off the front of the list: first those about the tree,
  rw [complaint?_eq, ← Option.or_assoc, ← reason?_checkTree]
  refine (Checks.ask h.activityTree).step ?_
  intro tree htree
  subst htree
  refine (Checks.check w _).bind ?_
  intro _ _
  apply h.history_checks.step
  intro history hnodes
  have hsame : FlowNode.resolve c.migrator.settings.strategy history c.subject.tree = c.nodes :=
    hnodes
  simp only [hsame]
  -- then that about the flow nodes,
  rw [← reason?_checkFlowNodes]
  refine (Checks.check w _).bind ?_
  intro _ _
  refine (Checks.ask (h.searchDefinitions _)).step ?_
  intro definitions hdefinitions
  subst hdefinitions
  -- those about the definition, which is chosen first,
  rw [← reason?_select]
  refine (Checks.check w _).bind ?_
  intro d hselect
  have hd : c.definition? = some d := by
    rw [select_eq] at hselect
    split at hselect
    · next hsome =>
      cases hselect
      exact hsome
    · cases hselect
  rw [← Option.or_assoc, ← Option.or_assoc, ← reason?_checkDefinition c hd]
  refine (Checks.check w _).bind ?_
  intro _ _
  -- and those about the variables, of the instance and then of the flow nodes
  refine (h.transformed_checks c.subject.inst.id).bind ?_
  intro vs hvs
  have hkeys : c.complaint .nodeVariables =
      c.nodes.entries.findSome? fun entry => c.refusal? entry.1 := by
    simp only [complaint, SortedMap.keys, List.findSome?_map]
    rfl
  rw [hkeys]
  exact (h.activations_checks c.nodes.entries).map fun activations hactivations =>
    ⟨⟨d, vs, hd, hvs, rfl⟩, hactivations⟩

end Candidate

/-! ## The decision -/

namespace Migrator

/-- What a preparation comes to for an instance of a snapshot with distinct ids, where no
interceptor breaks off. It never ends the run and leaves everything as it is. It answers with a
reason to skip exactly if a requirement is not met, and this is the complaint about the first one;
where all are met it answers with what is to be sent. -/
theorem prepare_decides (settings : MigrationSettings) (pipeline : Pipeline)
    (hsteady : pipeline.Steady) (w : Workspace) (xs : List SnapshotInstance)
    (hsource : w.source = .ofInstances xs) (hids : (xs.map (·.inst.id)).Nodup)
    (x : SnapshotInstance) (hx : x ∈ xs) :
    let c : Candidate := ⟨settings, pipeline, w.target.definitions, w.source, x⟩
    ∃ outcome, ((Workspace.migrator settings pipeline).prepare x.inst).run w = (.ok outcome, w) ∧
      (∀ reason, outcome = .skip reason ↔ c.FirstComplaint reason) ∧
      ((∀ r, c.Meets r) → ∃ p, outcome = .ready p ∧ c.IsPrepared p) := by
  intro c
  have hin : c.In w := by
    refine ⟨rfl, rfl, ?_, hsteady⟩
    rw [hsource]
    exact SnapshotSource.instance?_ofInstances hids hx
  -- one walk through the preparation decides all three parts
  have hchecks := hin.resolveAll_checks
  unfold Checks at hchecks
  show ∃ outcome, (c.migrator.prepare x.inst).run w = (.ok outcome, w) ∧ _
  unfold Action.run at hchecks
  unfold Action.run Migrator.prepare
  simp only [← c.complaint?_eq_some hsteady, ← c.complaint?_eq_none hsteady]
  split at hchecks
  · next reason hcomplaint =>
    refine ⟨.skip reason, ?_, ?_, ?_⟩
    · rw [hchecks]
    · intro other
      rw [hcomplaint]
      simp
    · intro hnone
      rw [hcomplaint] at hnone
      cases hnone
  · next hcomplaint =>
    obtain ⟨p, hrun, hp⟩ := hchecks
    refine ⟨.ready p, ?_, ?_, ?_⟩
    · rw [hrun]
    · intro reason
      rw [hcomplaint]
      simp
    · intro _
      exact ⟨p, rfl, hp⟩

/-- Four instances under a pipeline of which one interceptor refuses what is empty and the other one
changes texts but does not see dates. The first instance is ready, with changed texts and its date as
it was, for the last of two definitions whose version is as great. The second one has empty variables
in both scopes, and that of the instance counts. The third one has an empty variable at its flow
node. The fourth one has an empty variable too, but before that no definition. -/
theorem prepare_decides_about_orders :
    let strict : Interceptor := ⟨"strict", 1, .universal, fun _ value =>
      match value with
      | .null => .error (.refused "nothing there")
      | value => .ok value⟩
    let loud : Interceptor := ⟨"loud", 2, .kinds [.string], fun _ value =>
      match value with
      | .string text => .ok (.string (text ++ "!"))
      | value => .ok value⟩
    let pipeline : Pipeline := ⟨[strict, loud]⟩
    let subject (id process : String) (customer item : Json) : SnapshotInstance :=
      ⟨⟨id, process, process ++ ":1", none, none⟩,
        ⟨id, process, "process", none, [⟨id ++ "-t", "T1", "userTask", none, [], []⟩], []⟩,
        [⟨"customer", .string, customer, id, id⟩, ⟨"day", .date, .string "2026-03-01", id, id⟩,
          ⟨"item", .string, item, id ++ "-t", id⟩], .empty⟩
    let ada := subject "a" "order" (.string "Ada") (.string "tea")
    let nobody := subject "b" "order" .null .null
    let bob := subject "c" "order" (.string "Bob") .null
    let refund := subject "d" "refund" .null (.string "tea")
    let process (key version : Int) : Definition :=
      ⟨key, "order", version, none, ["start", "T1"], some ⟨"start", ["migrator"]⟩⟩
    let definitions := [process 1 2, process 2 2, process 3 1]
    let w : Workspace :=
      ⟨⟨[ada, nobody, bob, refund]⟩, ⟨definitions, .absent, .start definitions⟩, ⟨""⟩, Database.empty⟩
    let prepare (x : SnapshotInstance) := ((Workspace.migrator {} pipeline).prepare x.inst).run w
    let refusal (name : String) := "An error occurred during variable transformation. " ++
      "Interceptor [strict] failed for variable [" ++ name ++ "]: nothing there"
    prepare ada = (.ok (.ready
      ⟨⟨2, "order", none, .ofList [("customer", .string "Ada!"), ("day", .string "2026-03-01"),
          ("legacyId", .string "a")]⟩,
        [⟨"T1", .ofList [("item", .string "tea!")]⟩]⟩), w) ∧
    prepare nobody = (.ok (.skip (refusal "customer")), w) ∧
    prepare bob = (.ok (.skip (refusal "item")), w) ∧
    prepare refund = (.ok (.skip ("No target deployment found for process ID [refund] required for " ++
      "instance with legacyID [d].")), w) := by
  intro strict loud pipeline subject ada nobody bob refund process definitions w prepare refusal
  have hsteady : pipeline.Steady := by
    intro i hi v value message hexecute
    have hmem : i = strict ∨ i = loud := by
      simpa [pipeline] using hi
    rcases hmem with rfl | rfl
    · simp only [strict] at hexecute
      split at hexecute <;> cases hexecute
    · simp only [loud] at hexecute
      split at hexecute <;> cases hexecute
  have hsource : w.source = .ofInstances [ada, nobody, bob, refund] :=
    congrArg SnapshotSource.mk (List.mergeSort_of_pairwise (by decide)).symm
  have hdecides := prepare_decides {} pipeline hsteady w _ hsource (by decide)
  have hskips : ∀ x ∈ [ada, nobody, bob, refund], ∀ reason,
      Candidate.complaint? ⟨{}, pipeline, definitions, w.source, x⟩ = some reason →
        prepare x = (.ok (.skip reason), w) := by
    intro x hx reason hcomplaint
    obtain ⟨outcome, hrun, hskip, -⟩ := hdecides x hx
    show Action.run _ w = _
    rw [hrun, (hskip reason).2 ((Candidate.complaint?_eq_some _ hsteady).1 hcomplaint)]
  refine ⟨?_, hskips nobody (by simp) _ ?_, hskips bob (by simp) _ ?_, hskips refund (by simp) _ ?_⟩
  · obtain ⟨outcome, hrun, -, hready⟩ := hdecides ada List.mem_cons_self
    let c : Candidate := ⟨{}, pipeline, definitions, w.source, ada⟩
    have hnothing : c.complaint? = none := by
      decide +kernel
    obtain ⟨p, rfl, ⟨d, vs, hd, hvs, hrequest⟩, hactivations⟩ :=
      hready ((c.complaint?_eq_none hsteady).1 hnothing)
    have hchosen : c.definition? = some (process 2 2) := by
      decide +kernel
    have hcustomer : c.pipeline.transform (c.scopeVariables "a") =
        .ok (.ofList [("customer", .string "Ada!"), ("day", .string "2026-03-01")]) := by
      rfl
    have hitem : c.pipeline.transform (c.scopeVariables "a-t") =
        .ok (.ofList [("item", .string "tea!")]) := by
      rfl
    have hnodes : c.nodes.entries = [("a-t", ⟨"T1", none, some "userTask", .activity⟩)] := by
      decide +kernel
    rw [hnodes] at hactivations
    cases hd.symm.trans hchosen
    cases (c.transform_of_carries hvs).symm.trans hcustomer
    obtain ⟨⟨element, vs⟩, others, ⟨_, hvs, helement, hvars⟩, hothers, hsingle⟩ :=
      List.forall₂_cons_left_iff.1 hactivations
    cases (c.transform_of_carries hvs).symm.trans hitem
    obtain ⟨request, activations⟩ := p
    cases hrequest
    cases helement
    cases hvars
    cases List.forall₂_nil_left_iff.1 hothers
    cases hsingle
    exact hrun
  · decide +kernel
  · decide +kernel
  · decide +kernel

end Migrator

end ProcessMigration
