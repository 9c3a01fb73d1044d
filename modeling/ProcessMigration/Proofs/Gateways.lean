import ProcessMigration.Proofs.ActiveTokens
import ProcessMigration.Proofs.Preparation

/-!
# Waiting gateways and the strategy

The flow nodes are found by a walk in post-order that leaves the root out, and the check looks for
gateways by a search that begins with it. Where the check finds none there is nothing for a strategy
to decide.

* `FlowNode.resolve_migrate`: to migrate gateways and to skip instances with gateways resolves the
  same flow nodes;
* `FlowNode.resolve_of_gatewayFree` and `origin_of_gatewayFree`: a tree without a gateway has the
  same flow nodes under all strategies, and these stand for activities and transitions;
* `Validator.gatewayFree_of_checkTree`: such a tree is what the check lets pass;
* `Migrator.prepare_ready`: what is prepared activates the flow nodes of a tree that was checked.
-/

namespace ProcessMigration

variable {σ : Type}

/-- No node of the tree is a parallel gateway, the root neither. -/
def Activity.GatewayFree (tree : Activity) : Prop :=
  ∀ a ∈ tree.preorder, a.activityType ≠ ActivityType.parallelGateway

theorem Activity.search_eq_nil {tree : Activity} {type : String} :
    tree.search type = [] ↔ ∀ a ∈ tree.preorder, a.activityType ≠ type := by
  rw [search_eq_filter, List.filter_eq_nil_iff]
  simp only [isOf, beq_iff_eq]

/-! ## What is resolved -/

/-- Without a gateway all tokens are activities and transitions. -/
theorem Activity.HasToken.origin_of_gatewayFree {g : GatewayStrategy} {h : BranchHistory}
    {tree : Activity} {token : ActiveToken} (htoken : tree.HasToken g h token)
    (hfree : tree.GatewayFree) : token.origin = .activity ∨ token.origin = .transition := by
  cases htoken with
  | activity => exact .inl rfl
  | transition => exact .inr rfl
  | gateway _ node isGateway | replayed _ node isGateway =>
    exact absurd isGateway (hfree _ (Activity.mem_preorder_of_descendants node))

namespace FlowNode

variable {g : GatewayStrategy} {h : BranchHistory} {tree : Activity} {node : FlowNode}

theorem exists_token (hnode : node ∈ (resolve g h tree).values) :
    ∃ token, tree.HasToken g h token ∧ token.flowNode = node := by
  obtain ⟨key, hget⟩ := SortedMap.mem_values_iff.1 hnode
  rw [resolve_eq] at hget
  obtain ⟨token, htoken, heq⟩ := List.mem_map.1 (SortedMap.mem_of_get?_ofList hget)
  exact ⟨token, ActiveToken.mem_inOrder.1 htoken, congrArg Prod.snd heq⟩

/-- To migrate gateways resolves what is resolved where instances with gateways are skipped. -/
theorem resolve_migrate (h h' : BranchHistory) (tree : Activity) :
    resolve .migrate h tree = resolve .skip h' tree := by
  have hsame : ActiveToken.inOrder .migrate h tree = ActiveToken.inOrder .skip h' tree :=
    ActiveToken.inOrder_congr fun _ _ _ => rfl
  rw [resolve_eq, resolve_eq, hsame]

/-- Without a gateway the strategy and the history do not matter. -/
theorem resolve_of_gatewayFree (hfree : tree.GatewayFree) (g g' : GatewayStrategy)
    (h h' : BranchHistory) : resolve g h tree = resolve g' h' tree := by
  have hsame : ActiveToken.inOrder g h tree = ActiveToken.inOrder g' h' tree := by
    apply ActiveToken.inOrder_congr
    intro gateway hbelow hgateway
    exact absurd hgateway (hfree gateway (Activity.mem_preorder_of_descendants hbelow))
  rw [resolve_eq, resolve_eq, hsame]

/-- Without a gateway the flow nodes stand for activities and transitions. -/
theorem origin_of_gatewayFree (hfree : tree.GatewayFree)
    (hnode : node ∈ (resolve g h tree).values) :
    node.origin = .activity ∨ node.origin = .transition := by
  obtain ⟨token, htoken, rfl⟩ := exists_token hnode
  exact htoken.origin_of_gatewayFree hfree

end FlowNode

/-! ## What is checked -/

namespace Validator

variable {v : Validator} {tree : Activity}

/-- What the check lets pass has no gateway, where instances with gateways are skipped. -/
theorem gatewayFree_of_checkTree (hskip : v.strategy = .skip) (hok : v.checkTree tree = .ok ()) :
    tree.GatewayFree := by
  unfold checkTree at hok
  rw [if_pos hskip] at hok
  split at hok
  · cases hok
  split at hok
  · cases hok
  · next hnone => exact Activity.search_eq_nil.1 hnone

/-- Without a gateway the check does not depend on the strategy. -/
theorem checkTree_of_gatewayFree (g : GatewayStrategy) (hfree : tree.GatewayFree) :
    { v with strategy := g }.checkTree tree = v.checkTree tree := by
  have hnone : tree.search ActivityType.parallelGateway = [] := Activity.search_eq_nil.2 hfree
  unfold checkTree
  simp only [hnone, ite_self]

theorem checkFlowNodes_eq_ok {i : SourceInstance} {nodes : SortedMap FlowNode} :
    v.checkFlowNodes i nodes = .ok () ↔ nodes.entries.isEmpty = false := by
  unfold checkFlowNodes
  split
  · next hempty => simp [hempty]
  · next hsome => simpa using hsome

/-- Where a gateway is resolved, the check finds one. -/
theorem checkTree_of_gateway {h : BranchHistory} {node : FlowNode} (hskip : v.strategy = .skip)
    (hnode : node ∈ (FlowNode.resolve .skip h tree).values) (hgateway : node.origin = .gateway) :
    ∃ e, v.checkTree tree = .error e := by
  cases hcheck : v.checkTree tree with
  | error e => exact ⟨e, rfl⟩
  | ok =>
    have horigin := FlowNode.origin_of_gatewayFree (gatewayFree_of_checkTree hskip hcheck) hnode
    rw [hgateway] at horigin
    rcases horigin with h | h <;> cases h

end Validator

/-! ## What is prepared -/

namespace Migrator

variable {m : Migrator σ} {i : SourceInstance}

/-- The course of a preparation at whose end there is something to send. -/
inductive Prepares (m : Migrator σ) (i : SourceInstance) : σ → Prepared → σ → Prop where
  | sends {s s₁ s₂ s₃ s₄ s₅ : σ} {tree : Activity} {history : BranchHistory}
      {definitions : List Definition} {d : Definition} {vs : Variables}
      {activations : List Activation}
      (treeAnswered : (m.env.source.activityTree i.id).run s = (.ok tree, s₁))
      (treeChecked : m.settings.validator.checkTree tree = .ok ())
      (historyNoted : (m.history i.id tree).run s₁ = (.ok history, s₂))
      (nodesChecked : m.settings.validator.checkFlowNodes i
        (FlowNode.resolve m.settings.strategy history tree) = .ok ())
      (definitionsAnswered : (m.env.target.searchDefinitions i.processKey).run s₂ =
        (.ok definitions, s₃))
      (selected : Validator.select i definitions = .ok d)
      (definitionChecked : m.settings.validator.checkDefinition d
        (FlowNode.resolve m.settings.strategy history tree) = .ok ())
      (rootTransformed : (m.transformed i.id).run s₃ = (.ok vs, s₄))
      (nodesTransformed : (m.activations
        (FlowNode.resolve m.settings.strategy history tree).entries).run s₄ =
          (.ok activations, s₅)) :
      Prepares m i s
        ⟨⟨d.key, d.businessId, d.tenant, withLegacyId i.id vs⟩, activations⟩ s₅

theorem ask_eq_ok {α : Type} {x : Action σ ConnectorError α} {s s' : σ} {a : α} :
    (ask x).run s = (.ok a, s') ↔ x.run s = (.ok a, s') := by
  unfold ask Action.run Action.mapError
  split
  · next h => simp [h]
  · next h => simp [h]

theorem check_eq_ok {α : Type} {r : Except ValidationError α} {s s' : σ} {a : α} :
    (check r).run s = (.ok a, s') ↔ r = .ok a ∧ s = s' := by
  show (r.mapError _, s) = _ ↔ _
  cases r <;> simp [Except.mapError]

theorem resolveAll_eq_ok {s s' : σ} {p : Prepared} :
    (m.resolveAll i).run s = (.ok p, s') ↔ m.Prepares i s p s' := by
  unfold resolveAll
  simp only [Action.run_bind_eq_ok, ask_eq_ok, check_eq_ok]
  constructor
  · rintro ⟨tree, s₁, htree, _, _, ⟨hchecked, rfl⟩, history, s₂, hhistory, _, _, ⟨hnodes, rfl⟩,
      definitions, s₃, hdefinitions, d, _, ⟨hselect, rfl⟩, _, _, ⟨hfits, rfl⟩, vs, s₄, hroot,
      activations, s₅, hactivations, hend⟩
    cases hend
    exact .sends htree hchecked hhistory hnodes hdefinitions hselect hfits hroot hactivations
  · intro h
    cases h with
    | sends htree hchecked hhistory hnodes hdefinitions hselect hfits hroot hactivations =>
      exact ⟨_, _, htree, _, _, ⟨hchecked, rfl⟩, _, _, hhistory, _, _, ⟨hnodes, rfl⟩, _, _,
        hdefinitions, _, _, ⟨hselect, rfl⟩, _, _, ⟨hfits, rfl⟩, _, _, hroot, _, _, hactivations,
        rfl⟩

/-- There is something to send exactly at the end of such a course. -/
theorem prepare_ready {s s' : σ} {p : Prepared} :
    (m.prepare i).run s = (.ok (.ready p), s') ↔ m.Prepares i s p s' := by
  rw [← resolveAll_eq_ok]
  unfold Action.run prepare
  split
  · next h => rw [h]; simp
  · next h => rw [h]; simp
  · next h => rw [h]; simp

theorem activations_elementIds {nodes : List (String × FlowNode)} {s s' : σ}
    {activations : List Activation} (h : (m.activations nodes).run s = (.ok activations, s')) :
    activations.map (·.elementId) = nodes.map (·.2.activityId) := by
  induction nodes generalizing s s' activations with
  | nil =>
    cases h
    rfl
  | cons entry rest ih =>
    obtain ⟨scopeId, node⟩ := entry
    unfold Migrator.activations at h
    simp only [Action.run_bind_eq_ok] at h
    obtain ⟨vs, s₁, -, others, s₂, hothers, hend⟩ := h
    cases hend
    rw [List.map_cons, List.map_cons, ih hothers]

/-- Without a gateway nothing is asked about finished activities. -/
theorem history_of_gatewayFree {id : String} {tree : Activity} (hfree : tree.GatewayFree) (s : σ) :
    (m.history id tree).run s = (.ok .empty, s) := by
  unfold history
  rw [Activity.search_eq_nil.2 hfree]
  split
  · rfl
  · rfl

/-- The migrator with another strategy. -/
def withStrategy (m : Migrator σ) (g : GatewayStrategy) : Migrator σ :=
  { m with settings := { m.settings with strategy := g } }

theorem activations_withStrategy (g : GatewayStrategy) (nodes : List (String × FlowNode)) :
    (m.withStrategy g).activations nodes = m.activations nodes := by
  induction nodes with
  | nil => rfl
  | cons entry rest ih =>
    obtain ⟨scopeId, node⟩ := entry
    unfold Migrator.activations
    rw [ih]
    rfl

/-- A preparation of an instance without a gateway takes the same course under another strategy. -/
theorem Prepares.withStrategy {s s₁ s' : σ} {p : Prepared} {tree : Activity}
    (h : m.Prepares i s p s') (g : GatewayStrategy)
    (htree : (m.env.source.activityTree i.id).run s = (.ok tree, s₁)) (hfree : tree.GatewayFree) :
    (m.withStrategy g).Prepares i s p s' := by
  cases h with
  | sends treeAnswered treeChecked historyNoted nodesChecked definitionsAnswered selected
      definitionChecked rootTransformed nodesTransformed =>
    rw [htree] at treeAnswered
    cases treeAnswered
    -- under both strategies no history is noted, so what is checked and activated is the same
    rw [history_of_gatewayFree hfree] at historyNoted
    cases historyNoted
    have hsame := FlowNode.resolve_of_gatewayFree hfree m.settings.strategy g .empty .empty
    rw [hsame] at nodesChecked definitionChecked nodesTransformed
    refine .sends htree ?_ (history_of_gatewayFree hfree s₁) ?_ definitionsAnswered selected
      definitionChecked rootTransformed ?_
    · exact (Validator.checkTree_of_gatewayFree g hfree).trans treeChecked
    · exact Validator.checkFlowNodes_eq_ok.2 (Validator.checkFlowNodes_eq_ok.1 nodesChecked)
    · rw [activations_withStrategy]
      exact nodesTransformed

/-- What is prepared where instances with gateways are skipped activates the flow nodes of
activities and transitions. -/
theorem Prepares.origin_of_skip {s s' : σ} {p : Prepared} (h : m.Prepares i s p s')
    (hskip : m.settings.strategy = .skip) :
    ∃ tree s₁ history, (m.env.source.activityTree i.id).run s = (.ok tree, s₁) ∧
      p.activations.map (·.elementId) =
        (FlowNode.resolve .skip history tree).values.map (·.activityId) ∧
      ∀ node ∈ (FlowNode.resolve .skip history tree).values,
        node.origin = .activity ∨ node.origin = .transition := by
  cases h with
  | @sends s₁ _ _ _ _ tree history _ _ _ _ treeAnswered treeChecked historyNoted nodesChecked
      definitionsAnswered selected definitionChecked rootTransformed nodesTransformed =>
    have hfree := Validator.gatewayFree_of_checkTree hskip treeChecked
    rw [hskip] at nodesTransformed
    refine ⟨tree, s₁, history, treeAnswered, ?_, fun node => FlowNode.origin_of_gatewayFree hfree⟩
    rw [activations_elementIds nodesTransformed]
    unfold SortedMap.values
    rw [List.map_map]
    rfl

end Migrator

/-- The flow nodes and the checks agree on gateways. To migrate gateways resolves what is resolved
where instances with gateways are skipped; there a tree with a gateway among its flow nodes does not
pass the check, and the flow nodes of a tree that passes are the same under all strategies and
histories and stand for activities and transitions. So no gateway and no finished activity is
prepared there, and the strategy decides nothing about an instance without a gateway. -/
theorem Validator.agrees_with_resolve (v : Validator) (hskip : v.strategy = .skip) (tree : Activity)
    (m : Migrator σ) (i : SourceInstance) (s : σ) :
    (∀ h h', FlowNode.resolve .migrate h tree = FlowNode.resolve .skip h' tree) ∧
    (∀ h, (∃ node ∈ (FlowNode.resolve .skip h tree).values, node.origin = .gateway) →
      ∃ e, v.checkTree tree = .error e) ∧
    (v.checkTree tree = .ok () → ∀ g g' h h',
      FlowNode.resolve g h tree = FlowNode.resolve g' h' tree ∧
      ∀ node ∈ (FlowNode.resolve g h tree).values,
        node.origin = .activity ∨ node.origin = .transition) ∧
    (m.settings.strategy = .skip → ∀ p s', (m.prepare i).run s = (.ok (.ready p), s') →
      ∃ tree s₁ h, (m.env.source.activityTree i.id).run s = (.ok tree, s₁) ∧
        p.activations.map (·.elementId) =
          (FlowNode.resolve .skip h tree).values.map (·.activityId) ∧
        ∀ node ∈ (FlowNode.resolve .skip h tree).values,
          node.origin = .activity ∨ node.origin = .transition) ∧
    (tree.GatewayFree → ∀ s₁, (m.env.source.activityTree i.id).run s = (.ok tree, s₁) →
      ∀ g p s', (m.prepare i).run s = (.ok (.ready p), s') ↔
        ((m.withStrategy g).prepare i).run s = (.ok (.ready p), s')) := by
  refine ⟨fun h h' => FlowNode.resolve_migrate h h' tree, ?_, ?_, ?_, ?_⟩
  · rintro h ⟨node, hnode, hgateway⟩
    exact checkTree_of_gateway hskip hnode hgateway
  · intro hcheck g g' h h'
    have hfree := gatewayFree_of_checkTree hskip hcheck
    exact ⟨FlowNode.resolve_of_gatewayFree hfree g g' h h',
      fun node => FlowNode.origin_of_gatewayFree hfree⟩
  · intro hmigrator p s' hready
    exact (Migrator.prepare_ready.1 hready).origin_of_skip hmigrator
  · intro hfree s₁ htree g p s'
    rw [Migrator.prepare_ready, Migrator.prepare_ready]
    refine ⟨fun h => h.withStrategy g htree hfree, ?_⟩
    intro h
    -- the strategy of the migrator is put back
    exact h.withStrategy m.settings.strategy htree hfree

/-- An order that waits at a gateway is refused, and an order at a task is prepared as it would be
if gateways were migrated. -/
theorem Validator.agrees_with_resolve_on_orders :
    let gateway : Activity := ⟨"g", "G", ActivityType.parallelGateway, none, [], []⟩
    let task : Activity := ⟨"t", "T1", "userTask", none, [], []⟩
    let order : SnapshotInstance :=
      ⟨⟨"p", "order", "order:1", none, none⟩,
        ⟨"p", "order", "process", none, [task], []⟩, [], .empty⟩
    let process : Definition :=
      ⟨1, "order", 1, none, ["start", "T1"], some ⟨"start", ["migrator"]⟩⟩
    let m := Workspace.migrator {} .empty
    let w : Workspace :=
      ⟨⟨[order]⟩, ⟨[process], .absent, .start [process]⟩, ⟨""⟩, Database.empty⟩
    let p : Prepared :=
      ⟨⟨1, "order", none, Migrator.withLegacyId "p" .empty⟩, [⟨"T1", .empty⟩]⟩
    (∃ e, m.settings.validator.checkTree ⟨"p", "order", "process", none, [task, gateway], []⟩ =
      .error e) ∧
    FlowNode.resolve .ignore .empty order.tree =
      FlowNode.resolve .activateLastActivities .empty order.tree ∧
    ((m.withStrategy .migrate).prepare order.inst).run w = (.ok (.ready p), w) ∧
    ∃ tree s₁ h, (m.env.source.activityTree "p").run w = (.ok tree, s₁) ∧
      ["T1"] = (FlowNode.resolve .skip h tree).values.map (·.activityId) ∧
      ∀ node ∈ (FlowNode.resolve .skip h tree).values,
        node.origin = .activity ∨ node.origin = .transition := by
  intro gateway task order process m w p
  have hready : (m.prepare order.inst).run w = (.ok (.ready p), w) := by
    have hcheck : m.settings.validator.checkTree order.tree = .ok () := by decide +kernel
    exact Migrator.prepare_ready.2 (.sends (d := process) rfl hcheck rfl rfl rfl rfl rfl rfl rfl)
  have hagree := agrees_with_resolve m.settings.validator rfl order.tree m order.inst w
  refine ⟨?_, (hagree.2.2.1 (by decide +kernel) _ _ _ _).1, ?_, hagree.2.2.2.1 rfl p w hready⟩
  · refine (agrees_with_resolve m.settings.validator rfl _ m order.inst w).2.1 .empty ?_
    exact ⟨⟨"G", none, some "parallelGateway", .gateway⟩, by decide, rfl⟩
  · have hfree : order.tree.GatewayFree := Activity.search_eq_nil.1 (by decide +kernel)
    exact (hagree.2.2.2.2 hfree w rfl .migrate p w).1 hready

end ProcessMigration
