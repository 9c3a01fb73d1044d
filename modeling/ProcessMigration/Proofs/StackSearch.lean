import ProcessMigration.FlowNode.LookUp
import ProcessMigration.Proofs.ActiveTokens
import ProcessMigration.Proofs.Preparation
import ProcessMigration.Proofs.TreePlaces
import ProcessMigration.Source.Stack

/-!
# Searching with a stack is walking in pre-order

The loop over a stack comes to its end after as many rounds as the tree has nodes, and has found
what a walk in pre-order meets. The invariant is about all trees on the stack: what was found and
what a walk through them, from the end of the stack, will still meet do not change together, and
every round leaves one node less to look at.

* `StackSearch.Leads`: the invariant, which a round keeps;
* `StackSearch.rounds?_size`: what the loop ends with;
* `Validator.checkTree_eq`: the check of a tree names what comes first in pre-order;
* `FlowNode.askResolve_noting`: at which gateways the resolver looks up the history;
* `Migrator.stack_search_is_preorder`: all of it, and that the history noted before has an entry for
  each of these gateways.
-/

namespace ProcessMigration

namespace StackSearch

open Activity (sizeAll preorderAll)

variable {type : String} {s s' : StackSearch}

theorem sizeAll_reverse (trees : List Activity) : sizeAll trees.reverse = sizeAll trees := by
  induction trees with
  | nil => rfl
  | cons a rest ih =>
    rw [List.reverse_cons, Activity.sizeAll_append, ih]
    simp only [sizeAll]
    omega

/-- What a search comes to: what was found, and what a walk through the trees on the stack meets,
from its end. -/
def result (type : String) (s : StackSearch) : List Activity :=
  s.found ++ (preorderAll s.stack.reverse).filter fun a => a.isOf type

/-- A round leads on: one node less is to be looked at, and the search comes to the same. -/
structure Leads (type : String) (s s' : StackSearch) : Prop where
  smaller : sizeAll s.stack = sizeAll s'.stack + 1
  same : s'.result type = s.result type

theorem round?_append (type : String) (below : List Activity) (node : Activity)
    (found : List Activity) :
    round? type ⟨below ++ [node], found⟩ =
      some ⟨below ++ node.children.reverse,
        if node.isOf type then found ++ [node] else found⟩ := by
  unfold round?
  rw [List.getLast?_append_of_ne_nil _ (List.cons_ne_nil _ _), List.getLast?_singleton,
    List.dropLast_concat]

/-- With something on the stack there is a next round, and it leads on. -/
theorem exists_round (type : String) (h : s.stack ≠ []) :
    ∃ s', s.round? type = some s' ∧ Leads type s s' := by
  rcases s with ⟨stack, found⟩
  -- the loop takes trees from the end of the stack
  cases stack using List.reverseRecOn with
  | nil => exact absurd rfl h
  | append_singleton below node =>
    refine ⟨_, round?_append type below node found, ?_, ?_⟩
    · simp only [Activity.sizeAll_append, sizeAll_reverse, sizeAll, Activity.size_eq]
      omega
    · -- read from its end, the stack has the children where the walk has what is below the node
      unfold result
      simp only [List.reverse_append, List.reverse_reverse, List.reverse_singleton,
        List.singleton_append, preorderAll, Activity.preorderAll_append, Activity.preorder_eq,
        Activity.descendants]
      by_cases htype : node.isOf type
      · simp [htype]
      · simp [htype]

theorem round?_of_empty (type : String) (found : List Activity) : round? type ⟨[], found⟩ = none :=
  rfl

/-- The loop comes to its end after as many rounds as there are nodes in the trees on the stack. -/
theorem rounds?_sizeAll (type : String) (s : StackSearch) :
    s.rounds? type (sizeAll s.stack) = some ⟨[], s.result type⟩ := by
  induction hsize : sizeAll s.stack generalizing s with
  | zero =>
    have hempty : s.stack = [] := by
      by_contra hsome
      rcases exists_round type hsome with ⟨s', _, hleads⟩
      have hsmaller := hleads.smaller
      omega
    rcases s with ⟨stack, found⟩
    cases hempty
    show some _ = some (StackSearch.mk [] (found ++ []))
    rw [List.append_nil]
  | succ n ih =>
    have hsome : s.stack ≠ [] := by
      intro hempty
      rw [hempty] at hsize
      cases hsize
    rcases exists_round type hsome with ⟨s', hround, hleads⟩
    have hsmaller := hleads.smaller
    have hrest := ih s' (by omega)
    rw [hleads.same] at hrest
    unfold rounds?
    rw [hround]
    exact hrest

/-- A search of a tree with a stack ends, with the nodes that the search finds. -/
theorem rounds?_size (tree : Activity) (type : String) :
    (start tree).rounds? type tree.size = some ⟨[], tree.search type⟩ := by
  have hsize : sizeAll (start tree).stack = tree.size := by
    unfold start
    simp only [sizeAll, Nat.add_zero]
  have hresult : (start tree).result type = tree.search type := by
    rw [Activity.search_eq_filter]
    unfold result start
    simp [preorderAll]
  rw [← hsize, rounds?_sizeAll, hresult]

end StackSearch

/-! ## The check of a tree -/

/-- A tree is refused for the first multi-instance body in pre-order, and where parallel gateways
are skipped for the first of these. -/
theorem Validator.checkTree_eq (v : Validator) (tree : Activity) :
    v.checkTree tree =
      match tree.preorder.find? fun a => a.isOf ActivityType.multiInstanceBody with
      | some body => .error (.multiInstance (withoutMark body.activityId))
      | none =>
        if v.strategy = .skip then
          match tree.preorder.find? fun a => a.isOf ActivityType.parallelGateway with
          | some gateway => .error (.activeParallelGateway gateway.activityId)
          | none => .ok ()
        else .ok () := by
  unfold checkTree
  rw [← List.head?_filter, ← List.head?_filter, ← Activity.search_eq_filter,
    ← Activity.search_eq_filter]
  cases tree.search ActivityType.multiInstanceBody with
  | cons body rest => rfl
  | nil =>
    cases tree.search ActivityType.parallelGateway with
    | cons gateway rest => rfl
    | nil => rfl

/-! ## Looking up the history -/

namespace FlowNode

open Activity (postorder postorderAll)

variable {ε : Type} {strategy : GatewayStrategy} {history : BranchHistory}

/-- The ids of the parallel gateways among some nodes, where the strategy asks for their history. -/
def askedAt (strategy : GatewayStrategy) (nodes : List Activity) : List String :=
  match strategy with
  | .activateLastActivities =>
    (nodes.filter fun a => a.isOf ActivityType.parallelGateway).map (·.id)
  | _ => []

theorem askedAt_append (strategy : GatewayStrategy) (xs ys : List Activity) :
    askedAt strategy (xs ++ ys) = askedAt strategy xs ++ askedAt strategy ys := by
  unfold askedAt
  split
  · rw [List.filter_append, List.map_append]
  · rfl

theorem askedAt_gateway {g : Activity} (h : g.isOf ActivityType.parallelGateway = true) :
    askedAt .activateLastActivities [g] = [g.id] := by
  simp [askedAt, h]

theorem askedAt_of_other (strategy : GatewayStrategy) {a : Activity}
    (h : a.isOf ActivityType.parallelGateway = false) : askedAt strategy [a] = [] := by
  unfold askedAt
  split
  · rw [List.filter_cons_of_neg (by simp [h])]
    rfl
  · rfl

theorem askGateway_noting (strategy : GatewayStrategy) (history : BranchHistory) (g : Activity)
    (asked : List String) (hgateway : g.isOf ActivityType.parallelGateway = true) :
    (askGateway strategy history.noting g : Action (List String) ε _).run asked =
      (.ok (ofGateway strategy history g), asked ++ askedAt strategy [g]) := by
  cases strategy with
  | activateLastActivities =>
    rw [askedAt_gateway hgateway]
    rfl
  | ignore => exact congrArg (Prod.mk _) (List.append_nil asked).symm
  | migrate => exact congrArg (Prod.mk _) (List.append_nil asked).symm
  | skip => exact congrArg (Prod.mk _) (List.append_nil asked).symm

theorem askActivity_noting (strategy : GatewayStrategy) (history : BranchHistory) (a : Activity)
    (asked : List String) :
    (askActivity strategy history.noting a : Action (List String) ε _).run asked =
      (.ok (ofActivity strategy history a), asked ++ askedAt strategy [a]) := by
  unfold askActivity ofActivity
  by_cases hsub : a.isOf ActivityType.subProcess
  · -- the two types differ, so at a sub-process nothing is looked up
    have hother : a.isOf ActivityType.parallelGateway = false := by
      unfold Activity.isOf at hsub ⊢
      rw [beq_iff_eq.1 hsub]
      decide
    rw [if_pos hsub, if_pos hsub, askedAt_of_other strategy hother, List.append_nil]
    rfl
  · rw [if_neg hsub, if_neg hsub]
    by_cases hgateway : a.isOf ActivityType.parallelGateway
    · rw [if_pos hgateway, if_pos hgateway]
      exact askGateway_noting strategy history a asked hgateway
    · rw [if_neg hgateway, if_neg hgateway,
        askedAt_of_other strategy (Bool.eq_false_iff.2 hgateway), List.append_nil]
      split
      · rfl
      · rfl

mutual

/-- Emitting a tree, the history is looked up at the gateways below the root, each after its own
subtree. -/
theorem askEmissions_noting : ∀ (a : Activity) (asked : List String),
    (askEmissions strategy history.noting a : Action (List String) ε _).run asked =
      (.ok (emissions strategy history a),
        asked ++ askedAt strategy (postorderAll a.children))
  | ⟨_, _, _, _, children, _⟩, asked => by
    rw [askEmissions, Action.run_bind_ok (askChildEmissions_noting children asked), emissions]
    rfl

theorem askChildEmissions_noting : ∀ (trees : List Activity) (asked : List String),
    (askChildEmissions strategy history.noting trees : Action (List String) ε _).run asked =
      (.ok (childEmissions strategy history trees), asked ++ askedAt strategy (postorderAll trees))
  | [], asked => by
    have hnone : askedAt strategy [] = [] := by cases strategy <;> rfl
    rw [askChildEmissions, childEmissions, postorderAll, hnone, List.append_nil]
    rfl
  | a :: rest, asked => by
    rw [askChildEmissions, Action.run_bind_ok (askEmissions_noting a asked),
      Action.run_bind_ok (askActivity_noting strategy history a _),
      Action.run_bind_ok (askChildEmissions_noting rest _), childEmissions, postorderAll,
      Activity.postorder_eq, askedAt_append, askedAt_append]
    simp only [List.append_assoc]
    rfl

end

/-- The resolver looks up the history at the gateways below the root, and comes to the same flow
nodes as without being watched. -/
theorem askResolve_noting (strategy : GatewayStrategy) (history : BranchHistory) (tree : Activity) :
    (askResolve strategy history.noting tree : Action (List String) ε _).run [] =
      (.ok (resolve strategy history tree), askedAt strategy (postorderAll tree.children)) := by
  unfold askResolve
  rw [Action.run_bind_ok (askEmissions_noting tree [])]
  rfl

end FlowNode

/-! ## The history noted before -/

namespace Migrator

variable {σ : Type} {m : Migrator σ} {id : String} {s s' : σ}

/-- Noting what finished before some gateways leaves an entry for each of them, and keeps the
entries that there were. -/
theorem entries_of_noteHistory {gateways : List Activity} {before history : BranchHistory}
    (h : (m.noteHistory id gateways before).run s = (.ok history, s')) :
    (∀ g ∈ gateways, (history.get? g.id).isSome = true) ∧
      ∀ gatewayId, (before.get? gatewayId).isSome = true →
        (history.get? gatewayId).isSome = true := by
  induction gateways generalizing before s with
  | nil =>
    cases h
    refine ⟨?_, fun _ hkept => hkept⟩
    intro g hg
    cases hg
  | cons gateway rest ih =>
    rcases Action.run_bind_eq_ok.1 h with ⟨completed, s₁, _, hrest⟩
    rcases ih hrest with ⟨hentries, hkept⟩
    constructor
    · intro g hg
      rcases List.mem_cons.1 hg with rfl | hg
      · apply hkept
        rw [SortedMap.get?_insert, if_pos rfl]
        rfl
      · exact hentries g hg
    · intro gatewayId hbefore
      apply hkept
      rw [SortedMap.get?_insert]
      split
      · rfl
      · exact hbefore

/-- The gateways at which the resolver looks up the history are among those that a search finds. -/
theorem mem_search_of_asked {strategy : GatewayStrategy} {tree : Activity} {gatewayId : String}
    (h : gatewayId ∈ FlowNode.askedAt strategy (Activity.postorderAll tree.children)) :
    strategy = .activateLastActivities ∧
      ∃ g ∈ tree.search ActivityType.parallelGateway, g.id = gatewayId := by
  unfold FlowNode.askedAt at h
  split at h
  · rcases List.mem_map.1 h with ⟨g, hg, hid⟩
    rcases List.mem_filter.1 hg with ⟨hbelow, htype⟩
    have hdescendant := (Activity.postorderAll_perm tree.children).mem_iff.1 hbelow
    have hnode : g ∈ tree.preorder := Activity.mem_preorder_of_descendants hdescendant
    refine ⟨rfl, g, ?_, hid⟩
    rw [Activity.search_eq_filter]
    exact List.mem_filter.2 ⟨hnode, htype⟩
  · cases h

/-- Where the history was noted, the resolver finds an entry whenever it looks one up. -/
theorem entry_of_asked {tree : Activity} {history : BranchHistory}
    (h : (m.history id tree).run s = (.ok history, s')) {gatewayId : String}
    (hasked : gatewayId ∈
      FlowNode.askedAt m.settings.strategy (Activity.postorderAll tree.children)) :
    (history.get? gatewayId).isSome = true := by
  rcases mem_search_of_asked hasked with ⟨hstrategy, g, hfound, rfl⟩
  unfold Migrator.history at h
  rw [if_pos hstrategy] at h
  exact (entries_of_noteHistory h).1 g hfound

/-- What is said of a search of a tree with a stack. -/
structure WalksInPreorder (tree : Activity) (type : String) : Prop where
  /-- It ends, after as many rounds as the tree has nodes, with what the search finds. -/
  ends : (StackSearch.start tree).rounds? type tree.size = some ⟨[], tree.search type⟩ ∧
    StackSearch.round? type ⟨[], tree.search type⟩ = none
  /-- That is the walk in pre-order without the nodes of other types. -/
  walk : tree.search type = tree.preorder.filter fun a => a.isOf type
  /-- Each node of the type is found at its place, and each place once. -/
  places : ∃ found : List (List Nat), found.Pairwise (· < ·) ∧
    (∀ place, place ∈ found ↔ ∃ node, tree.at? place = some node ∧ node.isOf type = true) ∧
    found.map tree.at? = (tree.search type).map some
  /-- Transitions are not found, and make no difference to what is. -/
  transitions : tree.withoutTransitions.search type =
    (tree.search type).map Activity.withoutTransitions

/-- **Searching with a stack is walking in pre-order.** In every tree the search ends and finds the
nodes of a type in pre-order, each once. So a tree is refused for the first multi-instance body or
gateway in this order, and when the history was noted for the gateways that were found, it has an
entry for each one at which the resolver looks it up. -/
theorem stack_search_is_preorder (m : Migrator σ) (id : String) (tree : Activity) :
    (∀ type, WalksInPreorder tree type) ∧
      (∀ v : Validator, v.checkTree tree =
        match tree.preorder.find? fun a => a.isOf ActivityType.multiInstanceBody with
        | some body => .error (.multiInstance (Validator.withoutMark body.activityId))
        | none =>
          if v.strategy = .skip then
            match tree.preorder.find? fun a => a.isOf ActivityType.parallelGateway with
            | some gateway => .error (.activeParallelGateway gateway.activityId)
            | none => .ok ()
          else .ok ()) ∧
      ∀ s s' history, (m.history id tree).run s = (.ok history, s') →
        ∃ asked, (FlowNode.askResolve m.settings.strategy history.noting tree :
            Action (List String) MigrationError _).run [] =
              (.ok (FlowNode.resolve m.settings.strategy history tree), asked) ∧
          ∀ gatewayId ∈ asked, (history.get? gatewayId).isSome = true := by
  constructor
  · intro type
    constructor
    · exact ⟨StackSearch.rounds?_size tree type, StackSearch.round?_of_empty type _⟩
    · exact Activity.search_eq_filter tree type
    · exact Activity.search_places tree type
    · exact Activity.search_withoutTransitions tree type
  constructor
  · intro v
    exact v.checkTree_eq tree
  · intro s s' history hhistory
    refine ⟨_, FlowNode.askResolve_noting m.settings.strategy history tree, ?_⟩
    intro gatewayId hasked
    exact entry_of_asked hhistory hasked

/-- An order that waits at two gateways, one of them inside a sub-process. -/
def gatewayOrder : SnapshotInstance where
  inst := ⟨"p", "order", "order:1", none, none⟩
  tree := ⟨"p", "order", "process", none,
    [⟨"s", "S", ActivityType.subProcess, none,
      [⟨"g2", "G2", ActivityType.parallelGateway, none, [], []⟩], []⟩,
      ⟨"g1", "G1", ActivityType.parallelGateway, none, [], []⟩], []⟩
  vars := []
  completed := SortedMap.empty.insert "G1" [⟨"a", "A", "serviceTask", none, none⟩]

/-- The resolver looks up both gateways of the order, and both have an entry. -/
theorem gateways_of_order_are_noted :
    let m := Workspace.migrator { strategy := .activateLastActivities } .empty
    let w : Workspace :=
      ⟨⟨[gatewayOrder]⟩, ⟨[], .absent, .start []⟩, ⟨""⟩, Database.empty⟩
    let history : BranchHistory := (SortedMap.empty.insert "g2" []).insert "g1"
      [⟨"a", "A", "serviceTask", none, none⟩]
    (m.history "p" gatewayOrder.tree).run w = (.ok history, w) ∧
      (∃ asked, (FlowNode.askResolve .activateLastActivities history.noting gatewayOrder.tree :
          Action (List String) MigrationError _).run [] =
            (.ok (FlowNode.resolve .activateLastActivities history gatewayOrder.tree), asked) ∧
        ∀ gatewayId ∈ asked, (history.get? gatewayId).isSome = true) ∧
      WalksInPreorder gatewayOrder.tree ActivityType.parallelGateway := by
  intro m w history
  have hhistory : (m.history "p" gatewayOrder.tree).run w = (.ok history, w) := by
    have hfound : gatewayOrder.tree.search ActivityType.parallelGateway =
        [⟨"g2", "G2", ActivityType.parallelGateway, none, [], []⟩,
          ⟨"g1", "G1", ActivityType.parallelGateway, none, [], []⟩] := by
      rw [Activity.search_eq_filter]
      rfl
    have hstrategy : m.settings.strategy = .activateLastActivities := rfl
    unfold Migrator.history
    rw [if_pos hstrategy, hfound]
    rfl
  rcases stack_search_is_preorder m "p" gatewayOrder.tree with ⟨hwalk, _, hnoted⟩
  exact ⟨hhistory, hnoted w w history hhistory, hwalk ActivityType.parallelGateway⟩

end Migrator
end ProcessMigration
