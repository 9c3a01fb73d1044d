import Mathlib.Data.List.Induction
import ProcessMigration.FlowNode.Resolve
import ProcessMigration.Proofs.Listing
import ProcessMigration.Proofs.MapEntries
import ProcessMigration.Proofs.TreeWalks

/-!
# The tokens of a tree

A flow node stands for a **token** of the source instance: an activity that has nothing below it, a
waiting gateway, a completion that is to be run again, or a transition. Which tokens a tree has
under a strategy is said by the tree alone; the order in which they are met decides which of several
tokens with the same id is kept.

* `CompletedActivity.mem_values_lastPerActivity`: the completions noted are the last ones;
* `ActiveToken.mem_inOrder`: the tokens that a walk meets are those of the tree;
* `ActiveToken.inOrder_congr`: what decides about them apart from the tree;
* `FlowNode.emissions_eq`: the flow nodes that are emitted stand for these tokens, one by one;
* `FlowNode.resolve_stands_for_tokens`: what is resolved is, under the id of each token, the flow
  node of the last token with this id.
-/

namespace ProcessMigration

/-! ## The last completions -/

namespace CompletedActivity

/-- Of the completions of its activity this one ended last; of those that ended at the same time the
last in the list counts. -/
def IsLastOf (completed : List CompletedActivity) (c : CompletedActivity) : Prop :=
  ∃ earlier later, completed = earlier ++ c :: later ∧
    (∀ c' ∈ earlier, c'.activityId = c.activityId → ¬Instant.before c.endTime c'.endTime = true) ∧
    ∀ c' ∈ later, c'.activityId = c.activityId → Instant.before c'.endTime c.endTime = true

variable {completed : List CompletedActivity} {a c c' : CompletedActivity}

/-- An activity has one last completion. -/
theorem IsLastOf.unique (h : IsLastOf completed c) (h' : IsLastOf completed c')
    (hsame : c'.activityId = c.activityId) : c' = c := by
  obtain ⟨earlier, later, hsplit, hearlier, hlater⟩ := h
  obtain ⟨earlier', later', hsplit', hearlier', hlater'⟩ := h'
  rw [hsplit, List.append_eq_append_iff] at hsplit'
  -- if they stand at two places, the later one both ended before the earlier one and did not
  rcases hsplit' with ⟨between, hbetween, hrest⟩ | ⟨between, hbetween, hrest⟩
  · cases between with
    | nil => exact (List.cons.inj hrest).1.symm
    | cons b between =>
      obtain ⟨rfl, rfl⟩ := List.cons.inj hrest
      have hnot := hearlier' c (by simp [hbetween]) hsame.symm
      exact absurd (hlater c' (by simp) hsame) hnot
  · cases between with
    | nil => exact (List.cons.inj hrest).1
    | cons b between =>
      obtain ⟨rfl, rfl⟩ := List.cons.inj hrest
      have hnot := hearlier c' (by simp [hbetween]) hsame
      exact absurd (hlater' c (by simp) hsame.symm) hnot

/-- No completion of the activity ended after the last one. -/
theorem IsLastOf.not_before (h : IsLastOf completed c) (hc' : c' ∈ completed)
    (hsame : c'.activityId = c.activityId) : ¬Instant.before c.endTime c'.endTime = true := by
  obtain ⟨earlier, later, rfl, hearlier, hlater⟩ := h
  rcases List.mem_append.1 hc' with hc' | hc'
  · exact hearlier c' hc' hsame
  rcases List.mem_cons.1 hc' with rfl | hc'
  · rw [Instant.before_irrefl]
    decide
  · intro hbefore
    have hcycle := Instant.before_trans hbefore (hlater c' hc' hsame)
    rw [Instant.before_irrefl] at hcycle
    cases hcycle

/-- A further completion leaves the last one of an activity what it is, if it is of another activity
or ended before. -/
theorem IsLastOf.append_singleton (h : IsLastOf completed c)
    (ha : a.activityId = c.activityId → Instant.before a.endTime c.endTime = true) :
    IsLastOf (completed ++ [a]) c := by
  obtain ⟨earlier, later, rfl, hearlier, hlater⟩ := h
  refine ⟨earlier, later ++ [a], by simp, hearlier, ?_⟩
  intro c' hc'
  rcases List.mem_append.1 hc' with hc' | hc'
  · exact hlater c' hc'
  · rw [List.mem_singleton.1 hc']
    exact ha

theorem isLastOf_append_self (h : ∀ c' ∈ completed, c'.activityId = a.activityId →
    ¬Instant.before a.endTime c'.endTime = true) : IsLastOf (completed ++ [a]) a :=
  ⟨completed, [], rfl, h, fun c' hc' => by cases hc'⟩

/-- The later of the last completion so far and a further one is the last. -/
theorem IsLastOf.later (h : IsLastOf completed c) (hsame : c.activityId = a.activityId) :
    IsLastOf (completed ++ [a]) (later c a) := by
  unfold CompletedActivity.later
  split
  next hbefore => exact h.append_singleton fun _ => hbefore
  next hnot =>
    apply isLastOf_append_self
    intro c' hc' heq hbefore
    have hmost := h.not_before hc' (heq.trans hsame.symm)
    rcases Instant.before_connex c.endTime a.endTime with hlt | heq | hgt
    · exact hmost (Instant.before_trans hlt hbefore)
    · exact hmost (heq ▸ hbefore)
    · exact hnot hgt

theorem lastPerActivity_append_singleton (completed : List CompletedActivity)
    (a : CompletedActivity) :
    lastPerActivity (completed ++ [a]) = note (lastPerActivity completed) a := by
  unfold lastPerActivity
  rw [List.foldl_append]
  rfl

/-- A completion is noted for each activity that has one. -/
theorem exists_get?_lastPerActivity (h : c ∈ completed) :
    ∃ b, (lastPerActivity completed).get? c.activityId = some b := by
  induction completed using List.reverseRecOn with
  | nil => cases h
  | append_singleton rest a ih =>
    rw [lastPerActivity_append_singleton, note, SortedMap.get?_insert]
    by_cases hsame : c.activityId = a.activityId
    · rw [if_pos hsame]
      exact ⟨_, rfl⟩
    · rw [if_neg hsame]
      rcases List.mem_append.1 h with hrest | hlast
      · exact ih hrest
      · exact absurd (congrArg _ (List.mem_singleton.1 hlast)) hsame

/-- What is noted for an activity is its last completion. -/
theorem isLastOf_of_get?_lastPerActivity {activityId : String}
    (h : (lastPerActivity completed).get? activityId = some c) :
    c.activityId = activityId ∧ IsLastOf completed c := by
  -- induction from the end: the last completion in the list is the last one that is noted
  induction completed using List.reverseRecOn generalizing c activityId with
  | nil => cases h
  | append_singleton rest a ih =>
    rw [lastPerActivity_append_singleton, note, SortedMap.get?_insert] at h
    by_cases hsame : activityId = a.activityId
    · rw [if_pos hsame] at h
      cases hnoted : (lastPerActivity rest).get? a.activityId with
      | none =>
        -- nothing is noted for the activity, so no completion of it came before
        rw [hnoted] at h
        cases h
        refine ⟨hsame.symm, isLastOf_append_self ?_⟩
        intro c' hc' heq
        obtain ⟨b, hb⟩ := exists_get?_lastPerActivity hc'
        rw [heq, hnoted] at hb
        cases hb
      | some current =>
        rw [hnoted] at h
        cases h
        obtain ⟨hid, hlast⟩ := ih hnoted
        have hlater : (CompletedActivity.later current a).activityId = a.activityId := by
          unfold CompletedActivity.later
          split
          · exact hid
          · rfl
        exact ⟨hlater.trans hsame.symm, hlast.later hid⟩
    · rw [if_neg hsame] at h
      obtain ⟨rfl, hlast⟩ := ih h
      exact ⟨rfl, hlast.append_singleton fun heq => absurd heq.symm hsame⟩

/-- The completions noted are the last ones of their activities. -/
theorem mem_values_lastPerActivity :
    c ∈ (lastPerActivity completed).values ↔ IsLastOf completed c := by
  rw [SortedMap.mem_values_iff]
  constructor
  · rintro ⟨activityId, hget⟩
    exact (isLastOf_of_get?_lastPerActivity hget).2
  · intro hlast
    have hmem : c ∈ completed := by
      obtain ⟨earlier, later, rfl, -⟩ := hlast
      simp
    obtain ⟨b, hb⟩ := exists_get?_lastPerActivity hmem
    obtain ⟨hid, hblast⟩ := isLastOf_of_get?_lastPerActivity hb
    rw [hlast.unique hblast hid] at hb
    exact ⟨c.activityId, hb⟩

end CompletedActivity

/-! ## Tokens -/

/-- A token of a source instance. -/
inductive ActiveToken where
  | activity (a : Activity)
  | gateway (g : Activity)
  /-- A completion before a waiting gateway, which is run again. -/
  | replayed (c : CompletedActivity)
  | transition (t : Transition)

namespace ActiveToken

/-- The id of a token. -/
def id : ActiveToken → String
  | activity a => a.id
  | gateway g => g.id
  | replayed c => c.id
  | transition t => t.id

/-- The element where a token stands. -/
def activityId : ActiveToken → String
  | activity a => a.activityId
  | gateway g => g.activityId
  | replayed c => c.activityId
  | transition t => t.activityId

/-- The instance that was called, if there is one. -/
def calledInstance : ActiveToken → Option String
  | activity a => a.subProcess
  | gateway g => g.subProcess
  | replayed c => c.calledInstance
  | transition t => t.subProcess

/-- The type of the element where a token stands. -/
def activityType : ActiveToken → String
  | activity a => a.activityType
  | gateway g => g.activityType
  | replayed c => c.activityType
  | transition t => t.activityType

/-- The part of the tree where a token stands. -/
def origin : ActiveToken → Origin
  | activity _ => .activity
  | gateway _ => .gateway
  | replayed _ => .replayedBranch
  | transition _ => .transition

/-- The type that the flow node of a token carries: a token in a transition has none yet. -/
def carriedType? : ActiveToken → Option String
  | transition _ => none
  | other => some other.activityType

/-- The flow node that stands for a token. -/
def flowNode (token : ActiveToken) : FlowNode :=
  ⟨token.activityId, token.calledInstance, token.carriedType?, token.origin⟩

end ActiveToken

/-- The tokens of a tree under a strategy. -/
inductive Activity.HasToken (strategy : GatewayStrategy) (history : BranchHistory)
    (tree : Activity) : ActiveToken → Prop where
  /-- An activity below the root that has nothing below it. -/
  | activity {a : Activity} (node : a ∈ tree.descendants)
      (noSubProcess : a.activityType ≠ ActivityType.subProcess)
      (noGateway : a.activityType ≠ ActivityType.parallelGateway)
      (noChildren : a.children = []) (noTransitions : a.transitions = []) :
      HasToken strategy history tree (.activity a)
  /-- A gateway below the root, where gateways are activated themselves. -/
  | gateway {g : Activity} (activates : strategy = .migrate ∨ strategy = .skip)
      (node : g ∈ tree.descendants) (isGateway : g.activityType = ActivityType.parallelGateway) :
      HasToken strategy history tree (.gateway g)
  /-- The last completions before a gateway below the root, where these are run again. -/
  | replayed {g : Activity} {c : CompletedActivity} (replays : strategy = .activateLastActivities)
      (node : g ∈ tree.descendants) (isGateway : g.activityType = ActivityType.parallelGateway)
      (last : c.IsLastOf (history.before g.id)) : HasToken strategy history tree (.replayed c)
  /-- A transition at any node. -/
  | transition {a : Activity} {t : Transition} (node : a ∈ tree.preorder)
      (leaves : t ∈ a.transitions) (noSubProcess : t.activityType ≠ ActivityType.subProcess) :
      HasToken strategy history tree (.transition t)

namespace ActiveToken

/-- The tokens in transitions that lead away from a node. -/
def leaving (a : Activity) : List ActiveToken :=
  (a.transitions.filter fun t => t.activityType != ActivityType.subProcess).map .transition

/-- The tokens that a waiting gateway has under a strategy. -/
def atGateway (strategy : GatewayStrategy) (history : BranchHistory) (g : Activity) :
    List ActiveToken :=
  match strategy with
  | .ignore => []
  | .activateLastActivities =>
    (CompletedActivity.lastPerActivity (history.before g.id)).values.map .replayed
  | .migrate | .skip => [.gateway g]

/-- The tokens that a node below the root has itself. -/
def standing (strategy : GatewayStrategy) (history : BranchHistory) (a : Activity) :
    List ActiveToken :=
  if a.isOf ActivityType.subProcess then []
  else if a.isOf ActivityType.parallelGateway then atGateway strategy history a
  else if a.children.isEmpty && a.transitions.isEmpty then [.activity a]
  else []

/-- The tokens of a tree in the order in which they are met: those of each node after those of its
children, the transitions of a node before the node itself. -/
def inOrder (strategy : GatewayStrategy) (history : BranchHistory) (tree : Activity) :
    List ActiveToken :=
  (Activity.postorderAll tree.children).flatMap
    (fun a => leaving a ++ standing strategy history a) ++ leaving tree

variable {strategy : GatewayStrategy} {history : BranchHistory} {a tree : Activity}
  {token : ActiveToken}

theorem mem_leaving : token ∈ leaving a ↔
    ∃ t ∈ a.transitions, t.activityType ≠ ActivityType.subProcess ∧ token = .transition t := by
  unfold leaving
  simp only [List.mem_map, List.mem_filter, bne_iff_ne]
  constructor
  · rintro ⟨t, ⟨ht, hsub⟩, rfl⟩
    exact ⟨t, ht, hsub, rfl⟩
  · rintro ⟨t, ht, hsub, rfl⟩
    exact ⟨t, ⟨ht, hsub⟩, rfl⟩

theorem mem_atGateway : token ∈ atGateway strategy history a ↔
    ((strategy = .migrate ∨ strategy = .skip) ∧ token = .gateway a) ∨
      (strategy = .activateLastActivities ∧
        ∃ c, c.IsLastOf (history.before a.id) ∧ token = .replayed c) := by
  unfold atGateway
  cases strategy <;>
    simp [CompletedActivity.mem_values_lastPerActivity, eq_comm]

theorem mem_standing : token ∈ standing strategy history a ↔
    (a.activityType ≠ ActivityType.subProcess ∧ a.activityType ≠ ActivityType.parallelGateway ∧
      a.children = [] ∧ a.transitions = [] ∧ token = .activity a) ∨
    (a.activityType = ActivityType.parallelGateway ∧ token ∈ atGateway strategy history a) := by
  have hdistinct : ActivityType.subProcess ≠ ActivityType.parallelGateway := by decide
  unfold standing Activity.isOf
  by_cases hsub : a.activityType = ActivityType.subProcess
  · simp [hsub, hdistinct]
  by_cases hgateway : a.activityType = ActivityType.parallelGateway
  · simp [hgateway, hdistinct.symm]
  by_cases hempty : a.children = [] ∧ a.transitions = []
  · simp [hsub, hgateway, hempty]
  · rw [if_neg (by simpa using hsub), if_neg (by simpa using hgateway),
      if_neg (by simpa using hempty)]
    constructor
    · intro hmem
      cases hmem
    · rintro (⟨-, -, hchildren, htransitions, -⟩ | ⟨hg, -⟩)
      · exact absurd ⟨hchildren, htransitions⟩ hempty
      · exact absurd hg hgateway

/-- The tokens that are met are those of the tree. -/
theorem mem_inOrder :
    token ∈ inOrder strategy history tree ↔ tree.HasToken strategy history token := by
  have hnode : ∀ node, node ∈ Activity.postorderAll tree.children ↔ node ∈ tree.descendants :=
    fun _ => (Activity.postorderAll_perm tree.children).mem_iff
  unfold inOrder
  rw [List.mem_append, List.mem_flatMap]
  constructor
  · rintro (⟨node, hmem, htoken⟩ | hroot)
    · rw [hnode] at hmem
      rcases List.mem_append.1 htoken with hleaving | hstanding
      · obtain ⟨t, ht, hsub, rfl⟩ := mem_leaving.1 hleaving
        exact .transition (Activity.mem_preorder_of_descendants hmem) ht hsub
      rcases mem_standing.1 hstanding with ⟨hsub, hgateway, hchildren, htransitions, rfl⟩ | ⟨hg, h⟩
      · exact .activity hmem hsub hgateway hchildren htransitions
      rcases mem_atGateway.1 h with ⟨hactivates, rfl⟩ | ⟨hreplays, c, hlast, rfl⟩
      · exact .gateway hactivates hmem hg
      · exact .replayed hreplays hmem hg hlast
    · obtain ⟨t, ht, hsub, rfl⟩ := mem_leaving.1 hroot
      exact .transition (tree.preorder_eq ▸ List.mem_cons_self) ht hsub
  · -- a token is met where its node comes up; the root only has tokens that are leaving it
    intro htoken
    cases htoken with
    | activity node noSubProcess noGateway noChildren noTransitions =>
      refine .inl ⟨_, (hnode _).2 node, List.mem_append_right _ (mem_standing.2 (.inl ?_))⟩
      exact ⟨noSubProcess, noGateway, noChildren, noTransitions, rfl⟩
    | gateway activates node isGateway =>
      refine .inl ⟨_, (hnode _).2 node, List.mem_append_right _ (mem_standing.2 (.inr ?_))⟩
      exact ⟨isGateway, mem_atGateway.2 (.inl ⟨activates, rfl⟩)⟩
    | replayed replays node isGateway last =>
      refine .inl ⟨_, (hnode _).2 node, List.mem_append_right _ (mem_standing.2 (.inr ?_))⟩
      exact ⟨isGateway, mem_atGateway.2 (.inr ⟨replays, _, last, rfl⟩)⟩
    | transition node leaves noSubProcess =>
      have hleaving := mem_leaving.2 ⟨_, leaves, noSubProcess, rfl⟩
      rw [Activity.preorder_eq] at node
      rcases List.mem_cons.1 node with rfl | hbelow
      · exact .inr hleaving
      · exact .inl ⟨_, (hnode _).2 hbelow, List.mem_append_left _ hleaving⟩

/-- Which tokens there are depends on the strategy and the history only at gateways. -/
theorem inOrder_congr {strategy' : GatewayStrategy} {history' : BranchHistory}
    (h : ∀ g ∈ tree.descendants, g.activityType = ActivityType.parallelGateway →
      atGateway strategy history g = atGateway strategy' history' g) :
    inOrder strategy history tree = inOrder strategy' history' tree := by
  have hstanding : ∀ a ∈ Activity.postorderAll tree.children,
      leaving a ++ standing strategy history a = leaving a ++ standing strategy' history' a := by
    intro a ha
    have hbelow : a ∈ tree.descendants := (Activity.postorderAll_perm _).mem_iff.1 ha
    unfold standing
    by_cases hgateway : a.activityType = ActivityType.parallelGateway
    · rw [h a hbelow hgateway]
    · have hno : a.isOf ActivityType.parallelGateway = false := beq_eq_false_iff_ne.2 hgateway
      rw [hno]
      rfl
  unfold inOrder
  rw [List.flatMap_congr hstanding]

end ActiveToken

/-! ## Emissions -/

namespace FlowNode

/-- What is emitted for a token. -/
def entryOf (token : ActiveToken) : String × FlowNode := (token.id, token.flowNode)

theorem ofTransitions_eq (a : Activity) :
    ofTransitions a.transitions = (ActiveToken.leaving a).map entryOf := by
  unfold ofTransitions ActiveToken.leaving
  rw [List.map_map]
  rfl

theorem ofGateway_eq (strategy : GatewayStrategy) (history : BranchHistory) (g : Activity) :
    ofGateway strategy history g = (ActiveToken.atGateway strategy history g).map entryOf := by
  unfold ofGateway ActiveToken.atGateway
  cases strategy with
  | activateLastActivities =>
    simp only [List.map_map]
    rfl
  | _ => rfl

theorem ofActivity_eq (strategy : GatewayStrategy) (history : BranchHistory) (a : Activity) :
    ofActivity strategy history a = (ActiveToken.standing strategy history a).map entryOf := by
  unfold ofActivity ActiveToken.standing
  rw [ofGateway_eq]
  split
  · rfl
  split
  · rfl
  split
  · rfl
  · rfl

mutual

theorem emissions_append_ofActivity (strategy : GatewayStrategy) (history : BranchHistory) :
    ∀ a : Activity, emissions strategy history a ++ ofActivity strategy history a =
      (a.postorder.flatMap fun b =>
        ActiveToken.leaving b ++ ActiveToken.standing strategy history b).map entryOf
  | ⟨_, _, _, _, children, _⟩ => by
    rw [emissions, childEmissions_eq strategy history children, ofActivity_eq,
      Activity.postorder_eq]
    simp only [List.flatMap_append, List.map_append, List.flatMap_singleton, List.append_assoc]
    rw [← ofTransitions_eq]

/-- The subtrees of some nodes emit for their tokens, in post-order. -/
theorem childEmissions_eq (strategy : GatewayStrategy) (history : BranchHistory) :
    ∀ trees : List Activity, childEmissions strategy history trees =
      ((Activity.postorderAll trees).flatMap fun b =>
        ActiveToken.leaving b ++ ActiveToken.standing strategy history b).map entryOf
  | [] => by
    rw [childEmissions, Activity.postorderAll]
    rfl
  | a :: rest => by
    rw [childEmissions, Activity.postorderAll, emissions_append_ofActivity strategy history a,
      childEmissions_eq strategy history rest, List.flatMap_append, List.map_append]

end

/-- A tree emits for its tokens, in the order in which they are met. -/
theorem emissions_eq (strategy : GatewayStrategy) (history : BranchHistory) (tree : Activity) :
    emissions strategy history tree = (ActiveToken.inOrder strategy history tree).map entryOf := by
  unfold ActiveToken.inOrder
  rw [List.map_append, ← childEmissions_eq, ← ofTransitions_eq]
  cases tree
  rw [emissions]

theorem resolve_eq (strategy : GatewayStrategy) (history : BranchHistory) (tree : Activity) :
    resolve strategy history tree =
      .ofList ((ActiveToken.inOrder strategy history tree).map entryOf) := by
  unfold resolve
  rw [emissions_eq]

/-- The flow nodes of a tree stand for its tokens: every token and no other has its id among the
keys, of tokens with the same id the one that is met last counts, and no token is lost if their ids
are distinct. -/
theorem resolve_stands_for_tokens (strategy : GatewayStrategy) (history : BranchHistory)
    (tree : Activity) :
    (∀ token, token ∈ ActiveToken.inOrder strategy history tree ↔
      tree.HasToken strategy history token) ∧
    (∀ key, key ∈ (resolve strategy history tree).keys ↔
      ∃ token, tree.HasToken strategy history token ∧ token.id = key) ∧
    (∀ earlier token later, ActiveToken.inOrder strategy history tree = earlier ++ token :: later →
      (∀ other ∈ later, other.id ≠ token.id) →
      (resolve strategy history tree).get? token.id = some token.flowNode) ∧
    (((ActiveToken.inOrder strategy history tree).map ActiveToken.id).Nodup →
      (resolve strategy history tree).entries.Perm
        ((ActiveToken.inOrder strategy history tree).map fun token =>
          (token.id, token.flowNode))) := by
  have hids : ∀ tokens : List ActiveToken,
      (tokens.map entryOf).map (·.1) = tokens.map ActiveToken.id := by
    intro tokens
    rw [List.map_map]
    rfl
  -- the result is one map made of the tokens in order, so each part is a fact about such maps
  rw [resolve_eq]
  refine ⟨fun token => ActiveToken.mem_inOrder, ?_, ?_, ?_⟩
  · intro key
    rw [SortedMap.mem_keys_ofList, hids, List.mem_map]
    simp only [ActiveToken.mem_inOrder]
  · intro earlier token later hsplit hlast
    rw [hsplit, List.map_append, List.map_cons]
    refine SortedMap.get?_ofList_last ?_
    intro p hp
    obtain ⟨other, hother, rfl⟩ := List.mem_map.1 hp
    exact hlast other hother
  · intro hdistinct
    rw [← hids] at hdistinct
    exact SortedMap.entries_ofList_perm hdistinct

/-- Two tasks with the same id, of which the second one is kept, and a tree with distinct ids. -/
theorem resolve_keeps_last_and_all :
    let first : Activity := ⟨"t", "T1", "userTask", none, [], []⟩
    let second : Activity := ⟨"t", "T2", "userTask", none, [], []⟩
    let scope : Activity := ⟨"s", "S", ActivityType.subProcess, none, [second], []⟩
    let gateway : Activity := ⟨"g", "G", ActivityType.parallelGateway, none, [], []⟩
    let waiting : Transition := ⟨"tr", "U", "serviceTask", none⟩
    (resolve .migrate .empty ⟨"p", "order", "processDefinition", none, [first, scope], []⟩).get? "t"
        = some ⟨"T2", none, some "userTask", .activity⟩ ∧
      (resolve .migrate .empty
        ⟨"p", "order", "processDefinition", none, [scope, gateway], [waiting]⟩).entries.Perm
        [("t", ⟨"T2", none, some "userTask", .activity⟩),
          ("g", ⟨"G", none, some "parallelGateway", .gateway⟩),
          ("tr", ⟨"U", none, none, .transition⟩)] := by
  intro first second scope gateway waiting
  constructor
  · exact (resolve_stands_for_tokens _ _ _).2.2.1 [.activity first] (.activity second) [] rfl
      (fun other hother => nomatch hother)
  · exact (resolve_stands_for_tokens _ _ _).2.2.2 (by decide)

/-- A transition leads to an element of some type, and its flow node carries none. -/
theorem resolve_transition_without_type :
    let waiting : Transition := ⟨"tr-1", "AsyncTask", "serviceTask", none⟩
    let tree : Activity := ⟨"p1", "order", "processDefinition", none, [], [waiting]⟩
    tree.HasToken .migrate .empty (.transition waiting) ∧
      (resolve .migrate .empty tree).get? waiting.id =
        some ⟨"AsyncTask", none, none, .transition⟩ ∧
      (resolve .migrate .empty tree).get? waiting.id ≠
        some ⟨waiting.activityId, waiting.subProcess, some waiting.activityType, .transition⟩ := by
  intro waiting tree
  refine ⟨.transition (a := tree) ?_ List.mem_cons_self ?_, rfl, ?_⟩
  · rw [Activity.preorder_eq]
    exact List.mem_cons_self
  · decide
  · decide

end FlowNode
end ProcessMigration
