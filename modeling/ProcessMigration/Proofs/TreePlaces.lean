import ProcessMigration.Proofs.TreeWalks

/-!
# Places in an activity tree

Two nodes of a tree may be alike in all they hold, so what is said of each node is said of its
**place**: the way down to it from the root, by the numbers of the children. In pre-order the places
ascend: a place comes before all places behind it on the way down, and before those to the right.

* `Activity.at?` goes down a tree, `Activity.places` lists where it can go;
* `Activity.map_at?_places`: at these places stand the nodes in pre-order;
* `Activity.places_ascend` and `Activity.mem_places_of_at?`: they ascend, and there are no others;
* `Activity.search_places`: a search finds the nodes of a type at their places, each place once;
* `Activity.search_withoutTransitions`: to a search the transitions of a tree do not matter.
-/

namespace ProcessMigration.Activity

/-! ## Places -/

/-- The node at a place. -/
def at? (a : Activity) : List Nat → Option Activity
  | [] => some a
  | i :: place => (a.children[i]?).bind fun child => child.at? place

/-- The node at a place of one of several trees. -/
def atAll? (trees : List Activity) : List Nat → Option Activity
  | [] => none
  | i :: place => (trees[i]?).bind fun tree => tree.at? place

mutual

/-- The places of a tree in pre-order. -/
def places : Activity → List (List Nat)
  | ⟨_, _, _, _, children, _⟩ => [] :: placesFrom 0 children

/-- The places of several trees, numbered from here on. -/
def placesFrom (i : Nat) : List Activity → List (List Nat)
  | [] => []
  | a :: rest => (places a).map (i :: ·) ++ placesFrom (i + 1) rest

end

theorem exists_of_mem_placesFrom {i : Nat} {trees : List Activity} {place : List Nat}
    (h : place ∈ placesFrom i trees) : ∃ j rest, place = j :: rest ∧ i ≤ j := by
  induction trees generalizing i with
  | nil =>
    rw [placesFrom] at h
    cases h
  | cons a others ih =>
    rw [placesFrom, List.mem_append] at h
    rcases h with h | h
    · rcases List.mem_map.1 h with ⟨rest, _, rfl⟩
      exact ⟨i, rest, rfl, Nat.le_refl i⟩
    · rcases ih h with ⟨j, rest, rfl, hle⟩
      exact ⟨j, rest, rfl, by omega⟩

mutual

/-- At the places of a tree stand its nodes, in pre-order. -/
theorem map_at?_places : ∀ a : Activity, a.places.map a.at? = a.preorder.map some
  | ⟨id, activityId, activityType, subProcess, children, transitions⟩ => by
    have hbelow : (placesFrom 0 children).map
        (at? ⟨id, activityId, activityType, subProcess, children, transitions⟩) =
        (preorderAll children).map some := by
      rw [← map_atAll?_placesFrom [] children]
      apply List.map_congr_left
      intro place hplace
      rcases exists_of_mem_placesFrom hplace with ⟨i, rest, rfl, _⟩
      rw [List.nil_append, at?, atAll?]
    rw [places, preorder, List.map_cons, List.map_cons, hbelow, at?]

/-- With some trees left out that come before, the others keep their numbers. -/
theorem map_atAll?_placesFrom : ∀ before trees : List Activity,
    (placesFrom before.length trees).map (atAll? (before ++ trees)) =
      (preorderAll trees).map some
  | before, [] => by rw [placesFrom, preorderAll, List.map_nil, List.map_nil]
  | before, a :: rest => by
    -- for the rest there is one more tree before it, and its numbers are those after this one
    have hrest := map_atAll?_placesFrom (before ++ [a]) rest
    rw [List.length_append, List.append_assoc] at hrest
    have hfirst : ((places a).map (before.length :: ·)).map (atAll? (before ++ a :: rest)) =
        (preorder a).map some := by
      rw [← map_at?_places a, List.map_map]
      apply List.map_congr_left
      intro place _
      show ((before ++ a :: rest)[before.length]?).bind _ = _
      rw [List.getElem?_append_right (Nat.le_refl _), Nat.sub_self]
      rfl
    rw [placesFrom, preorderAll, List.map_append, List.map_append, hfirst]
    exact congrArg _ hrest

end

mutual

/-- In pre-order the places ascend, so none comes twice. -/
theorem places_ascend : ∀ a : Activity, a.places.Pairwise (· < ·)
  | ⟨_, _, _, _, children, _⟩ => by
    rw [places]
    refine List.pairwise_cons.2 ⟨?_, placesFrom_ascend 0 children⟩
    intro place hplace
    rcases exists_of_mem_placesFrom hplace with ⟨i, rest, rfl, _⟩
    exact List.nil_lt_cons i rest

theorem placesFrom_ascend : ∀ (i : Nat) (trees : List Activity),
    (placesFrom i trees).Pairwise (· < ·)
  | _, [] => by
    rw [placesFrom]
    exact .nil
  | i, a :: rest => by
    rw [placesFrom]
    refine List.pairwise_append.2 ⟨?_, placesFrom_ascend (i + 1) rest, ?_⟩
    · apply List.pairwise_map.2
      exact (places_ascend a).imp fun hlt => List.cons_lt_cons_iff.2 (.inr ⟨rfl, hlt⟩)
    · -- to the right the first number is greater, whatever comes behind it
      intro place hplace place' hplace'
      rcases List.mem_map.1 hplace with ⟨below, _, rfl⟩
      rcases exists_of_mem_placesFrom hplace' with ⟨j, below', rfl, hle⟩
      exact List.cons_lt_cons_iff.2 (.inl hle)

end

theorem mem_placesFrom {trees : List Activity} {a : Activity} {k : Nat} (hk : trees[k]? = some a)
    {place : List Nat} (hplace : place ∈ a.places) (i : Nat) :
    (i + k) :: place ∈ placesFrom i trees := by
  induction trees generalizing i k with
  | nil => cases hk
  | cons first rest ih =>
    rw [placesFrom, List.mem_append]
    cases k with
    | zero =>
      cases hk
      exact .inl (List.mem_map_of_mem hplace)
    | succ k =>
      have hrest := ih (k := k) hk (i + 1)
      rw [Nat.add_right_comm] at hrest
      exact .inr hrest

/-- Wherever one comes to a node on the way down a tree, there is one of its places. -/
theorem mem_places_of_at? {a node : Activity} {place : List Nat} (h : a.at? place = some node) :
    place ∈ a.places := by
  induction place generalizing a with
  | nil =>
    cases a
    rw [places]
    exact List.mem_cons_self
  | cons i rest ih =>
    rcases Option.bind_eq_some_iff.1 h with ⟨child, hchild, hrest⟩
    have hbelow := mem_placesFrom hchild (ih hrest) 0
    rw [Nat.zero_add] at hbelow
    cases a
    rw [places]
    exact List.mem_cons_of_mem _ hbelow

/-- A search finds the nodes of a type at their places, which ascend: each place once, and none is
left out. -/
theorem search_places (tree : Activity) (type : String) :
    ∃ found : List (List Nat), found.Pairwise (· < ·) ∧
      (∀ place, place ∈ found ↔ ∃ node, tree.at? place = some node ∧ node.isOf type = true) ∧
      found.map tree.at? = (tree.search type).map some := by
  refine ⟨tree.places.filter fun place => (tree.at? place).any fun node => node.isOf type,
    (places_ascend tree).filter _, ?_, ?_⟩
  · intro place
    rw [List.mem_filter, Option.any_eq_true]
    constructor
    · rintro ⟨_, hnode⟩
      exact hnode
    · rintro ⟨node, hat, htype⟩
      exact ⟨mem_places_of_at? hat, node, hat, htype⟩
  · have hfilter : (tree.places.map tree.at?).filter
        (fun found => found.any fun node => node.isOf type) =
        (tree.preorder.filter fun node => node.isOf type).map some := by
      rw [map_at?_places, List.filter_map]
      rfl
    rw [search_eq_filter, ← hfilter, List.filter_map]
    rfl

/-! ## Transitions -/

mutual

/-- The tree without its transitions. -/
def withoutTransitions : Activity → Activity
  | ⟨id, activityId, activityType, subProcess, children, _⟩ =>
    ⟨id, activityId, activityType, subProcess, withoutTransitionsAll children, []⟩

/-- Several trees without their transitions. -/
def withoutTransitionsAll : List Activity → List Activity
  | [] => []
  | a :: rest => withoutTransitions a :: withoutTransitionsAll rest

end

theorem isOf_withoutTransitions (a : Activity) (type : String) :
    a.withoutTransitions.isOf type = a.isOf type := by
  cases a
  rw [withoutTransitions]
  rfl

mutual

theorem preorder_withoutTransitions : ∀ a : Activity,
    a.withoutTransitions.preorder = a.preorder.map withoutTransitions
  | ⟨_, _, _, _, children, _⟩ => by
    rw [preorder, List.map_cons, ← preorderAll_withoutTransitions children, withoutTransitions,
      preorder]

theorem preorderAll_withoutTransitions : ∀ trees : List Activity,
    preorderAll (withoutTransitionsAll trees) = (preorderAll trees).map withoutTransitions
  | [] => by rw [withoutTransitionsAll, preorderAll, List.map_nil]
  | a :: rest => by
    rw [withoutTransitionsAll, preorderAll, preorderAll, List.map_append,
      preorder_withoutTransitions a, preorderAll_withoutTransitions rest]

end

/-- Without its transitions the same nodes of a tree are found. -/
theorem search_withoutTransitions (tree : Activity) (type : String) :
    tree.withoutTransitions.search type = (tree.search type).map withoutTransitions := by
  rw [search_eq_filter, search_eq_filter, preorder_withoutTransitions, List.filter_map]
  congr 1
  apply List.filter_congr
  intro node _
  exact isOf_withoutTransitions node type

end ProcessMigration.Activity
