import Mathlib.Data.List.Basic
import ProcessMigration.Source.Search

/-!
# Walks through an activity tree

A tree can be walked with each node before its children or after them. Both walks meet the same
nodes, and the search by a list of trees still to be looked at meets them in the first order.

* `Activity.searchAll_eq_filter` and `search_eq_filter`: a search is the walk in pre-order, without
  the nodes of other types;
* `Activity.postorderAll_perm`: the walk in post-order meets the nodes of the walk in pre-order.
-/

namespace ProcessMigration.Activity

/-- The nodes of a tree but for its root, in pre-order. -/
def descendants (a : Activity) : List Activity := preorderAll a.children

mutual

/-- The nodes of a tree, each after its children, these from left to right. -/
def postorder : Activity → List Activity
  | a@⟨_, _, _, _, children, _⟩ => postorderAll children ++ [a]

/-- The nodes of several trees in post-order, one tree after the other. -/
def postorderAll : List Activity → List Activity
  | [] => []
  | a :: rest => postorder a ++ postorderAll rest

end

theorem preorder_eq (a : Activity) : a.preorder = a :: a.descendants := by
  cases a
  rw [preorder]
  rfl

theorem postorder_eq (a : Activity) : a.postorder = postorderAll a.children ++ [a] := by
  cases a
  rw [postorder]

theorem mem_preorder_of_descendants {a node : Activity} (h : node ∈ a.descendants) :
    node ∈ a.preorder := by
  rw [preorder_eq]
  exact List.mem_cons_of_mem a h

theorem preorderAll_append (xs ys : List Activity) :
    preorderAll (xs ++ ys) = preorderAll xs ++ preorderAll ys := by
  induction xs with
  | nil => simp [preorderAll]
  | cons a rest ih => simp only [List.cons_append, preorderAll, ih, List.append_assoc]

/-- The search meets the nodes in pre-order. -/
theorem searchAll_eq_filter (type : String) (trees : List Activity) :
    searchAll type trees = (preorderAll trees).filter fun a => a.isOf type := by
  fun_induction searchAll type trees with
  | case1 => simp [preorderAll]
  | case2 a rest others h ih =>
    simp [preorderAll, preorder_eq, descendants, h, ih, preorderAll_append, others]
  | case3 a rest others h ih =>
    simp [preorderAll, preorder_eq, descendants, h, ih, preorderAll_append, others]

theorem search_eq_filter (a : Activity) (type : String) :
    a.search type = a.preorder.filter fun b => b.isOf type := by
  unfold search
  rw [searchAll_eq_filter]
  simp [preorderAll]

theorem search_eq_typed (a : Activity) (type : String) :
    a.search type = a.preorder.filter fun b => b.activityType = type := by
  rw [search_eq_filter]
  rfl

mutual

theorem postorder_perm : ∀ a : Activity, (postorder a).Perm (preorder a)
  | ⟨_, _, _, _, children, _⟩ => by
    rw [postorder, preorder]
    exact (List.perm_append_singleton _ _).trans ((postorderAll_perm children).cons _)

/-- Both walks meet the same nodes. -/
theorem postorderAll_perm : ∀ trees : List Activity, (postorderAll trees).Perm (preorderAll trees)
  | [] => by rw [postorderAll, preorderAll]
  | a :: rest => by
    rw [postorderAll, preorderAll]
    exact (postorder_perm a).append (postorderAll_perm rest)

end

end ProcessMigration.Activity
