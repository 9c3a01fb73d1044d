import ProcessMigration.Source.Activity

/-!
# Searching an activity tree

`Activity.search` looks for the nodes of a type with a list of trees still to be looked at: it takes
the first tree, notes its root and puts the root's children in front of the others. Every step
leaves fewer nodes to look at, so the search ends.
-/

namespace ProcessMigration.Activity

mutual

/-- The number of nodes of a tree. -/
def size : Activity → Nat
  | ⟨_, _, _, _, children, _⟩ => sizeAll children + 1

/-- The number of nodes of several trees. -/
def sizeAll : List Activity → Nat
  | [] => 0
  | a :: rest => size a + sizeAll rest

end

theorem size_eq (a : Activity) : a.size = sizeAll a.children + 1 := by
  cases a; rw [size]

theorem sizeAll_append (xs ys : List Activity) : sizeAll (xs ++ ys) = sizeAll xs + sizeAll ys := by
  induction xs with
  | nil => simp [sizeAll]
  | cons a rest ih => simp only [List.cons_append, sizeAll, ih]; omega

/-- The nodes of a type in the trees still to be looked at, in the order they are met. -/
def searchAll (type : String) : List Activity → List Activity
  | [] => []
  | a :: rest =>
    let others := searchAll type (a.children ++ rest)
    if a.isOf type then a :: others else others
termination_by trees => sizeAll trees
decreasing_by
  simp only [sizeAll_append, sizeAll, size_eq]
  omega

/-- The nodes of a type in a tree, the root included, in the order they are met. -/
def search (a : Activity) (type : String) : List Activity := searchAll type [a]

end ProcessMigration.Activity
