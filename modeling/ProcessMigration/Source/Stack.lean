import ProcessMigration.Source.Search

/-!
# Searching with a stack

The search of an activity tree as a loop over a stack. A **round** takes the tree at the end of the
stack, notes its root if it has the type, and puts the root's children on the stack from right to
left, so that the first child is taken next. The loop ends when the stack is empty.

* `StackSearch.round?` is one round;
* `StackSearch.rounds?` makes several rounds.
-/

namespace ProcessMigration

/-- Where a search stands: the trees still to be looked at, the next one last, and what was found. -/
structure StackSearch where
  stack : List Activity
  found : List Activity

namespace StackSearch

/-- A search of a tree before its first round. -/
def start (tree : Activity) : StackSearch := ⟨[tree], []⟩

/-- A round, unless the stack is empty. -/
def round? (type : String) (s : StackSearch) : Option StackSearch :=
  match s.stack.getLast? with
  | none => none
  | some node =>
    some ⟨s.stack.dropLast ++ node.children.reverse,
      if node.isOf type then s.found ++ [node] else s.found⟩

/-- So many rounds, unless the stack is empty before. -/
def rounds? (type : String) : Nat → StackSearch → Option StackSearch
  | 0, s => some s
  | n + 1, s => (s.round? type).bind (rounds? type n)

end StackSearch
end ProcessMigration
