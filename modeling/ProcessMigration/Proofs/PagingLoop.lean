import ProcessMigration.Proofs.Triple

/-!
# The loop over pages, round by round

The loops over a listing are told how many fetches they may make at most. What they do with enough of
them is what the loop does that goes on until there is no next page.

* `Paging.forEach_over` and `Paging.forEach_request`: one round of the loop over items, as
  `Paging.forPages_request` says it of the loop over pages, and the same for `Paging.collect`.
-/

namespace ProcessMigration

namespace Action

variable {σ ε α : Type}

theorem forAll_append (xs ys : List α) (f : α → Action σ ε Unit) :
    forAll (xs ++ ys) f = (do forAll xs f; forAll ys f) := by
  induction xs with
  | nil => rfl
  | cons x xs ih =>
    show (do f x; forAll (xs ++ ys) f) = (do (do f x; forAll xs f); forAll ys f)
    rw [ih, bind_assoc]

end Action

namespace Paging

variable {σ ε α β : Type} {p : Paging α} {request : PageRequest α}
  {fetch : PageRequest α → Action σ ε (List α)} {body : Paging α → List α → Action σ ε (Paging α)}
  {action : α → Action σ ε Unit}

/-! ## What a page changes -/

/-- As long as something is left, the next page holds something. -/
theorem take_ne_nil {n : Nat} (hn : 0 < n) {left : List α} (hleft : left ≠ []) :
    left.take n ≠ [] := by
  rw [Ne, List.take_eq_nil_iff]
  exact not_or.2 ⟨Nat.ne_of_gt hn, hleft⟩

theorem exhausted_of_request? (h : p.request? = some request) : p.exhausted = false := by
  apply Bool.eq_false_iff.2
  intro hover
  rw [request?_eq_none.2 (.inl hover)] at h
  cases h

@[simp] theorem pagesFetched_received (p : Paging α) (page : List α) :
    (p.received page).pagesFetched = p.pagesFetched + 1 := by
  unfold received
  split <;> rfl

@[simp] theorem kept_received (p : Paging α) (page : List α) : (p.received page).kept = p.kept := by
  unfold received
  split <;> rfl

/-! ## One round -/

theorem forEach_over (h : p.request? = none) {fetches : Nat} (hfetches : 0 < fetches) :
    forEach fetch action fetches p = pure { p with exhausted := true } :=
  forPages_over h hfetches

theorem forEach_request (h : p.request? = some request) {fetches : Nat} (hfetches : 0 < fetches) :
    forEach fetch action fetches p = (do
      let page ← fetch request
      if page.isEmpty then pure (p.received page)
      else
        Action.forAll page action
        forEach fetch action (fetches - 1) (p.received page)) := by
  unfold forEach
  rw [forPages_request h hfetches]
  simp only [bind_assoc, pure_bind]

theorem collect_over (h : p.request? = none) {fetches : Nat} (hfetches : 0 < fetches) :
    collect fetch fetches p = pure [] := by
  cases fetches with
  | zero => exact absurd hfetches (Nat.lt_irrefl 0)
  | succ fetches =>
    unfold collect
    rw [next_over h, pure_bind]

theorem collect_request (h : p.request? = some request) {fetches : Nat} (hfetches : 0 < fetches) :
    collect fetch fetches p = (do
      let page ← fetch request
      if page.isEmpty then pure []
      else
        let rest ← collect fetch (fetches - 1) (p.received page)
        pure (page ++ rest)) := by
  cases fetches with
  | zero => exact absurd hfetches (Nat.lt_irrefl 0)
  | succ fetches =>
    rw [collect, next_request h, bind_assoc]
    congr 1
    funext page
    cases page <;> rfl

end Paging
end ProcessMigration
