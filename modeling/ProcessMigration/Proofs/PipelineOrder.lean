import Mathlib.Data.List.Nodup
import ProcessMigration.Variables.Pipeline

/-!
# The order of a pipeline

A pipeline sorts its interceptors anew with every one that is added. All the sorting together
comes to one stable sort of the interceptors in the order in which they were added.

* `StableOrder`: ascending by priority, those of a priority in the order in which they came; there
  is only one such order: `StableOrder.unique`;
* `Pipeline.push_interceptors` and `Pipeline.pushAll_interceptors`: every push keeps it;
* `StableOrder.eq_of_perm`: with distinct priorities it does not matter in which order they came;
* `StableOrder.filter`: the interceptors that see a variable are in order, too.
-/

namespace ProcessMigration

/-- These are the interceptors in ascending order of priorities, those of a priority in the order in
which they came. -/
structure StableOrder (came sorted : List Interceptor) : Prop where
  perm : sorted.Perm came
  ascending : sorted.Pairwise fun a b => a.priority ≤ b.priority
  stable : ∀ priority : Int,
    sorted.filter (·.priority == priority) = came.filter (·.priority == priority)

namespace StableOrder

variable {came came' sorted sorted' : List Interceptor}

/-- Lists that are the same priority by priority have the same interceptors. -/
theorem mem_of_stable (hsame : ∀ priority : Int,
      sorted.filter (·.priority == priority) = sorted'.filter (·.priority == priority))
    {i : Interceptor} (hi : i ∈ sorted) : i ∈ sorted' := by
  have hown : i ∈ sorted.filter (·.priority == i.priority) :=
    List.mem_filter.2 ⟨hi, beq_self_eq_true i.priority⟩
  exact (List.mem_filter.1 (hsame i.priority ▸ hown)).1

theorem priority_le_of_head {i j : Interceptor} {rest : List Interceptor}
    (h : (i :: rest).Pairwise fun a b => a.priority ≤ b.priority) (hj : j ∈ i :: rest) :
    i.priority ≤ j.priority := by
  rcases List.mem_cons.1 hj with rfl | hj
  · exact Int.le_refl _
  · exact (List.pairwise_cons.1 h).1 j hj

/-- Lists in ascending order are the same if they are so priority by priority. -/
theorem eq_of_stable (h : sorted.Pairwise fun a b => a.priority ≤ b.priority)
    (h' : sorted'.Pairwise fun a b => a.priority ≤ b.priority)
    (hsame : ∀ priority : Int,
      sorted.filter (·.priority == priority) = sorted'.filter (·.priority == priority)) :
    sorted = sorted' := by
  induction sorted generalizing sorted' with
  | nil => exact (List.eq_nil_iff_forall_not_mem.2 fun i hi =>
      List.not_mem_nil (mem_of_stable (fun q => (hsame q).symm) hi)).symm
  | cons i rest ih =>
    cases sorted' with
    | nil => exact absurd (mem_of_stable hsame List.mem_cons_self) List.not_mem_nil
    | cons j rest' =>
      -- each of the two heads comes before the other, so they have the same priority
      have hpriority : j.priority = i.priority := Int.le_antisymm
        (priority_le_of_head h' (mem_of_stable hsame List.mem_cons_self))
        (priority_le_of_head h (mem_of_stable (fun q => (hsame q).symm) List.mem_cons_self))
      have hheads := hsame i.priority
      simp only [List.filter_cons, hpriority, beq_self_eq_true, if_true] at hheads
      obtain ⟨rfl, hown⟩ := List.cons.inj hheads
      refine congrArg (i :: ·) (ih h.of_cons h'.of_cons ?_)
      intro priority
      by_cases hthis : i.priority = priority
      · exact hthis ▸ hown
      · have hother := hsame priority
        rw [List.filter_cons_of_neg (by simpa using hthis),
          List.filter_cons_of_neg (by simpa using hthis)] at hother
        exact hother

/-- There is only one stable order. -/
theorem unique (h : StableOrder came sorted) (h' : StableOrder came sorted') : sorted = sorted' :=
  eq_of_stable h.ascending h'.ascending fun priority =>
    (h.stable priority).trans (h'.stable priority).symm

/-- With distinct priorities it does not matter in which order they came. -/
theorem eq_of_perm (h : StableOrder came sorted) (h' : StableOrder came' sorted')
    (hperm : came.Perm came') (hdistinct : (came.map (·.priority)).Nodup) : sorted = sorted' := by
  have hmem : ∀ i ∈ sorted', i ∈ came := fun i hi => hperm.mem_iff.2 (h'.perm.mem_iff.1 hi)
  refine List.Perm.eq_of_pairwise ?_ h.ascending h'.ascending
    (h.perm.trans (hperm.trans h'.perm.symm))
  intro i j hi hj hle hge
  exact List.inj_on_of_nodup_map hdistinct (h.perm.mem_iff.1 hi) (hmem j hj)
    (Int.le_antisymm hle hge)

/-- What is left out does not disturb the order. -/
theorem filter (h : StableOrder came sorted) (p : Interceptor → Bool) :
    StableOrder (came.filter p) (sorted.filter p) where
  perm := h.perm.filter p
  ascending := h.ascending.sublist List.filter_sublist
  stable priority := by
    rw [List.filter_comm, h.stable priority, List.filter_comm]

end StableOrder

namespace Pipeline

variable {p : Pipeline} {came : List Interceptor}

theorem priority_trans (a b c : Interceptor) (hab : decide (a.priority ≤ b.priority) = true)
    (hbc : decide (b.priority ≤ c.priority) = true) : decide (a.priority ≤ c.priority) = true :=
  decide_eq_true (Int.le_trans (of_decide_eq_true hab) (of_decide_eq_true hbc))

theorem priority_total (a b : Interceptor) :
    (decide (a.priority ≤ b.priority) || decide (b.priority ≤ a.priority)) = true := by
  rw [Bool.or_eq_true, decide_eq_true_eq, decide_eq_true_eq]
  exact Int.le_total _ _

/-- Sorting is stable. -/
theorem stableOrder_mergeSort (came : List Interceptor) :
    StableOrder came (came.mergeSort fun a b => a.priority ≤ b.priority) where
  perm := List.mergeSort_perm _ _
  ascending := by
    have hsorted := List.pairwise_mergeSort priority_trans priority_total came
    exact hsorted.imp of_decide_eq_true
  stable priority := by
    -- interceptors of one priority are in ascending order already, so sorting leaves them so
    have hascending : (came.filter (·.priority == priority)).Pairwise
        fun a b => decide (a.priority ≤ b.priority) = true := by
      refine List.Pairwise.imp_of_mem (R := fun _ _ => True) ?_
        (List.pairwise_of_forall fun _ _ => trivial)
      intro a b ha hb _
      have hapriority := beq_iff_eq.1 (List.mem_filter.1 ha).2
      have hbpriority := beq_iff_eq.1 (List.mem_filter.1 hb).2
      exact decide_eq_true (Int.le_of_eq (hapriority.trans hbpriority.symm))
    have hsublist := (List.sublist_mergeSort priority_trans priority_total hascending
      List.filter_sublist).filter (·.priority == priority)
    simp only [List.filter_filter, Bool.and_self] at hsublist
    exact (hsublist.eq_of_length ((List.mergeSort_perm _ _).filter _).length_eq.symm).symm

/-- An interceptor that is added comes last. -/
theorem push_interceptors (h : StableOrder came p.interceptors) (i : Interceptor) :
    StableOrder (came ++ [i]) (p.push i).interceptors := by
  have hsorted := stableOrder_mergeSort (p.interceptors ++ [i])
  refine ⟨hsorted.perm.trans (h.perm.append_right [i]), hsorted.ascending, ?_⟩
  intro priority
  refine (hsorted.stable priority).trans ?_
  rw [List.filter_append, List.filter_append, h.stable priority]

/-- So do all that are added. -/
theorem pushAll_interceptors (h : StableOrder came p.interceptors) (is : List Interceptor) :
    StableOrder (came ++ is) (p.pushAll is).interceptors := by
  induction is generalizing p came with
  | nil =>
    rw [List.append_nil]
    exact h
  | cons i is ih =>
    rw [List.append_cons]
    exact ih (push_interceptors h i)

end Pipeline
end ProcessMigration
