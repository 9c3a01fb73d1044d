import Mathlib.Data.List.Induction
import Mathlib.Data.List.Nodup
import ProcessMigration.SortedMap

/-!
# The entries of a map

A map that is built from pairs keeps the last pair of each key.

* `SortedMap.mem_entries_iff`, `mem_keys_iff` and `mem_values_iff`: the views of a map by look-ups;
* `SortedMap.get?_ofList_last`: the last pair of a key is found;
* `SortedMap.entries_ofList_perm`: pairs with distinct keys are all kept.
-/

namespace ProcessMigration.SortedMap

variable {α : Type}

theorem mem_entries_iff {m : SortedMap α} {key : String} {value : α} :
    (key, value) ∈ m.entries ↔ m.get? key = some value := by
  obtain ⟨entries, hsorted⟩ := m
  show _ ↔ entries.lookup key = some value
  rw [List.lookup_eq_some_iff]
  constructor
  · intro hmem
    obtain ⟨earlier, later, rfl⟩ := List.append_of_mem hmem
    refine ⟨earlier, later, rfl, ?_⟩
    intro p hp
    have hlt : p.1 < key :=
      (List.pairwise_append.1 hsorted).2.2 p hp (key, value) List.mem_cons_self
    simpa using fun heq : key = p.1 => String.lt_irrefl _ (heq ▸ hlt)
  · rintro ⟨earlier, later, rfl, -⟩
    exact List.mem_append_right _ List.mem_cons_self

theorem mem_keys_iff {m : SortedMap α} {key : String} :
    key ∈ m.keys ↔ ∃ value, m.get? key = some value := by
  unfold keys
  rw [List.mem_map]
  constructor
  · rintro ⟨⟨_, value⟩, hmem, rfl⟩
    exact ⟨value, mem_entries_iff.1 hmem⟩
  · rintro ⟨value, hget⟩
    exact ⟨(key, value), mem_entries_iff.2 hget, rfl⟩

theorem mem_values_iff {m : SortedMap α} {value : α} :
    value ∈ m.values ↔ ∃ key, m.get? key = some value := by
  unfold values
  rw [List.mem_map]
  constructor
  · rintro ⟨⟨key, _⟩, hmem, rfl⟩
    exact ⟨key, mem_entries_iff.1 hmem⟩
  · rintro ⟨key, hget⟩
    exact ⟨(key, value), mem_entries_iff.2 hget, rfl⟩

theorem nodup_keys (m : SortedMap α) : m.keys.Nodup := by
  unfold keys List.Nodup
  rw [List.pairwise_map]
  refine m.sorted.imp ?_
  intro a b hlt heq
  exact String.lt_irrefl _ (heq ▸ hlt)

theorem ofList_append_singleton (pairs : List (String × α)) (key : String) (value : α) :
    ofList (pairs ++ [(key, value)]) = (ofList pairs).insert key value := by
  unfold ofList
  rw [List.foldl_append]
  rfl

/-- Of the pairs with a key the last one is found. -/
theorem get?_ofList_eq (pairs : List (String × α)) (key : String) :
    (ofList pairs).get? key = pairs.reverse.lookup key := by
  -- a further pair is inserted last, so it is looked up first
  induction pairs using List.reverseRecOn with
  | nil => rfl
  | append_singleton rest pair ih =>
    obtain ⟨k, v⟩ := pair
    rw [ofList_append_singleton, get?_insert, List.reverse_concat, List.lookup_cons, ih]
    by_cases hk : key = k
    · rw [if_pos hk, hk, BEq.rfl]
    · rw [if_neg hk, beq_eq_false_iff_ne.2 hk]

theorem get?_ofList_last {earlier later : List (String × α)} {key : String} {value : α}
    (h : ∀ p ∈ later, p.1 ≠ key) :
    (ofList (earlier ++ (key, value) :: later)).get? key = some value := by
  have hnone : later.reverse.lookup key = none := by
    rw [List.lookup_eq_none_iff]
    intro p hp
    exact bne_iff_ne.2 (h p (List.mem_reverse.1 hp)).symm
  rw [get?_ofList_eq, List.reverse_append, List.reverse_cons, List.lookup_append,
    List.lookup_append, hnone, List.lookup_cons, BEq.rfl]
  rfl

theorem mem_of_get?_ofList {pairs : List (String × α)} {key : String} {value : α}
    (h : (ofList pairs).get? key = some value) : (key, value) ∈ pairs := by
  rw [get?_ofList_eq, List.lookup_eq_some_iff] at h
  obtain ⟨earlier, later, heq, -⟩ := h
  rw [← List.mem_reverse, heq]
  exact List.mem_append_right _ List.mem_cons_self

theorem mem_keys_ofList {pairs : List (String × α)} {key : String} :
    key ∈ (ofList pairs).keys ↔ key ∈ pairs.map (·.1) := by
  rw [mem_keys_iff]
  constructor
  · rintro ⟨value, hget⟩
    exact List.mem_map.2 ⟨(key, value), mem_of_get?_ofList hget, rfl⟩
  · intro hmem
    obtain ⟨pair, hpair, rfl⟩ := List.mem_map.1 hmem
    cases hget : (ofList pairs).get? pair.1 with
    | some value => exact ⟨value, rfl⟩
    | none =>
      rw [get?_ofList_eq, List.lookup_eq_none_iff] at hget
      have hne := hget pair (List.mem_reverse.2 hpair)
      rw [bne_self_eq_false] at hne
      cases hne

/-- Pairs with distinct keys are the entries, in another order. -/
theorem entries_ofList_perm {pairs : List (String × α)} (h : (pairs.map (·.1)).Nodup) :
    (ofList pairs).entries.Perm pairs := by
  refine (List.perm_ext_iff_of_nodup (nodup_keys _).of_map h.of_map).2 ?_
  rintro ⟨key, value⟩
  rw [mem_entries_iff]
  refine ⟨mem_of_get?_ofList, ?_⟩
  intro hmem
  obtain ⟨earlier, later, rfl⟩ := List.append_of_mem hmem
  refine get?_ofList_last ?_
  intro p hp heq
  rw [List.map_append, List.map_cons, List.nodup_append] at h
  have hnew := (List.nodup_cons.1 h.2.1).1
  exact hnew (List.mem_map.2 ⟨p, hp, heq⟩)

end ProcessMigration.SortedMap
