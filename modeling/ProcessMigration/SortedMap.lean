/-!
# Maps from text, in key order

`SortedMap α` keeps one value per key, the keys ascending by their bytes. For text this is the
order of code points, so it is the order `<` of `String`.

* `get?`, `insert`, `erase` are the operations, `entries` is the view;
* `get?_insert`, `get?_erase` and `get?_ofList` say what the operations do to look-ups.
-/

namespace ProcessMigration

/-- A finite map from texts to values, its entries in ascending order of keys. -/
structure SortedMap (α : Type) where
  entries : List (String × α)
  sorted : entries.Pairwise fun a b => a.1 < b.1

namespace SortedMap

variable {α β : Type}

instance [DecidableEq α] : DecidableEq (SortedMap α) := fun a b =>
  decidable_of_iff (a.entries = b.entries) <| by
    cases a; cases b; simp

/-- The map without entries. -/
def empty : SortedMap α := ⟨[], .nil⟩

instance : Inhabited (SortedMap α) := ⟨empty⟩

/-- Puts an entry in its place, over the one of the same key if there is one. -/
def insertEntry (key : String) (value : α) : List (String × α) → List (String × α)
  | [] => [(key, value)]
  | (k, v) :: rest =>
    if key < k then (key, value) :: (k, v) :: rest
    else if k < key then (k, v) :: insertEntry key value rest
    else (key, value) :: rest

theorem mem_insertEntry {key : String} {value : α} {es : List (String × α)} {e : String × α}
    (h : e ∈ insertEntry key value es) : e = (key, value) ∨ e ∈ es := by
  induction es with
  | nil => simpa [insertEntry] using h
  | cons head rest ih =>
    obtain ⟨k, v⟩ := head
    simp only [insertEntry] at h
    split at h
    · simpa using h
    · split at h
      · rcases List.mem_cons.1 h with h | h
        · exact .inr (h ▸ List.mem_cons_self)
        · exact (ih h).imp_right (List.mem_cons_of_mem _)
      · rcases List.mem_cons.1 h with h | h
        · exact .inl h
        · exact .inr (List.mem_cons_of_mem _ h)

theorem sorted_insertEntry (key : String) (value : α) {es : List (String × α)}
    (h : es.Pairwise fun a b => a.1 < b.1) :
    (insertEntry key value es).Pairwise fun a b => a.1 < b.1 := by
  induction es with
  | nil => simp [insertEntry]
  | cons head rest ih =>
    obtain ⟨k, v⟩ := head
    obtain ⟨first, tail⟩ := List.pairwise_cons.1 h
    simp only [insertEntry]
    split
    · next lt =>
      refine List.pairwise_cons.2 ⟨?_, h⟩
      intro e he
      rcases List.mem_cons.1 he with rfl | he
      · exact lt
      · exact String.lt_trans lt (first e he)
    · split
      · next gt =>
        refine List.pairwise_cons.2 ⟨?_, ih tail⟩
        intro e he
        rcases mem_insertEntry he with rfl | he
        · exact gt
        · exact first e he
      · next nlt ngt =>
        have same : key = k := String.le_antisymm ngt nlt
        exact List.pairwise_cons.2 ⟨fun e he => same ▸ first e he, tail⟩

/-- The map with this value for the key. -/
def insert (m : SortedMap α) (key : String) (value : α) : SortedMap α :=
  ⟨insertEntry key value m.entries, sorted_insertEntry key value m.sorted⟩

/-- The value of a key. -/
def get? (m : SortedMap α) (key : String) : Option α := m.entries.lookup key

/-- The map without the key. -/
def erase (m : SortedMap α) (key : String) : SortedMap α :=
  ⟨m.entries.filter (·.1 != key), m.sorted.filter _⟩

/-- Inserts the pairs one after the other: of pairs with the same key the last one stays. -/
def ofList (pairs : List (String × α)) : SortedMap α :=
  pairs.foldl (fun m (k, v) => m.insert k v) empty

/-- The keys in ascending order. -/
def keys (m : SortedMap α) : List String := m.entries.map (·.1)

/-- The values in the order of their keys. -/
def values (m : SortedMap α) : List α := m.entries.map (·.2)

/-- Applies a function to every value. -/
def map (f : α → β) (m : SortedMap α) : SortedMap β :=
  ⟨m.entries.map fun e => (e.1, f e.2), by
    rw [List.pairwise_map]
    exact m.sorted⟩

/-! ## Look-ups -/

@[simp] theorem get?_empty (key : String) : (empty : SortedMap α).get? key = none := rfl

theorem lookup_insertEntry (key other : String) (value : α) (es : List (String × α)) :
    (insertEntry key value es).lookup other = if other = key then some value else es.lookup other := by
  induction es with
  | nil =>
    by_cases h : other = key
    · simp [insertEntry, h]
    · simp [insertEntry, List.lookup_cons, h, beq_eq_false_iff_ne.2 h]
  | cons head rest ih =>
    obtain ⟨k, v⟩ := head
    simp only [insertEntry]
    by_cases h : other = key
    · subst h
      split
      · simp
      · split
        · next gt =>
          have ne : other ≠ k := fun e => String.lt_irrefl _ (e ▸ gt)
          rw [List.lookup_cons, beq_eq_false_iff_ne.2 ne]
          simpa using ih
        · simp
    · rw [if_neg h]
      split
      · rw [List.lookup_cons, beq_eq_false_iff_ne.2 h]
      · split
        · rw [List.lookup_cons, List.lookup_cons]
          split <;> simp_all
        · next nlt ngt =>
          have same : key = k := String.le_antisymm ngt nlt
          subst same
          rw [List.lookup_cons, List.lookup_cons, beq_eq_false_iff_ne.2 h]

@[simp] theorem get?_insert (m : SortedMap α) (key other : String) (value : α) :
    (m.insert key value).get? other = if other = key then some value else m.get? other :=
  lookup_insertEntry key other value m.entries

theorem lookup_filter_ne (key other : String) (es : List (String × α)) :
    (es.filter (·.1 != key)).lookup other = if other = key then none else es.lookup other := by
  induction es with
  | nil => simp
  | cons head rest ih =>
    obtain ⟨k, v⟩ := head
    by_cases hk : k = key
    · subst hk
      simp only [List.filter, bne_self_eq_false, ih]
      by_cases ho : other = k
      · simp [ho]
      · rw [List.lookup_cons, beq_eq_false_iff_ne.2 ho]
    · have keep : (k != key) = true := by simpa using hk
      simp only [List.filter, keep]
      rw [List.lookup_cons, List.lookup_cons]
      by_cases ho : other = k
      · subst ho
        simp [hk]
      · rw [beq_eq_false_iff_ne.2 ho]
        exact ih

@[simp] theorem get?_erase (m : SortedMap α) (key other : String) :
    (m.erase key).get? other = if other = key then none else m.get? other :=
  lookup_filter_ne key other m.entries

/-- Pairs with distinct keys are all there. -/
theorem get?_ofList {pairs : List (String × α)} (h : (pairs.map (·.1)).Nodup) (key : String) :
    (ofList pairs).get? key = pairs.lookup key := by
  suffices hgen : ∀ m : SortedMap α, (pairs.foldl (fun m (k, v) => m.insert k v) m).get? key =
      (pairs.lookup key).or (m.get? key) by
    rw [ofList, hgen, get?_empty, Option.or_none]
  induction pairs with
  | nil => exact fun _ => rfl
  | cons head rest ih =>
    obtain ⟨k, v⟩ := head
    obtain ⟨hfirst, hrest⟩ := List.nodup_cons.1 h
    intro m
    rw [List.foldl_cons, ih hrest, get?_insert, List.lookup_cons]
    by_cases hk : key = k
    · subst hk
      have hnone : rest.lookup key = none := by
        rw [List.lookup_eq_none_iff]
        intro p hp
        exact bne_iff_ne.2 fun heq => hfirst (List.mem_map.2 ⟨p, hp, heq.symm⟩)
      rw [hnone, if_pos rfl, BEq.rfl]
      rfl
    · rw [if_neg hk, beq_eq_false_iff_ne.2 hk]

theorem insertEntry_of_last {key : String} {value : α} {es : List (String × α)}
    (h : ∀ e ∈ es, e.1 < key) : insertEntry key value es = es ++ [(key, value)] := by
  induction es with
  | nil => rfl
  | cons head rest ih =>
    obtain ⟨k, v⟩ := head
    have hless : k < key := h (k, v) List.mem_cons_self
    unfold insertEntry
    rw [if_neg fun hgreater => String.lt_irrefl _ (String.lt_trans hless hgreater), if_pos hless,
      ih fun e he => h e (List.mem_cons_of_mem _ he), List.cons_append]

/-- Pairs that ascend by key stand as they are. -/
theorem entries_ofList {pairs : List (String × α)} (h : pairs.Pairwise fun a b => a.1 < b.1) :
    (ofList pairs).entries = pairs := by
  suffices hgen : ∀ m : SortedMap α, (m.entries ++ pairs).Pairwise (fun a b => a.1 < b.1) →
      (pairs.foldl (fun m (k, v) => m.insert k v) m).entries = m.entries ++ pairs by
    exact hgen empty h
  clear h
  induction pairs with
  | nil => exact fun m _ => (List.append_nil _).symm
  | cons head rest ih =>
    obtain ⟨k, v⟩ := head
    intro m hm
    have hlast : (m.insert k v).entries = m.entries ++ [(k, v)] :=
      insertEntry_of_last fun e he => (List.pairwise_append.1 hm).2.2 e he (k, v) List.mem_cons_self
    have happend : (m.insert k v).entries ++ rest = m.entries ++ (k, v) :: rest := by
      rw [hlast, List.append_assoc, List.singleton_append]
    rw [List.foldl_cons, ih (m.insert k v) (happend ▸ hm), happend]

theorem ofList_entries (m : SortedMap α) : ofList m.entries = m := by
  have hentries := entries_ofList m.sorted
  generalize ofList m.entries = m' at hentries
  obtain ⟨es, hes⟩ := m
  obtain ⟨es', hes'⟩ := m'
  cases hentries
  rfl

end SortedMap
end ProcessMigration
