import Mathlib.Data.List.Nodup
import Mathlib.Data.Prod.Basic
import ProcessMigration.Source.Snapshot

/-!
# The listing of a snapshot

The places of source instances are totally ordered, a snapshot with distinct ids lists its instances
in strictly ascending places, and a listing that starts behind a place is a final part of it.

* `Cursor.lt_trans`, `Cursor.lt_irrefl` and `Cursor.lt_connex`: the order of places;
* `SnapshotSource.ofInstances_ascending`: a snapshot with distinct ids is in that order;
* `SnapshotSource.listAfter_eq`: what comes after a place is the listing without its first
  instances, `notAfter` of them;
* `SnapshotSource.notAfter_cursor` counts them for the place of an instance, and
  `notAfter_le` bounds them for a place that is not behind an instance.
-/

namespace ProcessMigration

/-! ## The order of places -/

namespace Instant

theorem lt_iff {a b : Instant} :
    a.lt b = true ↔ a.seconds < b.seconds ∨ (a.seconds = b.seconds ∧ a.nanos < b.nanos) := by
  simp [lt]

theorem before_irrefl (a : Option Instant) : before a a = false := by
  cases a with
  | none => rfl
  | some t =>
    show t.lt t = false
    rw [Bool.eq_false_iff]
    intro h
    rw [lt_iff] at h
    omega

theorem before_trans {a b c : Option Instant} (hab : before a b = true) (hbc : before b c = true) :
    before a c = true := by
  cases a <;> cases b <;> cases c <;> simp only [before, lt_iff, Bool.false_eq_true] at *
  omega

theorem before_connex (a b : Option Instant) : before a b = true ∨ a = b ∨ before b a = true := by
  cases a with
  | none => cases b <;> simp [before]
  | some s =>
    cases b with
    | none => simp [before]
    | some t =>
      obtain ⟨x, m⟩ := s
      obtain ⟨y, n⟩ := t
      simp only [before, lt_iff, Option.some.injEq, Instant.mk.injEq]
      omega

instance : Std.Irrefl fun a b => before a b = true :=
  ⟨fun a => by simp [before_irrefl]⟩

instance : IsTrans (Option Instant) fun a b => before a b = true :=
  ⟨fun _ _ _ => before_trans⟩

instance : Std.Trichotomous fun a b => before a b = true :=
  Std.trichotomous_of_rel_or_eq_or_rel_swap fun {a b} => before_connex a b

end Instant

namespace Cursor

theorem lt_iff {a b : Cursor} :
    a.lt b = true ↔ Instant.before a.startTime b.startTime = true ∨
      (a.startTime = b.startTime ∧ a.legacyId < b.legacyId) := by
  simp [lt]

/-- Places are in the order of their times and, at the same time, of their ids. -/
theorem lt_iff_lex {a b : Cursor} : a.lt b = true ↔
    Prod.Lex (fun s t => Instant.before s t = true) (· < ·) (a.startTime, a.legacyId)
      (b.startTime, b.legacyId) := by
  rw [lt_iff, Prod.lex_iff]

theorem lt_irrefl (a : Cursor) : ¬a.lt a = true := by
  rw [lt_iff_lex]
  exact Std.Irrefl.irrefl _

theorem lt_trans {a b c : Cursor} (hab : a.lt b = true) (hbc : b.lt c = true) : a.lt c = true := by
  rw [lt_iff_lex] at *
  exact Prod.Lex.trans hab hbc

theorem lt_connex (a b : Cursor) : a.lt b = true ∨ a = b ∨ b.lt a = true := by
  rw [lt_iff_lex, lt_iff_lex]
  refine Std.Trichotomous.rel_or_eq_or_rel_swap.imp_right (Or.imp_left ?_)
  obtain ⟨s, i⟩ := a
  obtain ⟨t, j⟩ := b
  intro hsame
  obtain ⟨rfl, rfl⟩ := Prod.mk.inj hsame
  rfl

theorem lt_of_lt_of_not_lt {a b c : Cursor} (hba : ¬b.lt a = true) (hbc : b.lt c = true) :
    a.lt c = true := by
  rcases lt_connex a b with hab | heq | hba'
  · exact lt_trans hab hbc
  · exact heq ▸ hbc
  · exact absurd hba' hba

end Cursor

/-! ## Final parts of a list -/

/-- What satisfies a property that goes upward is a final part of the list. -/
theorem filter_eq_drop {α : Type} {p : α → Bool} {l : List α}
    (h : l.Pairwise fun x y => p x = true → p y = true) :
    l.filter p = l.drop (l.countP fun x => !p x) := by
  induction l with
  | nil => rfl
  | cons x l ih =>
    obtain ⟨hx, hl⟩ := List.pairwise_cons.1 h
    by_cases hp : p x = true
    · have hall : ∀ y ∈ l, p y = true := fun y hy => hx y hy hp
      have hnone : (l.countP fun x => !p x) = 0 := by
        rw [List.countP_eq_zero]
        intro y hy
        simp [hall y hy]
      rw [List.filter_cons_of_pos hp, List.filter_eq_self.2 hall, List.countP_cons, hnone]
      simp [hp]
    · rw [List.filter_cons_of_neg hp, ih hl, List.countP_cons]
      simp [hp]

namespace SnapshotSource

variable {s : SnapshotSource}

/-- The instances of a snapshot, without what is known of them, in the order of the listing. -/
def listing (s : SnapshotSource) : List SourceInstance := s.instances.map (·.inst)

theorem find?_eq (s : SnapshotSource) (id : String) :
    s.find? id = s.listing.find? fun i => i.id == id := by
  unfold listing
  rw [List.find?_map]
  rfl

/-- An instance that is found is listed, and has the id. -/
theorem mem_of_find? {id : String} {i : SourceInstance} (h : s.find? id = some i) :
    i ∈ s.listing ∧ i.id = id := by
  rw [find?_eq] at h
  exact ⟨List.mem_of_find?_eq_some h, by simpa using List.find?_some h⟩

/-- Where ids are distinct, every listed instance is found by its id. -/
theorem find?_of_mem (hids : (s.listing.map (·.id)).Nodup) {i : SourceInstance}
    (hi : i ∈ s.listing) : s.find? i.id = some i := by
  cases hfind : s.find? i.id with
  | none =>
    rw [find?_eq] at hfind
    exact absurd BEq.rfl (List.find?_eq_none.1 hfind i hi)
  | some i' =>
    obtain ⟨hi', hid⟩ := mem_of_find? hfind
    rw [List.inj_on_of_nodup_map hids hi' hi hid]

/-- The places of the listing ascend. -/
def Ascending (s : SnapshotSource) : Prop :=
  s.listing.Pairwise fun a b => a.cursor.lt b.cursor = true

theorem ofInstances_perm (xs : List SnapshotInstance) : (ofInstances xs).instances.Perm xs :=
  List.mergeSort_perm xs _

theorem mem_ofInstances {xs : List SnapshotInstance} {x : SnapshotInstance} :
    x ∈ (ofInstances xs).instances ↔ x ∈ xs := (ofInstances_perm xs).mem_iff

theorem nodup_ids_ofInstances {xs : List SnapshotInstance} (hids : (xs.map (·.inst.id)).Nodup) :
    ((ofInstances xs).listing.map (·.id)).Nodup := by
  unfold listing
  rw [List.map_map]
  exact ((ofInstances_perm xs).map _).nodup_iff.2 hids

/-- Where ids are distinct, every instance of a snapshot is found by its id. -/
theorem instance?_ofInstances {xs : List SnapshotInstance} (hids : (xs.map (·.inst.id)).Nodup)
    {x : SnapshotInstance} (hx : x ∈ xs) : (ofInstances xs).instance? x.inst.id = some x := by
  unfold instance?
  cases hfind : (ofInstances xs).instances.find? fun i => i.inst.id == x.inst.id with
  | none => exact absurd BEq.rfl (List.find?_eq_none.1 hfind x (mem_ofInstances.2 hx))
  | some y =>
    have hy := mem_ofInstances.1 (List.mem_of_find?_eq_some hfind)
    have hid : y.inst.id = x.inst.id := by simpa using List.find?_some hfind
    rw [List.inj_on_of_nodup_map hids hy hx hid]

/-- The variables of a scope are those of an instance if no other instance has any of it. -/
theorem variablesOf_ofInstances {xs : List SnapshotInstance} (hids : (xs.map (·.inst.id)).Nodup)
    {x : SnapshotInstance} (hx : x ∈ xs) {scopeId : String}
    (hothers : ∀ y ∈ xs, y.inst.id ≠ x.inst.id → ∀ v ∈ y.vars, v.scopeId ≠ scopeId) :
    (ofInstances xs).variablesOf scopeId = x.vars.filter fun v => v.scopeId == scopeId := by
  obtain ⟨before, after, hsplit⟩ := List.append_of_mem (mem_ofInstances.2 hx)
  have hdistinct := ((ofInstances_perm xs).map (·.inst.id)).nodup_iff.2 hids
  rw [hsplit, List.map_append, List.map_cons, List.nodup_middle, List.nodup_cons,
    ← List.map_append] at hdistinct
  have hnone : ∀ y ∈ before ++ after, (y.vars.filter fun v => v.scopeId == scopeId) = [] := by
    intro y hy
    have hmem : y ∈ xs := by
      rw [← mem_ofInstances, hsplit]
      exact List.perm_middle.mem_iff.2 (List.mem_cons_of_mem x hy)
    have hne : y.inst.id ≠ x.inst.id := fun hid => hdistinct.1 (hid ▸ List.mem_map_of_mem hy)
    exact List.filter_eq_nil_iff.2 fun v hv => by simpa using hothers y hmem hne v hv
  rw [List.forall_mem_append] at hnone
  unfold variablesOf
  rw [hsplit, List.filter_flatMap, List.flatMap_append, List.flatMap_cons,
    List.flatMap_eq_nil_iff.2 hnone.1, List.flatMap_eq_nil_iff.2 hnone.2, List.append_nil]
  rfl

/-- The snapshot fails to give a tree only for an id that is not there. -/
theorem instance?_of_activityTree_error {id : String} {e : ConnectorError}
    (h : s.activityTree id = .error e) : s.instance? id = none := by
  unfold activityTree at h
  split at h
  · cases h
  · next hnone => exact hnone

theorem instance?_of_completedBefore_error {id gateway : String} {e : ConnectorError}
    (h : s.completedBefore id gateway = .error e) : s.instance? id = none := by
  unfold completedBefore at h
  split at h
  · cases h
  · next hnone => exact hnone

/-- A snapshot of instances with distinct ids lists them in ascending places. -/
theorem ofInstances_ascending {xs : List SnapshotInstance} (hids : (xs.map (·.inst.id)).Nodup) :
    (ofInstances xs).Ascending := by
  have hsorted : (ofInstances xs).instances.Pairwise fun a b =>
      (!b.inst.cursor.lt a.inst.cursor) = true := by
    refine List.pairwise_mergeSort ?_ ?_ xs
    · intro a b c hab hbc
      simp only [Bool.not_eq_true'] at *
      rw [Bool.eq_false_iff] at *
      intro hca
      exact hab (Cursor.lt_of_lt_of_not_lt hbc hca)
    · intro a b
      rcases Cursor.lt_connex a.inst.cursor b.inst.cursor with h | h | h
      · have hnot : ¬b.inst.cursor.lt a.inst.cursor = true := by
          intro h'
          exact Cursor.lt_irrefl _ (Cursor.lt_trans h h')
        simp [hnot]
      · simp [h, Cursor.lt_irrefl]
      · have hnot : ¬a.inst.cursor.lt b.inst.cursor = true := by
          intro h'
          exact Cursor.lt_irrefl _ (Cursor.lt_trans h h')
        simp [hnot]
  have hids' : ((ofInstances xs).instances.map (·.inst.id)).Nodup :=
    ((ofInstances_perm xs).map _).nodup_iff.2 hids
  -- equal places would be places of equal ids
  have hdistinct := List.pairwise_map.1 hids'
  refine List.pairwise_map.2 ((hsorted.and hdistinct).imp ?_)
  intro a b ⟨hle, hne⟩
  rcases Cursor.lt_connex a.inst.cursor b.inst.cursor with h | h | h
  · exact h
  · exact absurd (congrArg Cursor.legacyId h) hne
  · simp [h] at hle

/-- How many instances are not after a place. -/
def notAfter (s : SnapshotSource) (c : Cursor) : Nat := s.listing.countP fun i => !c.precedes i

theorem ascending_precedes (hs : s.Ascending) (c : Cursor) :
    s.listing.Pairwise fun a b => c.precedes a = true → c.precedes b = true :=
  hs.imp fun hab hca => Cursor.lt_trans hca hab

/-- What comes after a place is the listing without those that do not. -/
theorem listAfter_eq (hs : s.Ascending) (c : Cursor) (limit : Nat) :
    s.listAfter (some c) limit = (s.listing.drop (s.notAfter c)).take limit := by
  unfold listAfter notAfter
  rw [← filter_eq_drop (ascending_precedes hs c)]
  rfl

theorem listAfter_none (limit : Nat) : s.listAfter none limit = s.listing.take limit := by
  unfold listAfter listing
  rw [List.filter_eq_self.2 fun _ _ => rfl]

theorem mem_of_listAfter {after : Option Cursor} {limit : Nat} {i : SourceInstance}
    (hi : i ∈ s.listAfter after limit) : i ∈ s.listing := by
  unfold listAfter at hi
  obtain ⟨x, hx, rfl⟩ := List.mem_map.1 (List.mem_filter.1 (List.mem_of_mem_take hi)).1
  exact List.mem_map_of_mem hx

/-- A place that does not come behind the instance of number `k` has at most `k` instances and that
one before it. -/
theorem notAfter_le (hs : s.Ascending) {c : Cursor} {k : Nat} {i : SourceInstance}
    (hk : s.listing[k]? = some i) (hc : ¬i.cursor.lt c = true) : s.notAfter c ≤ k + 1 := by
  unfold notAfter
  have hrest : ((s.listing.drop (k + 1)).countP fun i => !c.precedes i) = 0 := by
    rw [List.countP_eq_zero]
    intro j hj
    obtain ⟨n, hn⟩ := List.mem_iff_getElem?.1 hj
    rw [List.getElem?_drop] at hn
    obtain ⟨hlt, rfl⟩ := List.getElem?_eq_some_iff.1 hn
    obtain ⟨hkl, rfl⟩ := List.getElem?_eq_some_iff.1 hk
    have hij := List.pairwise_iff_getElem.1 hs k (k + 1 + n) hkl hlt (by omega)
    have hcj : c.precedes s.listing[k + 1 + n] = true := Cursor.lt_of_lt_of_not_lt hc hij
    simp [hcj]
  calc s.listing.countP (fun i => !c.precedes i)
      = (s.listing.take (k + 1) ++ s.listing.drop (k + 1)).countP (fun i => !c.precedes i) := by
        rw [List.take_append_drop]
    _ = (s.listing.take (k + 1)).countP (fun i => !c.precedes i) := by
        rw [List.countP_append, hrest, Nat.add_zero]
    _ ≤ (s.listing.take (k + 1)).length := List.countP_le_length
    _ ≤ k + 1 := by
        rw [List.length_take]
        omega

/-- Behind the place of an instance come those that follow it. -/
theorem notAfter_cursor (hs : s.Ascending) {k : Nat} {i : SourceInstance}
    (hk : s.listing[k]? = some i) : s.notAfter i.cursor = k + 1 := by
  refine Nat.le_antisymm (notAfter_le hs hk (Cursor.lt_irrefl _)) ?_
  unfold notAfter
  obtain ⟨hkl, rfl⟩ := List.getElem?_eq_some_iff.1 hk
  have hfirst : (s.listing.take (k + 1)).countP (fun i => !(s.listing[k]).cursor.precedes i) =
      (s.listing.take (k + 1)).length := by
    rw [List.countP_eq_length]
    intro j hj
    obtain ⟨n, hn, rfl⟩ := List.mem_take_iff_getElem.1 hj
    have hnk : n ≤ k := by omega
    have hnot : ¬(s.listing[k]).cursor.lt (s.listing[n]).cursor = true := by
      rcases Nat.lt_or_eq_of_le hnk with hlt | heq
      · have hnk' := List.pairwise_iff_getElem.1 hs n k (by omega) hkl hlt
        intro h
        exact Cursor.lt_irrefl _ (Cursor.lt_trans h hnk')
      · subst heq
        exact Cursor.lt_irrefl _
    simp only [Cursor.precedes, Bool.not_eq_true']
    exact Bool.eq_false_iff.2 hnot
  calc k + 1 = (s.listing.take (k + 1)).length := by
        rw [List.length_take]
        omega
    _ = (s.listing.take (k + 1)).countP (fun i => !(s.listing[k]).cursor.precedes i) := hfirst.symm
    _ ≤ s.listing.countP (fun i => !(s.listing[k]).cursor.precedes i) :=
        (List.take_sublist _ _).countP_le

end SnapshotSource
end ProcessMigration
