import Mathlib.Order.Defs.PartialOrder
import ProcessMigration.Proofs.ByteOrder
import ProcessMigration.Proofs.Enumeration
import ProcessMigration.Proofs.Listing

/-!
# The order of a snapshot

A snapshot is sorted when it is taken, a place is compared with an instance, and a page is filtered
and cut. All three follow one order of places.

* `Cursor.Before` is that order in its own words, and `Cursor.before_iff` that the program has it;
* `SnapshotSource.ofInstances_sorted`: a snapshot is in that order, whatever its ids are;
* `SnapshotSource.listAfter_eq_take`: a page is the beginning of what is behind the place;
* `SnapshotSource.ofInstances_eq_of_perm`: instances with distinct ids make the same source in
  whatever order they come;
* `SnapshotSource.honours_cursors`: pages, places and the listing behind the last item.
-/

namespace ProcessMigration

/-! ## The order of places -/

/-- One start time is before another; a missing one is before all others. -/
def Instant.Earlier : Option Instant → Option Instant → Prop
  | none, some _ => True
  | some a, some b => a.seconds < b.seconds ∨ (a.seconds = b.seconds ∧ a.nanos < b.nanos)
  | _, none => False

theorem Instant.earlier_iff {a b : Option Instant} : Earlier a b ↔ before a b = true := by
  cases a <;> cases b <;> simp [Earlier, before, lt_iff]

namespace Cursor

/-- One place is before another: by start time, and at the same time by the bytes of the id. -/
def Before (a b : Cursor) : Prop :=
  Instant.Earlier a.startTime b.startTime ∨
    (a.startTime = b.startTime ∧ Text.bytes a.legacyId < Text.bytes b.legacyId)

theorem before_iff {a b : Cursor} : a.Before b ↔ a.lt b = true := by
  rw [lt_iff, Text.lt_iff_bytes_lt, Before, Instant.earlier_iff]

instance : LT Cursor := ⟨Before⟩

instance : DecidableLT Cursor := fun _ _ => decidable_of_iff _ before_iff.symm

theorem lt_def {a b : Cursor} : a < b ↔ a.lt b = true := before_iff

theorem not_lt_of_lt {a b : Cursor} (h : a < b) : ¬b < a := by
  intro h'
  exact lt_irrefl a (lt_trans (lt_def.1 h) (lt_def.1 h'))

/-- Of two places one is before the other, unless they are the same. -/
instance : LinearOrder Cursor where
  le a b := ¬b < a
  le_refl a h := lt_irrefl a (lt_def.1 h)
  le_trans a b c hba hcb hca := by
    rw [lt_def] at *
    exact hba (lt_of_lt_of_not_lt hcb hca)
  lt_iff_le_not_ge a b := by
    constructor
    case mp => exact fun h => ⟨not_lt_of_lt h, not_not_intro h⟩
    case mpr => exact fun h => not_not.1 h.2
  le_antisymm a b hba hab := by
    rw [lt_def] at *
    exact ((lt_connex a b).resolve_left hab).resolve_right hba
  le_total a b := by
    by_cases h : b < a
    · exact .inr (not_lt_of_lt h)
    · exact .inl h
  toDecidableLE := fun _ _ => inferInstanceAs (Decidable (¬_))
  toDecidableLT := inferInstance

theorem precedes_iff {c : Cursor} {i : SourceInstance} : c.precedes i = true ↔ c < i.cursor :=
  lt_def.symm

end Cursor

/-! ## Pages -/

namespace SnapshotSource

open Paging (behind)

variable {xs ys : List SnapshotInstance}

/-- The source is in the order of the places, whatever the ids are. -/
theorem ofInstances_sorted (xs : List SnapshotInstance) :
    (ofInstances xs).instances.Pairwise fun a b => a.inst.cursor ≤ b.inst.cursor := by
  have hle : ∀ a b : SnapshotInstance,
      (!b.inst.cursor.lt a.inst.cursor) = decide (a.inst.cursor ≤ b.inst.cursor) := by
    intro a b
    rw [Bool.eq_iff_iff, decide_eq_true_iff, ← not_lt, Cursor.lt_def]
    simp
  unfold ofInstances
  simp only [hle]
  refine (List.pairwise_mergeSort ?_ ?_ xs).imp of_decide_eq_true
  · intro a b c hab hbc
    exact decide_eq_true (le_trans (of_decide_eq_true hab) (of_decide_eq_true hbc))
  · intro a b
    simpa using le_total a.inst.cursor b.inst.cursor

theorem listing_sorted (xs : List SnapshotInstance) :
    (ofInstances xs).listing.Pairwise fun a b => a.cursor ≤ b.cursor :=
  List.pairwise_map.2 (ofInstances_sorted xs)

/-- A page is the beginning of what is behind the place. -/
theorem listAfter_eq_take (s : SnapshotSource) (after : Option Cursor) (limit : Nat) :
    s.listAfter after limit = (behind SourceInstance.cursor s.listing after).take limit := by
  cases after with
  | none => exact listAfter_none limit
  | some c =>
    have hprecedes : c.precedes = fun i => decide (c < i.cursor) := by
      funext i
      rw [Bool.eq_iff_iff, decide_eq_true_iff, Cursor.precedes_iff]
    unfold listAfter behind listing
    simp only [hprecedes]

theorem behind_perm (h : xs.Perm ys) (after : Option Cursor) :
    (behind SourceInstance.cursor (xs.map (·.inst)) after).Perm
      (behind SourceInstance.cursor (ys.map (·.inst)) after) := by
  cases after with
  | none => exact h.map _
  | some c => exact (h.map _).filter _

theorem length_behind_le (items : List SourceInstance) (after : Option Cursor) :
    (behind SourceInstance.cursor items after).length ≤ items.length := by
  cases after with
  | none => exact Nat.le_refl _
  | some c => exact List.length_filter_le _ _

theorem behind_sorted {r : SourceInstance → SourceInstance → Prop} {items : List SourceInstance}
    (h : items.Pairwise r) (after : Option Cursor) :
    (behind SourceInstance.cursor items after).Pairwise r := by
  cases after with
  | none => exact h
  | some c => exact h.filter _

/-- With distinct ids the order of the instances makes no difference. -/
theorem ofInstances_eq_of_perm (h : xs.Perm ys) (hids : (xs.map (·.inst.id)).Nodup) :
    ofInstances xs = ofInstances ys := by
  have hperm : (ofInstances xs).instances.Perm (ofInstances ys).instances :=
    (ofInstances_perm xs).trans (h.trans (ofInstances_perm ys).symm)
  apply congrArg SnapshotSource.mk
  refine hperm.eq_of_pairwise ?_ (ofInstances_sorted xs) (ofInstances_sorted ys)
  intro a b ha hb hab hba
  -- the same place is that of the same id
  have hplace := congrArg Cursor.legacyId (le_antisymm hab hba)
  exact List.inj_on_of_nodup_map hids (mem_ofInstances.1 ha) (h.mem_iff.2 (mem_ofInstances.1 hb))
    hplace

/-! ## The cursor contract -/

/-- The page that a request is answered with: behind the last item, or where a listing resumes. -/
def pageFor (s : SnapshotSource) (resume : Option Cursor) (r : PageRequest SourceInstance) :
    List SourceInstance :=
  s.listAfter ((r.after.map SourceInstance.cursor).or resume) r.limit

/-- The pages of a snapshot follow the order of places. -/
structure HonoursCursors (xs : List SnapshotInstance) : Prop where
  /-- Pages of all sizes behind a place are the beginnings of the instances behind it, in order. -/
  pages (after : Option Cursor) : ∃ items : List SourceInstance,
    items.Perm (behind SourceInstance.cursor (xs.map (·.inst)) after) ∧
      (items.Pairwise fun a b => a.cursor ≤ b.cursor) ∧
      ∀ limit, (ofInstances xs).listAfter after limit = items.take limit
  /-- Behind the place of an instance that instance does not come. -/
  strict (x : SnapshotInstance) (limit : Nat) :
    x.inst ∉ (ofInstances xs).listAfter (some x.inst.cursor) limit
  /-- An instance comes after a place if it is before no other, and never after one behind it. -/
  agrees : (∀ (c : Cursor) (i : SourceInstance), c.precedes i = true ↔ c.Before i.cursor) ∧
    (ofInstances xs).listing.Pairwise fun a b => b.cursor.precedes a = false
  /-- With distinct ids, going on behind the last item lists each instance once, in order. -/
  follows (hids : (xs.map (·.inst.id)).Nodup) (resume : Option Cursor) (pageSize : Nat)
    (total : Option Nat) (htotal : ∀ t, total = some t → (ofInstances xs).count ≤ t) :
    ∃ (items : List SourceInstance) (requests : List (PageRequest SourceInstance)),
      items.Perm (behind SourceInstance.cursor (xs.map (·.inst)) resume) ∧
        (items.Pairwise fun a b => a.cursor < b.cursor) ∧
        Paging.Enumerates ((ofInstances xs).pageFor resume) (.start .after pageSize total) items
          requests

theorem honours_cursors (xs : List SnapshotInstance) : HonoursCursors xs where
  pages after := by
    refine ⟨behind SourceInstance.cursor (ofInstances xs).listing after, ?_, ?_, ?_⟩
    · exact behind_perm (ofInstances_perm xs) after
    · exact behind_sorted (listing_sorted xs) after
    · exact listAfter_eq_take _ after
  strict x limit hmem := by
    rw [listAfter_eq_take] at hmem
    have hbehind := (List.mem_filter.1 (List.mem_of_mem_take hmem)).2
    exact lt_irrefl _ (of_decide_eq_true hbehind)
  agrees := by
    refine ⟨fun c i => Cursor.precedes_iff, (listing_sorted xs).imp ?_⟩
    intro a b hle
    rw [Bool.eq_false_iff, ne_eq, Cursor.precedes_iff]
    exact not_lt.2 hle
  follows hids resume pageSize total htotal := by
    have hascending : (ofInstances xs).listing.Pairwise fun a b => a.cursor < b.cursor :=
      (ofInstances_ascending hids).imp Cursor.lt_def.2
    have hcount : ∀ t, total = some t →
        (behind SourceInstance.cursor (ofInstances xs).listing resume).length ≤ t := by
      intro t ht
      calc (behind SourceInstance.cursor (ofInstances xs).listing resume).length
          ≤ (ofInstances xs).listing.length := length_behind_le _ resume
        _ = (ofInstances xs).count := List.length_map _
        _ ≤ t := htotal t ht
    obtain ⟨requests, p', hlists, -⟩ := Paging.lists_after (by omega) hascending
      (List.nil_append _).symm hcount (Paging.byCursor_start pageSize total) rfl
    have hanswer : Paging.cursorPage SourceInstance.cursor resume (ofInstances xs).listing =
        (ofInstances xs).pageFor resume :=
      funext fun r => (listAfter_eq_take _ _ _).symm
    refine ⟨_, requests, behind_perm (ofInstances_perm xs) resume,
      behind_sorted hascending resume, ?_⟩
    exact hanswer ▸ hlists.enumerates

end SnapshotSource
end ProcessMigration
