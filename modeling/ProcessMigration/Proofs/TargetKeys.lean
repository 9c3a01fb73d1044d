import ProcessMigration.Key
import ProcessMigration.Target.State

/-!
# Keys are never used again

A `KeyAllocator` has **passed** the keys of its partition below the next one: those that it has
handed out and those that it was told of. A key that it hands out was not passed before and is then,
so keys are distinct from each other and from all that were known.

* `Key.IsPartition.partition_add` and `Key.IsPartition.local_add`: a partition and a number inside it
  can be read off the key that they make;
* `KeyAllocator.passed_resumeAfter`: an allocator has passed what it was told of;
* `KeyAllocator.Draws`: the keys drawn between two conditions of an allocator are new and distinct;
* `KeyAllocator.draws_next?`: drawing a key is such a step.
-/

namespace ProcessMigration

/-! ## Keys of a partition -/

namespace Key

variable {p n key : Int}

/-- A partition that a key of 64 bits can have. -/
structure IsPartition (p : Int) : Prop where
  first : -4096 ≤ p
  last : p ≤ 4095

/-- A number inside a partition. -/
structure IsLocal (n : Int) : Prop where
  first : 0 ≤ n
  last : n < span

theorem isLocal_local (key : Int) : IsLocal (Key.local key) := by
  constructor
  · unfold Key.local span
    omega
  · unfold Key.local span
    omega

/-- A key is its partition's first number and its own number inside the partition. -/
theorem partition_span_add_local (key : Int) : partition key * span + Key.local key = key := by
  unfold partition Key.local span
  omega

theorem isPartition_journal : IsPartition journalPartition := ⟨by decide, by decide⟩

/-- No bit of a partition is lost when it moves to the top of a key. -/
theorem IsPartition.base_eq (h : IsPartition p) : base p = p * span := by
  have hfirst := h.first
  have hlast := h.last
  unfold base span
  rw [Int.bmod_def]
  split <;> omega

theorem IsPartition.partition_add (h : IsPartition p) (hn : IsLocal n) :
    partition (base p + n) = p := by
  have hfirst := hn.first
  have hlast := hn.last
  rw [h.base_eq]
  unfold partition
  unfold span at *
  omega

theorem IsPartition.local_add (h : IsPartition p) (hn : IsLocal n) :
    Key.local (base p + n) = n := by
  have hfirst := hn.first
  have hlast := hn.last
  rw [h.base_eq]
  unfold Key.local
  unfold span at *
  omega

/-- Every key of a partition is one of 64 bits. -/
theorem IsPartition.fits (h : IsPartition p) (hn : IsLocal n) :
    -limit ≤ base p + n ∧ base p + n < limit := by
  have hfirst := h.first
  have hlast := h.last
  have hfirst' := hn.first
  have hlast' := hn.last
  rw [h.base_eq]
  unfold limit
  unfold span at *
  omega

end Key

namespace KeyAllocator

variable {a a' a'' : KeyAllocator} {key key' : Int} {keys keys' : List Int}

/-- The allocator never hands out this key any more. -/
def Passed (a : KeyAllocator) (key : Int) : Prop :=
  Key.partition key = a.partition ∧ Key.local key < a.nextLocal

/-- The allocator of a journal, somewhere in its partition. -/
structure Within (a : KeyAllocator) : Prop where
  partition : a.partition = journalPartition
  first : 1 ≤ a.nextLocal
  last : a.nextLocal ≤ Key.span

/-! ## Keys that are known -/

@[simp] theorem partition_resumeAfter (a : KeyAllocator) (key : Int) :
    (a.resumeAfter key).partition = a.partition := by
  unfold resumeAfter
  split <;> rfl

theorem nextLocal_le_resumeAfter (a : KeyAllocator) (key : Int) :
    a.nextLocal ≤ (a.resumeAfter key).nextLocal := by
  unfold resumeAfter
  split
  · next h =>
    show a.nextLocal ≤ Key.local key + 1
    omega
  · exact Int.le_refl _

theorem Passed.mono (h : a.Passed key) (hpartition : a'.partition = a.partition)
    (hnext : a.nextLocal ≤ a'.nextLocal) : a'.Passed key :=
  ⟨h.1.trans hpartition.symm, Int.lt_of_lt_of_le h.2 hnext⟩

theorem Passed.resumeAfter (h : a.Passed key) (key' : Int) : (a.resumeAfter key').Passed key :=
  h.mono (partition_resumeAfter a key') (nextLocal_le_resumeAfter a key')

theorem passed_resumeAfter (h : Key.partition key = a.partition) :
    (a.resumeAfter key).Passed key := by
  unfold KeyAllocator.resumeAfter
  split
  · refine ⟨h, ?_⟩
    show Key.local key < Key.local key + 1
    omega
  · next hnot =>
    refine ⟨h, ?_⟩
    have hless : ¬a.nextLocal ≤ Key.local key := fun hle => hnot ⟨h, hle⟩
    omega

theorem Within.resumeAfter (h : a.Within) (key : Int) : (a.resumeAfter key).Within := by
  have hlocal := Key.isLocal_local key
  refine ⟨by rw [partition_resumeAfter, h.partition], ?_, ?_⟩
  · exact Int.le_trans h.first (nextLocal_le_resumeAfter a key)
  · unfold KeyAllocator.resumeAfter
    split
    · exact hlocal.last
    · exact h.last

/-- Passes over keys one after the other. -/
def resumeAfterAll (a : KeyAllocator) (keys : List Int) : KeyAllocator :=
  keys.foldl (fun a key => a.resumeAfter key) a

theorem nextLocal_le_resumeAfterAll (a : KeyAllocator) (keys : List Int) :
    a.nextLocal ≤ (a.resumeAfterAll keys).nextLocal := by
  induction keys generalizing a with
  | nil => exact Int.le_refl _
  | cons key rest ih => exact Int.le_trans (nextLocal_le_resumeAfter a key) (ih (a.resumeAfter key))

theorem Within.resumeAfterAll (h : a.Within) (keys : List Int) : (a.resumeAfterAll keys).Within := by
  induction keys generalizing a with
  | nil => exact h
  | cons key rest ih => exact ih (h.resumeAfter key)

theorem Passed.resumeAfterAll (h : a.Passed key) (keys : List Int) :
    (a.resumeAfterAll keys).Passed key := by
  induction keys generalizing a with
  | nil => exact h
  | cons key' rest ih => exact ih (h.resumeAfter key')

theorem passed_resumeAfterAll (hkey : key ∈ keys) (h : Key.partition key = a.partition) :
    (a.resumeAfterAll keys).Passed key := by
  induction keys generalizing a with
  | nil => cases hkey
  | cons key' rest ih =>
    rcases List.mem_cons.1 hkey with rfl | hkey
    · exact (passed_resumeAfter h).resumeAfterAll rest
    · exact ih hkey (by rw [partition_resumeAfter, h])

/-- An allocator need not be told of keys that it has passed. -/
theorem resumeAfterAll_of_passed (h : ∀ key ∈ keys, a.Passed key) : a.resumeAfterAll keys = a := by
  induction keys with
  | nil => rfl
  | cons key rest ih =>
    have hsame : a.resumeAfter key = a := by
      have hpassed := (h key List.mem_cons_self).2
      unfold resumeAfter
      rw [if_neg]
      omega
    show (a.resumeAfter key).resumeAfterAll rest = a
    rw [hsame]
    exact ih fun key' hkey => h key' (List.mem_cons_of_mem key hkey)

/-! ## Keys that are drawn -/

/-- Between the two conditions these keys were drawn. -/
structure Draws (a a' : KeyAllocator) (keys : List Int) : Prop where
  partition : a'.partition = a.partition
  nextLocal : a'.nextLocal = a.nextLocal + keys.length
  within : a.Within → a'.Within
  fresh : a.Within → ∀ key ∈ keys, ¬a.Passed key ∧ a'.Passed key
  nodup : a.Within → keys.Nodup

theorem Draws.refl (a : KeyAllocator) : Draws a a [] where
  partition := rfl
  nextLocal := by simp
  within h := h
  fresh _ _ hkey := by cases hkey
  nodup _ := .nil

theorem Draws.keepsPassed (h : Draws a a' keys) (hkey : a.Passed key) : a'.Passed key := by
  refine hkey.mono h.partition ?_
  have hnext := h.nextLocal
  omega

theorem Draws.trans (h : Draws a a' keys) (h' : Draws a' a'' keys') :
    Draws a a'' (keys ++ keys') where
  partition := h'.partition.trans h.partition
  nextLocal := by
    rw [h'.nextLocal, h.nextLocal, List.length_append]
    omega
  within ha := h'.within (h.within ha)
  fresh ha key hkey := by
    rcases List.mem_append.1 hkey with hkey | hkey
    · obtain ⟨hnew, hpassed⟩ := h.fresh ha key hkey
      exact ⟨hnew, h'.keepsPassed hpassed⟩
    · obtain ⟨hnew, hpassed⟩ := h'.fresh (h.within ha) key hkey
      exact ⟨fun hold => hnew (h.keepsPassed hold), hpassed⟩
  nodup ha := by
    refine List.nodup_append.2 ⟨h.nodup ha, h'.nodup (h.within ha), ?_⟩
    rintro key hkey _ hkey' rfl
    exact (h'.fresh (h.within ha) key hkey').1 (h.fresh ha key hkey).2

/-- The keys of the journal's partition, by their local numbers. -/
theorem journal_key {n : Int} (hn : Key.IsLocal n) :
    Key.partition (Key.base journalPartition + n) = journalPartition ∧
      Key.local (Key.base journalPartition + n) = n :=
  ⟨Key.isPartition_journal.partition_add hn, Key.isPartition_journal.local_add hn⟩

theorem draws_next? (h : a.next? = some (key, a')) : Draws a a' [key] := by
  unfold next? at h
  split at h
  · next hroom =>
    cases h
    have hkey : a.Within → Key.partition (Key.base a.partition + a.nextLocal) = a.partition ∧
        Key.local (Key.base a.partition + a.nextLocal) = a.nextLocal := by
      intro ha
      have hfirst := ha.first
      rw [ha.partition]
      exact journal_key ⟨by omega, hroom⟩
    refine ⟨rfl, rfl, ?_, ?_, fun _ => by simp⟩
    · intro ha
      refine ⟨ha.partition, ?_, ?_⟩
      · have hfirst := ha.first
        show 1 ≤ a.nextLocal + 1
        omega
      · show a.nextLocal + 1 ≤ Key.span
        omega
    · intro ha key hmem
      rw [List.mem_singleton.1 hmem]
      obtain ⟨hpartition, hlocal⟩ := hkey ha
      refine ⟨?_, hpartition, ?_⟩
      · intro hpassed
        have hless := hpassed.2
        omega
      · rw [hlocal]
        show a.nextLocal < a.nextLocal + 1
        omega
  · cases h

end KeyAllocator
end ProcessMigration
