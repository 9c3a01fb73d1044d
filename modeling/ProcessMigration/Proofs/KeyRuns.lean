import ProcessMigration.Proofs.KeyWords

/-!
# Keys over any run

Whatever an allocator is told and however often it is asked, the keys that it hands out ascend past
everything that it knows, until the last key of its partition is known. The invariant is that the
next number lies above all known keys, and just above one of them.

* `KeyAllocator.Knows`: the invariant;
* `KeyAllocator.Knows.take` and `KeyAllocator.Knows.run`: a call keeps it, and so does a run;
* `KeyAllocator.Knows.drawn`: a key that is handed out in a run is greater than what was known then;
* `KeyAllocator.Knows.next?_eq_none_iff`: when there is no next key;
* `KeyAllocator.run_keeps_its_partition`: all of it, for every partition and every run.
-/

namespace ProcessMigration

/-! ## What is known -/

namespace Key

variable {p key key' : Int}

/-- The last key of a partition. -/
def lastOf (p : Int) : Int := base p + (span - 1)

theorem isLocal_last : IsLocal (span - 1) := ⟨by decide, by decide⟩

theorem IsPartition.eq_lastOf (h : IsPartition p) (hkey : partition key = p)
    (hlocal : Key.local key + 1 = span) : key = lastOf p := by
  have hsum := partition_span_add_local key
  unfold lastOf
  rw [h.base_eq]
  rw [hkey] at hsum
  omega

theorem IsPartition.le_lastOf (h : IsPartition p) (hkey : partition key = p) :
    key ≤ lastOf p := by
  have hsum := partition_span_add_local key
  have hlast := (isLocal_local key).last
  unfold lastOf
  rw [h.base_eq]
  rw [hkey] at hsum
  omega

theorem lt_of_local_lt (h : partition key = partition key')
    (hlocal : Key.local key < Key.local key') : key < key' := by
  have hsum := partition_span_add_local key
  have hsum' := partition_span_add_local key'
  rw [h] at hsum
  omega

end Key

/-- What is said of a key that is handed out: it has 64 bits, lies in the partition, and is greater
than the known keys. -/
structure Key.IsNew (p : Int) (known : List Int) (key : Int) : Prop where
  fits : -limit ≤ key ∧ key < limit
  partition : Key.partition key = p
  greater : ∀ key' ∈ known, key' < key

/-- The keys of a partition that become known by an event. -/
def KeyEvent.keys (p : Int) : KeyEvent → List Int
  | .told key => if Key.partition key = p then [key] else []
  | .drawn key => [key]
  | .usedUp => []

theorem KeyEvent.keys_told_mine {p key : Int} (h : Key.partition key = p) :
    (KeyEvent.told key).keys p = [key] :=
  if_pos h

theorem KeyEvent.keys_told_other {p key : Int} (h : Key.partition key ≠ p) :
    (KeyEvent.told key).keys p = [] :=
  if_neg h

/-- The keys of a partition that are known after these events. -/
def KeyEvent.known (p : Int) (events : List KeyEvent) : List Int := events.flatMap (KeyEvent.keys p)

namespace KeyAllocator

variable {a : KeyAllocator} {known : List Int} {p key : Int}

@[simp] theorem partition_take (a : KeyAllocator) (call : KeyCall) :
    (a.take call).2.partition = a.partition := by
  cases call with
  | resumeAfter key => exact partition_resumeAfter a key.toInt
  | next =>
    by_cases hroom : a.nextLocal < Key.span
    · rw [take_next_of_room hroom]
    · rw [take_next_of_none (next?_eq_none.2 hroom)]

/-- The allocator hands out keys above the known ones, and the least such key is the next. -/
structure Knows (a : KeyAllocator) (known : List Int) : Prop where
  range : a.InRange
  passed : ∀ key ∈ known, a.Passed key
  least : a.nextLocal = 1 ∨ ∃ key ∈ known, Key.local key + 1 = a.nextLocal

theorem knows_forPartition (hp : Key.IsPartition p) : (forPartition p).Knows [] where
  range := ⟨hp, Int.le_refl 1, show (1 : Int) ≤ Key.span by decide⟩
  passed _ hkey := by cases hkey
  least := .inl rfl

namespace Knows

/-- The invariant, with one more key that the next number lies just above. -/
theorem extend (h : a.Knows known) {a' : KeyAllocator} (hrange : a'.InRange)
    (hpartition : a'.partition = a.partition) (hnext : a.nextLocal ≤ a'.nextLocal)
    (hkey : Key.partition key = a.partition) (hlocal : Key.local key + 1 = a'.nextLocal) :
    a'.Knows (known ++ [key]) := by
  constructor
  · exact hrange
  · intro key' hkey'
    rcases List.mem_append.1 hkey' with hold | hnew
    · exact (h.passed key' hold).mono hpartition hnext
    · rw [List.mem_singleton.1 hnew]
      refine ⟨hkey.trans hpartition.symm, ?_⟩
      omega
  · exact .inr ⟨key, by simp, hlocal⟩

theorem resumeAfter (h : a.Knows known) (key : Int) :
    (a.resumeAfter key).Knows (known ++ (KeyEvent.told key).keys a.partition) := by
  by_cases hmine : Key.partition key = a.partition
  · rw [KeyEvent.keys_told_mine hmine]
    by_cases hle : a.nextLocal ≤ Key.local key
    · refine h.extend (h.range.resumeAfter key) (partition_resumeAfter a key)
        (nextLocal_le_resumeAfter a key) hmine ?_
      rw [resumeAfter_of_ahead ⟨hmine, hle⟩]
    · -- the key was passed already, and another one is the greatest
      rw [resumeAfter_of_behind fun hahead => hle hahead.2]
      constructor
      · exact h.range
      · intro key' hkey'
        rcases List.mem_append.1 hkey' with hold | hnew
        · exact h.passed key' hold
        · rw [List.mem_singleton.1 hnew]
          exact ⟨hmine, Int.not_le.1 hle⟩
      · refine h.least.imp_right ?_
        rintro ⟨key', hkey', hnext⟩
        exact ⟨key', List.mem_append_left _ hkey', hnext⟩
  · rw [KeyEvent.keys_told_other hmine, List.append_nil,
      resumeAfter_of_behind fun hahead => hmine hahead.1]
    exact h

/-- The key that is handed out lies in the partition and has the next number there. -/
theorem split_next (h : a.Knows known) (hroom : a.nextLocal < Key.span) :
    Key.partition (Key.base a.partition + a.nextLocal) = a.partition ∧
      Key.local (Key.base a.partition + a.nextLocal) = a.nextLocal :=
  ⟨h.range.partition.partition_add (h.range.isLocal hroom),
    h.range.partition.local_add (h.range.isLocal hroom)⟩

/-- A call keeps the invariant. -/
theorem take (h : a.Knows known) (call : KeyCall) :
    (a.take call).2.Knows (known ++ (a.take call).1.keys a.partition) := by
  cases call with
  | resumeAfter key => exact h.resumeAfter key.toInt
  | next =>
    have hrange := h.range.take .next
    have hpartition := partition_take a .next
    by_cases hroom : a.nextLocal < Key.span
    · rw [take_next_of_room hroom] at hrange hpartition ⊢
      rcases h.split_next hroom with ⟨hkey, hlocal⟩
      refine h.extend hrange hpartition ?_ hkey (by rw [hlocal])
      show a.nextLocal ≤ a.nextLocal + 1
      omega
    · rw [take_next_of_none (next?_eq_none.2 hroom)]
      show a.Knows (known ++ [])
      rw [List.append_nil]
      exact h

/-- A run keeps the invariant. -/
theorem run (h : a.Knows known) (calls : List KeyCall) :
    (a.run calls).2.Knows (known ++ KeyEvent.known a.partition (a.run calls).1) := by
  induction calls generalizing a known with
  | nil =>
    show a.Knows (known ++ [])
    rw [List.append_nil]
    exact h
  | cons call rest ih =>
    have hrest := ih (h.take call)
    rw [partition_take, List.append_assoc] at hrest
    exact hrest

/-- Of a key that a call hands out. -/
theorem isNew (h : a.Knows known) {call : KeyCall} (hevent : (a.take call).1 = .drawn key) :
    Key.IsNew a.partition known key := by
  cases call with
  | resumeAfter key' => cases hevent
  | next =>
    by_cases hroom : a.nextLocal < Key.span
    · rw [take_next_of_room hroom] at hevent
      cases hevent
      rcases h.split_next hroom with ⟨hpartition, hlocal⟩
      constructor
      · exact h.range.partition.fits (h.range.isLocal hroom)
      · exact hpartition
      · intro key' hkey'
        rcases h.passed key' hkey' with ⟨hpartition', hless⟩
        apply Key.lt_of_local_lt
        · rw [hpartition', hpartition]
        · rw [hlocal]
          exact hless
    · rw [take_next_of_none (next?_eq_none.2 hroom)] at hevent
      cases hevent

/-- Of every key that is handed out in a run, with what was known before it. -/
theorem drawn (h : a.Knows known) (calls : List KeyCall) {before rest : List KeyEvent}
    (hrun : (a.run calls).1 = before ++ .drawn key :: rest) :
    Key.IsNew a.partition (known ++ KeyEvent.known a.partition before) key := by
  induction calls generalizing a known before with
  | nil =>
    have hnone : [] = before ++ .drawn key :: rest := hrun
    simp at hnone
  | cons call calls ih =>
    have hsplit : (a.take call).1 :: ((a.take call).2.run calls).1 =
        before ++ .drawn key :: rest := hrun
    cases before with
    | nil =>
      -- the key comes from this very call
      have hevent : (a.take call).1 = .drawn key := (List.cons.inj hsplit).1
      show Key.IsNew a.partition (known ++ []) key
      rw [List.append_nil]
      exact h.isNew hevent
    | cons event before =>
      rcases List.cons.inj hsplit with ⟨rfl, htail⟩
      have hnew := ih (h.take call) htail
      rw [partition_take, List.append_assoc] at hnew
      exact hnew

/-- There is no next key as soon as the last one of the partition is known. -/
theorem next?_eq_none_iff (h : a.Knows known) :
    a.next? = none ↔ known.max? = some (Key.lastOf a.partition) := by
  rw [next?_eq_none, List.max?_eq_some_iff]
  constructor
  · intro hfull
    have hspan : a.nextLocal = Key.span := Int.le_antisymm h.range.last (Int.not_lt.1 hfull)
    constructor
    · -- an allocator that knows nothing still has its first number to give, so some key is known
      rcases h.least with hone | ⟨key, hkey, hnext⟩
      · rw [hone] at hspan
        exact absurd hspan (by decide)
      · have hlast := h.range.partition.eq_lastOf (h.passed key hkey).1 (hnext.trans hspan)
        exact hlast ▸ hkey
    · intro key hkey
      exact h.range.partition.le_lastOf (h.passed key hkey).1
  · -- the last key was passed like every known one, and no number is above it
    rintro ⟨hlast, _⟩ hroom
    have hless := (h.passed _ hlast).2
    unfold Key.lastOf at hless
    rw [h.range.partition.local_add Key.isLocal_last] at hless
    omega

end Knows

/-! ## Used up for good -/

/-- Without a next key there is none after one more call. -/
theorem next?_take_of_none (h : a.next? = none) (call : KeyCall) :
    (a.take call).2.next? = none := by
  cases call with
  | resumeAfter key =>
    have hmono := nextLocal_le_resumeAfter a key.toInt
    rw [next?_eq_none] at h
    apply next?_eq_none.2
    intro hroom
    exact h (Int.lt_of_le_of_lt hmono hroom)
  | next =>
    rw [take_next_of_none h]
    exact h

theorem next?_run_of_none (h : a.next? = none) (calls : List KeyCall) :
    (a.run calls).2.next? = none := by
  induction calls generalizing a with
  | nil => exact h
  | cons call rest ih => exact ih (next?_take_of_none h call)

theorem run_append (a : KeyAllocator) (calls more : List KeyCall) :
    (a.run (calls ++ more)).2 = ((a.run calls).2.run more).2 := by
  induction calls generalizing a with
  | nil => rfl
  | cons call rest ih => exact ih (a.take call).2

/-! ## All of it -/

/-- What an allocator of a partition keeps to in a run with these calls. -/
structure KeepsItsPartition (p : Int) (calls : List KeyCall) : Prop where
  /-- On words no addition overflows, and the same comes of it. -/
  words : ∃ a, (WordAllocator.forPartition (.ofInt 64 p)).run? calls =
    some (((forPartition p).run calls).1, a)
  /-- Keys are handed out above everything that is known of the partition. -/
  ascends : ∀ before key rest, ((forPartition p).run calls).1 = before ++ .drawn key :: rest →
    Key.IsNew p (KeyEvent.known p before) key
  /-- There is no next key if and only if the greatest known one is the last. -/
  used_up : ((forPartition p).run calls).2.next? = none ↔
    (KeyEvent.known p ((forPartition p).run calls).1).max? = some (Key.lastOf p)
  /-- Then there is none any more. -/
  stays_used_up : ((forPartition p).run calls).2.next? = none →
    ∀ more, ((forPartition p).run (calls ++ more)).2.next? = none
  /-- A key of another partition leaves the allocator as it is. -/
  foreign : ∀ key : BitVec 64, Key.partition key.toInt ≠ p →
    ((forPartition p).run (calls ++ [.resumeAfter key])).2 = ((forPartition p).run calls).2

theorem partition_run (a : KeyAllocator) (calls : List KeyCall) :
    (a.run calls).2.partition = a.partition := by
  induction calls generalizing a with
  | nil => rfl
  | cons call rest ih => exact (ih (a.take call).2).trans (partition_take a call)

theorem keepsItsPartition (hp : Key.IsPartition p) (calls : List KeyCall) :
    KeepsItsPartition p calls := by
  have hknows := (knows_forPartition hp).run calls
  have hpartition : ((forPartition p).run calls).2.partition = p := partition_run _ calls
  constructor
  case words =>
    have hnumbers : (WordAllocator.forPartition (.ofInt 64 p)).numbers = forPartition p := by
      unfold WordAllocator.numbers WordAllocator.forPartition
      rw [KeyWord.toInt_ofInt_partition hp]
      rfl
    rcases WordAllocator.run?_eq (hnumbers ▸ (knows_forPartition hp).range) calls with
      ⟨a, ha, _⟩
    rw [hnumbers] at ha
    exact ⟨a, ha⟩
  case ascends =>
    intro before key rest hrun
    exact (knows_forPartition hp).drawn calls hrun
  case used_up =>
    have hiff := hknows.next?_eq_none_iff
    rw [hpartition, List.nil_append] at hiff
    exact hiff
  case stays_used_up =>
    intro hnone more
    rw [run_append]
    exact next?_run_of_none hnone more
  case foreign =>
    intro key hother
    rw [run_append]
    apply resumeAfter_of_behind
    intro hahead
    exact hother (hahead.1.trans hpartition)

/-- The allocators of two partitions never hand out the same key. -/
theorem not_drawn_twice {q : Int} (hp : Key.IsPartition p) (hq : Key.IsPartition q) (hne : q ≠ p)
    {calls calls' : List KeyCall} (hkey : .drawn key ∈ ((forPartition p).run calls).1) :
    .drawn key ∉ ((forPartition q).run calls').1 := by
  intro hkey'
  rcases List.append_of_mem hkey with ⟨before, rest, hrun⟩
  rcases List.append_of_mem hkey' with ⟨before', rest', hrun'⟩
  have hmine := ((keepsItsPartition hp calls).ascends before key rest hrun).partition
  have htheirs := ((keepsItsPartition hq calls').ascends before' key rest' hrun').partition
  exact hne (htheirs.symm.trans hmine)

/-- Every run of an allocator of a partition keeps to the partition, those of two partitions have
no key in common, and splitting undoes joining as joining undoes splitting. -/
theorem run_keeps_its_partition (hp : Key.IsPartition p) :
    (∀ calls, KeepsItsPartition p calls) ∧
      (∀ q, Key.IsPartition q → q ≠ p → ∀ calls calls' key,
        .drawn key ∈ ((forPartition p).run calls).1 →
          .drawn key ∉ ((forPartition q).run calls').1) ∧
      (∀ key : BitVec 64,
        KeyWord.compose? (KeyWord.partition key) (KeyWord.local key) = some key) ∧
      ∀ n, Key.IsLocal n → ∃ key : BitVec 64,
        KeyWord.compose? (.ofInt 64 p) (.ofInt 64 n) = some key ∧
          (KeyWord.partition key).toInt = p ∧ (KeyWord.local key).toInt = n := by
  constructor
  · exact keepsItsPartition hp
  constructor
  · intro q hq hne calls calls' key
    exact not_drawn_twice hp hq hne
  constructor
  · exact KeyWord.compose?_split
  · intro n hn
    -- numbers in these ranges are not changed by writing them into words
    have hword := KeyWord.toInt_ofInt_partition hp
    have hword' := KeyWord.toInt_ofInt_local hn
    rcases KeyWord.split_compose? (hword.symm ▸ hp) (hword'.symm ▸ hn) with
      ⟨key, hkey, hpartition, hlocal⟩
    refine ⟨key, hkey, ?_, ?_⟩
    · rw [hpartition, hword]
    · rw [hlocal, hword']

/-- In the last partition the last key is the greatest of all keys. Behind it nothing is left. -/
theorem last_partition_keeps_to_its_end :
    Key.IsPartition 4095 ∧
      ((forPartition 4095).run [.resumeAfter 0x7ffffffffffffffe, .next, .next]).1 =
        [.told 0x7ffffffffffffffe, .drawn 0x7fffffffffffffff, .usedUp] ∧
      KeepsItsPartition 4095 [.resumeAfter 0x7ffffffffffffffe, .next, .next] ∧
      .drawn 0x7fffffffffffffff ∉ ((forPartition (-4096)).run [.next, .next]).1 ∧
      KeyWord.compose? (KeyWord.partition (-1)) (KeyWord.local (-1)) = some (-1) := by
  have hp : Key.IsPartition 4095 := ⟨by decide, by decide⟩
  have hq : Key.IsPartition (-4096) := ⟨by decide, by decide⟩
  have hrun : ((forPartition 4095).run [.resumeAfter 0x7ffffffffffffffe, .next, .next]).1 =
      [.told 0x7ffffffffffffffe, .drawn 0x7fffffffffffffff, .usedUp] := by decide
  rcases run_keeps_its_partition hp with ⟨hkeeps, hdistinct, hsplit, _⟩
  refine ⟨hp, hrun, hkeeps _, ?_, hsplit (-1)⟩
  apply hdistinct (-4096) hq (by decide) [.resumeAfter 0x7ffffffffffffffe, .next, .next]
  rw [hrun]
  exact List.mem_cons_of_mem _ List.mem_cons_self

end KeyAllocator
end ProcessMigration
