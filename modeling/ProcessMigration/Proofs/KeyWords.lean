import ProcessMigration.Key.Calls
import ProcessMigration.Proofs.TargetKeys

/-!
# Keys as words and keys as numbers

A key has 64 bits and a sign, and so there are the partitions from -4096 to 4095. Shift and mask
compute on the word of a key what quotient and remainder are of its number. Joining a partition and
a local key never overflows, not even for the last key of the last partition.

* `KeyWord.toInt_partition` and `KeyWord.toInt_local`: splitting a word splits its number;
* `KeyWord.compose?_split`: joining what a word was split into gives the word back;
* `KeyWord.compose?_of_numbers`: joining words joins their numbers;
* `WordAllocator.run?_eq`: an allocator on words does what one on numbers does.
-/

namespace ProcessMigration

/-! ## Words -/

theorem Key.isPartition_partition (key : BitVec 64) : IsPartition (partition key.toInt) := by
  have hfirst := BitVec.le_toInt key
  have hlast := BitVec.toInt_lt (x := key)
  constructor
  · unfold partition span
    omega
  · unfold partition span
    omega

namespace KeyWord

open Key (IsPartition IsLocal)

variable {p n x y : BitVec 64}

/-- An arithmetic shift to the right divides and rounds down. -/
theorem toInt_partition (key : BitVec 64) : (partition key).toInt = Key.partition key.toInt := by
  unfold partition
  rw [BitVec.toInt_sshiftRight, Int.shiftRight_eq_div_pow]
  rfl

theorem toNat_local (key : BitVec 64) :
    (KeyWord.local key).toNat = key.toNat % 0x8000000000000 := by
  have hmask : mask.toNat = Nat.pow 2 51 - 1 := by decide
  unfold KeyWord.local
  rw [BitVec.toNat_and, hmask]
  exact Nat.and_two_pow_sub_one_eq_mod _ 51

/-- The low bits of a word are the remainder of its number, also for a negative one. -/
theorem toInt_local (key : BitVec 64) : (KeyWord.local key).toInt = Key.local key.toInt := by
  have hlocal := toNat_local key
  have hlt := key.isLt
  rw [BitVec.toInt_eq_toNat_of_lt (by omega), hlocal, BitVec.toInt_eq_toNat_cond]
  unfold Key.local Key.span
  split <;> omega

/-- A shift to the left loses the bits that the numbers lose modulo 2^64. -/
theorem toInt_shiftLeft (p : BitVec 64) : (p <<< 51).toInt = Key.base p.toInt := by
  rw [BitVec.toInt_shiftLeft, Nat.shiftLeft_eq, BitVec.toInt_eq_toNat_cond]
  unfold Key.base Key.span
  rw [Int.bmod_def, Int.bmod_def]
  split <;> omega

/-- A sum that is a key does not overflow. -/
theorem add?_of_fits (h : -Key.limit ≤ x.toInt + y.toInt) (h' : x.toInt + y.toInt < Key.limit) :
    add? x y = some (x + y) ∧ (x + y).toInt = x.toInt + y.toInt := by
  have hno : ¬x.saddOverflow y := by
    unfold Key.limit at h h'
    simp only [BitVec.saddOverflow, Bool.or_eq_true, decide_eq_true_eq]
    omega
  constructor
  · exact if_neg hno
  · exact BitVec.toInt_add_of_not_saddOverflow hno

/-- Joining words joins their numbers, and never overflows. -/
theorem compose?_of_numbers (hp : IsPartition p.toInt) (hn : IsLocal n.toInt) :
    ∃ key, compose? p n = some key ∧ key.toInt = Key.base p.toInt + n.toInt := by
  have hfits := hp.fits hn
  rw [← toInt_shiftLeft] at hfits ⊢
  exact ⟨_, add?_of_fits hfits.1 hfits.2⟩

/-- Joining what a word was split into gives the word back. -/
theorem compose?_split (key : BitVec 64) :
    compose? (partition key) (KeyWord.local key) = some key := by
  have hp : IsPartition (partition key).toInt := by
    rw [toInt_partition]
    exact Key.isPartition_partition key
  have hn : IsLocal (KeyWord.local key).toInt := by
    rw [toInt_local]
    exact Key.isLocal_local key.toInt
  rcases compose?_of_numbers hp hn with ⟨key', hkey', hnumber⟩
  rw [hp.base_eq, toInt_partition, toInt_local, Key.partition_span_add_local] at hnumber
  rw [hkey', BitVec.eq_of_toInt_eq hnumber]

/-- Splitting what two words were joined into gives the two back. -/
theorem split_compose? (hp : IsPartition p.toInt) (hn : IsLocal n.toInt) :
    ∃ key, compose? p n = some key ∧ partition key = p ∧ KeyWord.local key = n := by
  rcases compose?_of_numbers hp hn with ⟨key, hkey, hnumber⟩
  refine ⟨key, hkey, BitVec.eq_of_toInt_eq ?_, BitVec.eq_of_toInt_eq ?_⟩
  · rw [toInt_partition, hnumber, hp.partition_add hn]
  · rw [toInt_local, hnumber, hp.local_add hn]

theorem toInt_ofInt_partition {p : Int} (hp : IsPartition p) : (BitVec.ofInt 64 p).toInt = p := by
  have hfirst := hp.first
  have hlast := hp.last
  rw [BitVec.toInt_ofInt, Int.bmod_def]
  split <;> omega

theorem toInt_ofInt_local {n : Int} (hn : IsLocal n) : (BitVec.ofInt 64 n).toInt = n := by
  have hfirst := hn.first
  have hlast := hn.last
  unfold Key.span at hlast
  rw [BitVec.toInt_ofInt, Int.bmod_def]
  split <;> omega

end KeyWord

/-! ## Allocators -/

namespace KeyAllocator

/-- The allocator is in a partition of the keys, and its next number is in it or just behind. -/
structure InRange (a : KeyAllocator) : Prop where
  partition : Key.IsPartition a.partition
  first : 1 ≤ a.nextLocal
  last : a.nextLocal ≤ Key.span

theorem resumeAfter_of_ahead {a : KeyAllocator} {key : Int}
    (h : Key.partition key = a.partition ∧ a.nextLocal ≤ Key.local key) :
    a.resumeAfter key = { a with nextLocal := Key.local key + 1 } :=
  if_pos h

theorem resumeAfter_of_behind {a : KeyAllocator} {key : Int}
    (h : ¬(Key.partition key = a.partition ∧ a.nextLocal ≤ Key.local key)) :
    a.resumeAfter key = a :=
  if_neg h

theorem InRange.resumeAfter {a : KeyAllocator} (h : a.InRange) (key : Int) :
    (a.resumeAfter key).InRange := by
  by_cases hahead : Key.partition key = a.partition ∧ a.nextLocal ≤ Key.local key
  · have hlocal := Key.isLocal_local key
    rw [resumeAfter_of_ahead hahead]
    constructor
    · exact h.partition
    · show 1 ≤ Key.local key + 1
      have hfirst := hlocal.first
      omega
    · exact hlocal.last
  · rw [resumeAfter_of_behind hahead]
    exact h

/-- An allocator in range has a next number that is one of its partition, or none. -/
theorem InRange.isLocal {a : KeyAllocator} (h : a.InRange) (hroom : a.nextLocal < Key.span) :
    Key.IsLocal a.nextLocal :=
  ⟨Int.le_trans (by decide) h.first, hroom⟩

theorem next?_of_room {a : KeyAllocator} (h : a.nextLocal < Key.span) :
    a.next? = some (Key.base a.partition + a.nextLocal,
      { a with nextLocal := a.nextLocal + 1 }) :=
  if_pos h

theorem next?_eq_none {a : KeyAllocator} : a.next? = none ↔ ¬a.nextLocal < Key.span := by
  constructor
  · intro hnone hroom
    rw [next?_of_room hroom] at hnone
    cases hnone
  · intro hfull
    exact if_neg hfull

theorem take_next_of_room {a : KeyAllocator} (h : a.nextLocal < Key.span) :
    a.take .next = (.drawn (Key.base a.partition + a.nextLocal),
      { a with nextLocal := a.nextLocal + 1 }) := by
  unfold take
  rw [next?_of_room h]

theorem take_next_of_none {a : KeyAllocator} (h : a.next? = none) :
    a.take .next = (.usedUp, a) := by
  unfold take
  rw [h]

theorem InRange.take {a : KeyAllocator} (h : a.InRange) (call : KeyCall) :
    (a.take call).2.InRange := by
  cases call with
  | resumeAfter key => exact h.resumeAfter key.toInt
  | next =>
    by_cases hroom : a.nextLocal < Key.span
    · rw [take_next_of_room hroom]
      constructor
      · exact h.partition
      · show 1 ≤ a.nextLocal + 1
        have hfirst := h.first
        omega
      · exact hroom
    · rw [take_next_of_none (next?_eq_none.2 hroom)]
      exact h

end KeyAllocator

namespace WordAllocator

variable {a : WordAllocator}

/-- The allocator on numbers that this one stands for. -/
def numbers (a : WordAllocator) : KeyAllocator := ⟨a.partition.toInt, a.nextLocal.toInt⟩

theorem add_one (n : BitVec 64) (hfirst : 0 ≤ n.toInt) (hlast : n.toInt < Key.span) :
    ∃ n', KeyWord.add? n 1 = some n' ∧ n'.toInt = n.toInt + 1 := by
  have hone : (1 : BitVec 64).toInt = 1 := by decide
  have hsum : n.toInt + (1 : BitVec 64).toInt = n.toInt + 1 := by rw [hone]
  rw [← hsum]
  unfold Key.span at hlast
  refine ⟨_, KeyWord.add?_of_fits ?_ ?_⟩
  · rw [hone]
    unfold Key.limit
    omega
  · rw [hone]
    unfold Key.limit
    omega

/-- Being told of a key is the same on words. -/
theorem resumeAfter?_eq (a : WordAllocator) (key : BitVec 64) :
    ∃ a', a.resumeAfter? key = some a' ∧ a'.numbers = a.numbers.resumeAfter key.toInt := by
  have hpartition : KeyWord.partition key = a.partition ↔
      Key.partition key.toInt = a.numbers.partition := by
    rw [← KeyWord.toInt_partition]
    exact BitVec.toInt_inj.symm
  have horder : a.nextLocal.sle (KeyWord.local key) ↔
      a.numbers.nextLocal ≤ Key.local key.toInt := by
    rw [BitVec.sle_iff_toInt_le, KeyWord.toInt_local]
    rfl
  unfold resumeAfter?
  by_cases hmine : KeyWord.partition key = a.partition
  · rw [if_neg fun hother => hother hmine]
    by_cases hle : a.nextLocal.sle (KeyWord.local key)
    · -- the one place where the next number moves, by an addition to a local key
      have hlocal := Key.isLocal_local key.toInt
      rw [← KeyWord.toInt_local] at hlocal
      rcases add_one _ hlocal.first hlocal.last with ⟨n, hadd, hnumber⟩
      rw [KeyAllocator.resumeAfter_of_ahead ⟨hpartition.1 hmine, horder.1 hle⟩]
      simp only [if_pos hle, hadd]
      refine ⟨{ a with nextLocal := n }, rfl, ?_⟩
      unfold numbers
      rw [hnumber, KeyWord.toInt_local]
    · rw [KeyAllocator.resumeAfter_of_behind fun h => hle (horder.2 h.2)]
      simp only [if_neg hle]
      exact ⟨a, rfl, rfl⟩
  · rw [if_pos hmine, KeyAllocator.resumeAfter_of_behind fun h => hmine (hpartition.2 h.1)]
    exact ⟨a, rfl, rfl⟩

/-- Handing out a key is the same on words. -/
theorem take?_next (h : a.numbers.InRange) :
    ∃ a', a.take? .next = some ((a.numbers.take .next).1, a') ∧
      a'.numbers = (a.numbers.take .next).2 := by
  have hmask : KeyWord.mask.toInt = Key.span - 1 := by decide
  have hfull : KeyWord.mask.slt a.nextLocal ↔ ¬a.numbers.nextLocal < Key.span := by
    rw [BitVec.slt_iff_toInt_lt, hmask]
    show Key.span - 1 < a.numbers.nextLocal ↔ _
    omega
  unfold take? next?
  by_cases hroom : a.numbers.nextLocal < Key.span
  · have hlocal := h.isLocal hroom
    rcases KeyWord.compose?_of_numbers h.partition hlocal with ⟨key, hkey, hnumber⟩
    rcases add_one a.nextLocal hlocal.first hlocal.last with ⟨n, hadd, hnext⟩
    rw [KeyAllocator.take_next_of_room hroom]
    simp only [if_neg (fun hf => hfull.1 hf hroom), hkey, hadd]
    refine ⟨{ a with nextLocal := n }, ?_, ?_⟩
    · show some _ = some _
      rw [hnumber]
      rfl
    · unfold numbers
      rw [hnext]
  · rw [KeyAllocator.take_next_of_none (KeyAllocator.next?_eq_none.2 hroom)]
    simp only [if_pos (hfull.2 hroom)]
    exact ⟨_, rfl, rfl⟩

/-- One call does the same on words. -/
theorem take?_eq (h : a.numbers.InRange) (call : KeyCall) :
    ∃ a', a.take? call = some ((a.numbers.take call).1, a') ∧
      a'.numbers = (a.numbers.take call).2 := by
  cases call with
  | resumeAfter key =>
    rcases a.resumeAfter?_eq key with ⟨a', ha', hnumbers⟩
    refine ⟨a', ?_, hnumbers⟩
    show (a.resumeAfter? key).bind _ = _
    rw [ha']
    rfl
  | next => exact take?_next h

/-- An allocator on words does what one on numbers does: no addition overflows in any run. -/
theorem run?_eq (h : a.numbers.InRange) (calls : List KeyCall) :
    ∃ a', a.run? calls = some ((a.numbers.run calls).1, a') ∧
      a'.numbers = (a.numbers.run calls).2 := by
  induction calls generalizing a with
  | nil => exact ⟨a, rfl, rfl⟩
  | cons call rest ih =>
    rcases take?_eq h call with ⟨a', ha', hnumbers⟩
    rcases ih (hnumbers ▸ h.take call) with ⟨a'', ha'', hnumbers'⟩
    rw [hnumbers] at ha'' hnumbers'
    refine ⟨a'', ?_, hnumbers'⟩
    show (a.take? call).bind _ = _
    rw [ha']
    show (a'.run? rest).bind _ = _
    rw [ha'']
    rfl

end WordAllocator
end ProcessMigration
