/-!
# Keys of the target engine

A key is a signed number of 64 bits: a partition above, a number local to it in the low 51 bits. A
`KeyAllocator` hands out the keys of one partition in ascending order.

* `Key.compose?` joins a partition and a local number, `Key.partition` and `Key.local` split a key;
* `KeyAllocator.next?` hands out a key while there is one, `KeyAllocator.resumeAfter` passes over
  the keys up to a given one.
-/

namespace ProcessMigration

namespace Key

/-- The number of local keys of a partition: they have 51 bits. -/
def span : Int := 0x8000000000000

/-- The partition of a key. -/
def partition (key : Int) : Int := key / span

/-- The number of a key inside its partition. -/
def «local» (key : Int) : Int := key % span

/-- The first number of a partition; bits past the 64 of a key are lost. -/
def base (partition : Int) : Int := (partition * span).bmod 0x10000000000000000

/-- The first number past the keys, which have 64 bits with their sign. -/
def limit : Int := 0x8000000000000000

/-- Joins a partition and a local number, unless the sum is past the keys. -/
def compose? (partition localKey : Int) : Option Int :=
  let key := base partition + localKey
  if -limit ≤ key ∧ key < limit then some key else none

/-- The partition that no target engine uses, kept for keys of the migrator itself. -/
def migratorPartition : Int := 99

/-- The key was made by the migrator. -/
def isMigrator (key : Int) : Bool := partition key == migratorPartition

end Key

/-- Hands out the keys of a partition. Local keys start at one. -/
structure KeyAllocator where
  partition : Int
  nextLocal : Int
  deriving DecidableEq, Repr

namespace KeyAllocator

/-- An allocator that has handed out nothing yet. -/
def forPartition (partition : Int) : KeyAllocator := ⟨partition, 1⟩

/-- Passes over this key and all keys below it. Keys of other partitions are ignored. -/
def resumeAfter (a : KeyAllocator) (key : Int) : KeyAllocator :=
  if Key.partition key = a.partition ∧ a.nextLocal ≤ Key.local key then
    { a with nextLocal := Key.local key + 1 }
  else a

/-- The next key, unless the partition is used up. -/
def next? (a : KeyAllocator) : Option (Int × KeyAllocator) :=
  if a.nextLocal < Key.span then
    some (Key.base a.partition + a.nextLocal, { a with nextLocal := a.nextLocal + 1 })
  else none

end KeyAllocator
end ProcessMigration
