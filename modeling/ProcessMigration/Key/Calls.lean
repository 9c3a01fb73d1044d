import ProcessMigration.Key

/-!
# An allocator in the hands of its owner

The owner of an allocator tells it of keys and asks it for the next one, in any order. Keys are
machine words of 64 bits with a sign. A second allocator computes on such words by shift, mask and
machine addition; an addition that overflows breaks the run off.

* `KeyCall` is a call and `KeyEvent` what came of it;
* `KeyAllocator.run` makes calls in order, on numbers;
* `WordAllocator.run?` makes them on words, as far as no addition overflows.
-/

namespace ProcessMigration

/-- A call of the owner. -/
inductive KeyCall where
  | resumeAfter (key : BitVec 64)
  | next
  deriving DecidableEq, Repr

/-- What came of a call: the allocator was told of a key, has handed one out, or had none left. -/
inductive KeyEvent where
  | told (key : Int)
  | drawn (key : Int)
  | usedUp
  deriving DecidableEq, Repr

/-! ## On numbers -/

namespace KeyAllocator

/-- Makes a call. -/
def take (a : KeyAllocator) : KeyCall → KeyEvent × KeyAllocator
  | .resumeAfter key => (.told key.toInt, a.resumeAfter key.toInt)
  | .next =>
    match a.next? with
    | some (key, a') => (.drawn key, a')
    | none => (.usedUp, a)

/-- Makes calls in order. -/
def run (a : KeyAllocator) : List KeyCall → List KeyEvent × KeyAllocator
  | [] => ([], a)
  | call :: rest =>
    let (event, a') := a.take call
    let (events, a'') := a'.run rest
    (event :: events, a'')

end KeyAllocator

/-! ## On words -/

namespace KeyWord

/-- The partition of a key: its bits from the 51st on, with its sign. -/
def partition (key : BitVec 64) : BitVec 64 := key.sshiftRight 51

/-- The bits of a local key. -/
def mask : BitVec 64 := (1#64 <<< 51) - 1#64

/-- The number of a key inside its partition: its low bits. -/
def «local» (key : BitVec 64) : BitVec 64 := key &&& mask

/-- The sum, unless it overflows as a number with a sign. -/
def add? (x y : BitVec 64) : Option (BitVec 64) :=
  if x.saddOverflow y then none else some (x + y)

/-- Joins a partition and a local number. Bits that a shift moves out are lost without an
overflow. -/
def compose? (partition localKey : BitVec 64) : Option (BitVec 64) :=
  add? (partition <<< 51) localKey

end KeyWord

/-- Hands out the keys of a partition, by computing on words. -/
structure WordAllocator where
  partition : BitVec 64
  nextLocal : BitVec 64
  deriving DecidableEq, Repr

namespace WordAllocator

/-- An allocator that has handed out nothing yet. -/
def forPartition (partition : BitVec 64) : WordAllocator := ⟨partition, 1⟩

/-- Passes over this key and all keys below it. -/
def resumeAfter? (a : WordAllocator) (key : BitVec 64) : Option WordAllocator := do
  if KeyWord.partition key ≠ a.partition then return a
  let localKey := KeyWord.local key
  if a.nextLocal.sle localKey then
    let nextLocal ← KeyWord.add? localKey 1
    return { a with nextLocal }
  return a

/-- The next key, or nothing when the partition is used up. -/
def next? (a : WordAllocator) : Option (Option (BitVec 64) × WordAllocator) := do
  if KeyWord.mask.slt a.nextLocal then return (none, a)
  let key ← KeyWord.compose? a.partition a.nextLocal
  let nextLocal ← KeyWord.add? a.nextLocal 1
  return (some key, { a with nextLocal })

/-- Makes a call, unless an addition overflows. -/
def take? (a : WordAllocator) : KeyCall → Option (KeyEvent × WordAllocator)
  | .resumeAfter key => do
    let a' ← a.resumeAfter? key
    return (.told key.toInt, a')
  | .next => do
    let (key?, a') ← a.next?
    match key? with
    | some key => return (.drawn key.toInt, a')
    | none => return (.usedUp, a')

/-- Makes calls in order, unless an addition overflows. -/
def run? (a : WordAllocator) : List KeyCall → Option (List KeyEvent × WordAllocator)
  | [] => some ([], a)
  | call :: rest => do
    let (event, a') ← a.take? call
    let (events, a'') ← a'.run? rest
    return (event :: events, a'')

end WordAllocator
end ProcessMigration
