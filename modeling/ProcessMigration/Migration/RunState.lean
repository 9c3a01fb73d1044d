import ProcessMigration.Migration.Preparation
import ProcessMigration.Migration.Report

/-!
# The state of a run

While it runs, a migrator keeps what it has to hand over once the jobs of the started instances come
up, counts what it does, and prints. The state of the environment is a part of its state.

* `Pending` holds the activations by the keys of the target instances;
* `Output` is a text that may have room for so many bytes only;
* `Run.giveUp` forgets what still waits and warns of it;
* `Run` is the type of everything that a migrator does.
-/

namespace ProcessMigration

/-! ## Activations to be handed over -/

/-- What a started instance waits for. -/
structure HandOver where
  legacyId : String
  activations : List Activation

/-- What started instances wait for, by their keys. -/
structure Pending where
  entries : List (Int × HandOver)

namespace Pending

/-- Nothing waits. -/
def empty : Pending := ⟨[]⟩

instance : Inhabited Pending := ⟨empty⟩

/-- What the instance of a key waits for. -/
def get? (p : Pending) (key : Int) : Option HandOver := p.entries.lookup key

/-- The others. -/
def erase (p : Pending) (key : Int) : Pending := ⟨p.entries.filter (·.1 != key)⟩

/-- Notes what the instance of a key waits for. -/
def insert (p : Pending) (key : Int) (h : HandOver) : Pending := ⟨(p.erase key).entries ++ [(key, h)]⟩

/-- The number of instances that wait. -/
def size (p : Pending) : Nat := p.entries.length

/-- The source instances that the waiting ones stand for. -/
def legacyIds (p : Pending) : List String := p.entries.map (·.2.legacyId)

end Pending

/-! ## Output -/

/-- What has been printed, and how many more bytes can be. -/
structure Output where
  text : String := ""
  room : Option Nat := none
  deriving DecidableEq, Repr, Inhabited

namespace Output

/-- The longest beginning that fits into so many bytes. -/
def fitting : Nat → List Char → List Char
  | _, [] => []
  | room, c :: rest => if c.utf8Size ≤ room then c :: fitting (room - c.utf8Size) rest else []

/-- Prints a text, or as much of it as fits. -/
def print (o : Output) (s : String) : Except OutputError Unit × Output :=
  match o.room with
  | none => (.ok (), ⟨o.text ++ s, none⟩)
  | some room =>
    if s.utf8ByteSize ≤ room then (.ok (), ⟨o.text ++ s, some (room - s.utf8ByteSize)⟩)
    else (.error .full, ⟨o.text ++ String.ofList (fitting room s.toList), some 0⟩)

end Output

/-! ## Runs -/

/-- The state of a run. -/
structure RunState (σ : Type) where
  world : σ
  pending : Pending := .empty
  report : Report := {}
  output : Output := {}
  /-- The source instances of which the run has warned that their hand-over is given up. -/
  givenUp : List String := []

/-- Something that a migrator does. -/
abbrev Run (σ α : Type) := Action (RunState σ) MigrationError α

namespace Run

variable {σ α : Type}

/-- An action of the environment. -/
def call (x : Action σ MigrationError α) : Run σ α :=
  x.onPart RunState.world fun world s => { s with world }

/-- A call to an engine. -/
def engine (x : Action σ ConnectorError α) : Run σ α := call (x.mapError .connector)

/-- A call to the mapping store. -/
def store (x : Action σ StoreError α) : Run σ α := call (x.mapError .store)

/-- Counts something. -/
def count (f : Report → Report) : Run σ Unit :=
  .modify fun s => { s with report := f s.report }

/-- Changes what waits to be handed over. -/
def modifyPending (f : Pending → Pending) : Run σ Unit :=
  .modify fun s => { s with pending := f s.pending }

/-- Gives up, with a warning, whatever still waits to be handed over. -/
def giveUp : Run σ Unit :=
  .modify fun s => { s with pending := .empty, givenUp := s.givenUp ++ s.pending.legacyIds }

/-- Prints a text. -/
def print (s : String) : Run σ Unit :=
  Action.mapError MigrationError.output
    (Action.onPart RunState.output (fun output r => { r with output }) fun o => o.print s)

end Run
end ProcessMigration
