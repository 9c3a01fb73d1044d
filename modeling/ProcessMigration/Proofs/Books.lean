import ProcessMigration.Proofs.Calls
import ProcessMigration.Proofs.Passes
import ProcessMigration.Proofs.Preparation
import ProcessMigration.Proofs.Listing

/-!
# The books of a migration

What a migration has to account for is the snapshot, the mapping store and the instances it has asked
to be started. These are its `Books`. Nobody else writes in them, and of the steps of a run only
starting an instance and writing a record do.

* `Interrupted.stable_books`: others and incidents leave the books alone;
* `Workspace.target_keeps_books`: so does every action of the target engine, apart from the note
  that a creation is requested;
* `Workspace.keeps_books`: a property of the books is kept by every step that all runs have in common;
* `Workspace.create_keeps_books`: a creation changes the books by its request only.
-/

namespace ProcessMigration

open ProcessMigration.Action (Triple ReadOnly)

/-- The request of a command that starts an instance. -/
def Command.request? : Command → Option CreateRequest
  | .create request => some request
  | .modify .. => none

/-- What a migration has to account for. -/
structure Books where
  source : SnapshotSource
  definitions : List Definition
  tables : StoreTables
  database : Database
  /-- The requests to start an instance that were sent. -/
  started : List CreateRequest

namespace Interrupted

/-- The requests to start an instance that were sent, in order. -/
def started {σ : Type} (d : Interrupted σ) : List CreateRequest :=
  d.sent.filterMap fun c => c.command.request?

/-- The books of a course of events. -/
def books (d : Interrupted Workspace) : Books :=
  ⟨d.world.source, d.world.target.definitions, d.world.tables, d.world.database, d.started⟩

end Interrupted

/-! ## Whom the books belong to -/

namespace Workspace

variable {α : Type} {Φ : Books → Prop}

/-- An action of the target engine that keeps the definitions keeps the books. -/
theorem target_keeps_books {x : TargetAction α}
    (hx : ∀ definitions, Triple (TargetEngine.Deploys definitions) x
      (fun _ => TargetEngine.Deploys definitions) (TargetEngine.Deploys definitions)) :
    Triple (fun d => Φ d.books) (Interrupted.inside (onTarget x)) (fun _ d => Φ d.books)
      fun d => Φ d.books := by
  apply Interrupted.inside_triple
  intro d hd
  apply Triple.onPart
  intro w hw
  subst hw
  refine (hx d.world.target.definitions).conseq (fun t ht => ht ▸ rfl) ?_ ?_
  · intro _ t ht
    have hsame : (d.withWorld { d.world with target := t }).books = d.books := by
      simp only [Interrupted.books, Interrupted.withWorld, Interrupted.started]
      rw [show t.definitions = _ from ht]
    exact hsame ▸ hd
  · intro t ht
    have hsame : (d.withWorld { d.world with target := t }).books = d.books := by
      simp only [Interrupted.books, Interrupted.withWorld, Interrupted.started]
      rw [show t.definitions = _ from ht]
    exact hsame ▸ hd

end Workspace

namespace Interrupted

theorem books_startByOther (d : Interrupted Workspace) (request : CreateRequest) :
    (d.startByOther Workspace.jobEngine request).books = d.books := by
  have hcreate : ((TargetEngine.createInstance request).run d.world.target).2.definitions =
      d.world.target.definitions :=
    Triple.state (TargetEngine.createInstance_deploys request) rfl
  rw [startByOther_run]
  rcases hx : (TargetEngine.createInstance request).run d.world.target with ⟨r, t⟩
  rw [hx] at hcreate
  have hbooks : ∀ startedByOthers,
      { d.withTarget t with startedByOthers }.books = d.books := by
    intro startedByOthers
    simp only [books, started, withTarget, withWorld, show t.definitions = _ from hcreate]
  cases r with
  | ok handle => exact hbooks _
  | error cause => exact hbooks d.startedByOthers

/-- Others and incidents leave the books alone. -/
theorem stable_books (Φ : Books → Prop) :
    Stable Workspace.jobEngine fun d : Interrupted Workspace => Φ d.books where
  startByOther d request hd := by
    rw [books_startByOther]
    exact hd
  coming d coming hd := hd

end Interrupted

/-! ## Steps of a run -/

namespace Workspace

/-- A property of the books in a run. -/
def BooksAre (Φ : Books → Prop) (s : RunState (Interrupted Workspace)) : Prop := Φ s.world.books

variable {Φ : Books → Prop} {settings : MigrationSettings} {pipeline : Pipeline}
  {source : SnapshotSource} {definitions : List Definition}

theorem stable_booksAre (Φ : Books → Prop) : Run.Stable jobEngine (BooksAre Φ) :=
  fun _ => Interrupted.stable_books Φ

theorem store_keeps_books {α : Type} (x : StoreTables → StoreAction α)
    (hx : ∀ t, ReadOnly (x t)) :
    Triple (BooksAre Φ) (Run.store (Interrupted.storeCall environment (onStore x)))
      (fun _ => BooksAre Φ) (BooksAre Φ) :=
  (Run.store_reads (stable_booksAre Φ) (onStore_readOnly hx)).post fun _ _ h => h.1

/-- The answer to a question to the mapping store is read off the books. -/
theorem store_reads_books {α : Type} (x : StoreTables → StoreAction α)
    (hx : ∀ t, ReadOnly (x t)) :
    Triple (BooksAre Φ) (Run.store (Interrupted.storeCall environment (onStore x)))
      (fun a => BooksAre fun b => Φ b ∧ ((x b.tables).run b.database).1 = .ok a) (BooksAre Φ) :=
  Run.store_reads (stable_booksAre Φ) (onStore_readOnly hx)

/-- A change of the mapping store changes the database of the books, and may do so unanswered. -/
theorem store_changes_books {α : Type} {Ψ : α → Books → Prop} {Ξ : Books → Prop}
    (x : StoreTables → StoreAction α)
    (hx : ∀ b, Φ b → Triple (fun db => db = b.database) (x b.tables)
      (fun a db => Ψ a { b with database := db }) fun db => Ξ { b with database := db })
    (hrefused : ∀ b, Φ b → Ξ b) (hcut : ∀ a b, Ψ a b → Ξ b) :
    Triple (BooksAre Φ) (Run.store (Interrupted.storeCall environment (onStore x)))
      (fun a => BooksAre (Ψ a)) (BooksAre Ξ) := by
  apply Run.call_triple
  intro _
  apply Triple.mapError
  refine Interrupted.call_triple (M := fun d => Φ d.books) (Q := fun a d => Ψ a d.books)
    (Interrupted.stable_books Φ) (fun d hd => hd) (fun d hd => hrefused _ hd) ?_
    fun a d hd => hcut a _ hd
  apply Interrupted.inside_triple
  intro d hd
  apply Triple.of_state
  intro w hw
  subst hw
  have hstore : Triple (fun w => w = d.world)
      ((x d.world.tables).onPart Workspace.database fun database w => { w with database })
      (fun a w => Ψ a (d.withWorld w).books) fun w => Ξ (d.withWorld w).books := by
    apply Triple.onPart
    intro w hw
    subst hw
    exact hx d.books hd
  intro w hw
  subst hw
  exact hstore d.world rfl

theorem targetKey?_keeps_books (id : String) :
    Triple (BooksAre Φ)
      (Run.store ((interruptedMigrator settings pipeline).env.store.targetKey? id))
      (fun _ => BooksAre Φ) (BooksAre Φ) :=
  store_keeps_books (fun t => Store.targetKey? t id) fun _ => Store.targetKey?_readOnly id

theorem prepare_keeps_books (hdefinitions : ∀ b, Φ b → b.definitions = definitions)
    (i : SourceInstance) :
    Triple (BooksAre Φ) (Run.call ((interruptedMigrator settings pipeline).prepare i))
      (fun r s => BooksAre Φ s ∧
        ∀ prepared, r = .ready prepared → prepared.Fits settings definitions i) (BooksAre Φ) :=
  Run.prepare_triple (stable_booksAre Φ) (fun _ hs => hdefinitions _ hs) i

theorem modify_keeps_books (key terminated : Int) (activations : List Activation) :
    Triple (BooksAre Φ) (Run.engine ((interruptedMigrator settings pipeline).env.target.modifyInstance
      key terminated activations)) (fun _ => BooksAre Φ) (BooksAre Φ) := by
  apply Run.call_triple
  intro _
  apply Triple.mapError
  refine Interrupted.call_triple (M := fun d => Φ d.books) (Q := fun _ d => Φ d.books)
    (Interrupted.stable_books Φ) ?_ (fun d hd => hd)
    (target_keeps_books fun _ => TargetEngine.modifyInstance_deploys _ _ _) fun _ d hd => hd
  intro d hd
  -- the note of this command is not among those that start an instance
  have hsame : (Interrupted.send (.modify key terminated activations) d).books = d.books := by
    simp [Interrupted.books, Interrupted.started, Interrupted.send, Command.request?]
  exact hsame ▸ hd

/-- A creation changes the books by its request only. -/
theorem create_keeps_books (request : CreateRequest)
    (hstarted : ∀ b, Φ b → Φ { b with started := b.started ++ [request] }) :
    Triple (BooksAre Φ)
      (Run.engine ((interruptedMigrator settings pipeline).env.target.createInstance request))
      (fun _ => BooksAre Φ) (BooksAre Φ) := by
  apply Run.call_triple
  intro _
  apply Triple.mapError
  refine Interrupted.call_triple (M := fun d => Φ d.books) (Q := fun _ d => Φ d.books)
    (Interrupted.stable_books Φ) ?_ (fun d hd => hd)
    (target_keeps_books fun _ => TargetEngine.createInstance_deploys _) fun _ d hd => hd
  intro d hd
  have hsame : (Interrupted.send (.create request) d).books =
      { d.books with started := d.books.started ++ [request] } := by
    simp [Interrupted.books, Interrupted.started, Interrupted.send, Command.request?]
  rw [hsame]
  exact hstarted _ hd

theorem find_keeps_books (hsource : ∀ b, Φ b → b.source = source) (id : String) :
    Triple (BooksAre Φ) (Run.engine ((interruptedMigrator settings pipeline).env.source.find? id))
      (fun found s => BooksAre Φ s ∧ ∀ i, found = some i → i ∈ source.listing ∧ i.id = id)
      (BooksAre Φ) := by
  refine (Run.engine_reads (stable_booksAre Φ) (onSource_readOnly fun s => .ok (s.find? id))).post ?_
  intro found s ⟨hs, hfound⟩
  refine ⟨hs, ?_⟩
  intro i hi
  subst hi
  have hfind : source.find? id = some i := by
    rw [← hsource _ hs]
    exact Except.ok.inj hfound
  exact SnapshotSource.mem_of_find? hfind

theorem fetch_keeps_books :
    Triple (BooksAre Φ) (Run.engine ((interruptedMigrator settings pipeline).env.target.activateJobs
      settings.jobType settings.maxJobs)) (fun _ => BooksAre Φ) (BooksAre Φ) := by
  apply Run.call_triple
  intro _
  apply Triple.mapError
  refine Interrupted.call_triple (M := fun d => Φ d.books) (Q := fun _ d => Φ d.books)
    (Interrupted.stable_books Φ) (fun d hd => hd) (fun d hd => hd) ?_ fun _ d hd => hd
  refine Triple.bind (M := fun _ d => Φ d.books)
    (target_keeps_books fun _ => TargetEngine.activateJobs_deploys _ _) ?_
  intro jobs
  exact Triple.bind (M := fun _ d => Φ d.books) (Triple.modify fun d hd => hd) fun _ =>
    Triple.pure fun d hd => hd

theorem countSkipped_keeps_books :
    Triple (BooksAre Φ) (Run.store (interruptedMigrator settings pipeline).env.store.countSkipped)
      (fun _ => BooksAre Φ) (BooksAre Φ) :=
  store_keeps_books (fun t => Store.countSkipped t .processInstance) fun _ =>
    Store.countSkipped_readOnly _

theorem skippedPage_keeps_books (request : PageRequest MappingRecord) :
    Triple (BooksAre Φ) ((interruptedMigrator settings pipeline).skippedPage request)
      (fun _ => BooksAre Φ) (BooksAre Φ) :=
  store_keeps_books (fun t => Store.skipped t .processInstance request.offset request.limit)
    fun _ => Store.skipped_readOnly _ _ _

/-- A property of the books that says which snapshot and which definitions there are is kept by
everything but starting an instance and writing a record. -/
theorem keeps_books (hsource : ∀ b, Φ b → b.source = source)
    (hdefinitions : ∀ b, Φ b → b.definitions = definitions) :
    (interruptedMigrator settings pipeline).Keeps (BooksAre Φ) (BooksAre Φ) (BooksAre Φ) where
  report _ _ hs := hs
  output _ _ hs := hs
  reset _ _ hs := hs
  countSkipped := countSkipped_keeps_books
  skipped := skippedPage_keeps_books
  drain := Migrator.Deals.drain
    { giveUp := fun _ hs => hs
      pending := fun _ _ hs => hs
      counted := fun _ _ _ _ hs => hs
      targetKey := targetKey?_keeps_books
      find := fun id => (find_keeps_books hsource id).post fun _ _ hs => hs.1
      prepare := fun i => (prepare_keeps_books hdefinitions i).post fun _ _ hs => hs.1
      modify := modify_keeps_books
      fetch := fetch_keeps_books
      failed := fun _ hs => hs }
  ended _ hs := hs
  failed _ hs := hs

end Workspace
end ProcessMigration
