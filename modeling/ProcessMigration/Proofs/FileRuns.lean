import ProcessMigration.Proofs.Calls
import ProcessMigration.Proofs.Passes
import ProcessMigration.Proofs.Preparation

/-!
# Runs over files

Most of what a run over files does are questions, and questions keep whatever neither others nor the
incidents to come disturb. So do the preparations made of them, and the ways to what is handed over.

* `Run.store_keeps` and `Run.source_keeps` are the rules for questions to the mapping store and to the
  snapshot;
* `Workspace.activationsFor_keeps`: looking up what is owed to an instance changes what waits at most;
* `Workspace.run_keeps`: a run keeps what its commands, its records and its drains keep.
-/

namespace ProcessMigration

open ProcessMigration.Action (Triple ReadOnly)

namespace Run

variable {α : Type} {P : RunState (Interrupted Workspace) → Prop}

theorem store_keeps (hP : Run.Stable Workspace.jobEngine P) (x : StoreTables → StoreAction α)
    (hx : ∀ t, ReadOnly (x t)) :
    Triple P (Run.store (Interrupted.storeCall Workspace.environment (Workspace.onStore x)))
      (fun _ => P) P :=
  (Run.store_reads hP (Workspace.onStore_readOnly hx)).post fun _ _ h => h.1

theorem source_keeps (hP : Run.Stable Workspace.jobEngine P) (op : EngineOperation)
    (f : SnapshotSource → Except ConnectorError α) :
    Triple P (Run.engine (Interrupted.query Workspace.environment op (Workspace.onSource f)))
      (fun _ => P) P :=
  (Run.engine_reads hP (Workspace.onSource_readOnly f)).post fun _ _ h => h.1

end Run

namespace Workspace

variable {definitions : List Definition} {settings : MigrationSettings} {pipeline : Pipeline}
  {I R : RunState (Interrupted Workspace) → Prop}

/-! ## What is owed to an instance -/

theorem resolveAgain_keeps (hI : Run.Stable jobEngine I)
    (hdefinitions : ∀ s, I s → s.world.world.target.definitions = definitions) (id : String)
    (key : Int) :
    Triple I ((interruptedMigrator settings pipeline).resolveAgain id key) (fun _ => I) I := by
  unfold Migrator.resolveAgain
  refine Triple.bind (Run.store_keeps hI (fun t => Store.targetKey? t id) fun _ =>
    Store.targetKey?_readOnly id) ?_
  intro mapped
  split
  · exact Triple.pure fun s hs => hs
  · refine Triple.bind (Run.source_keeps hI .findInstance fun s => .ok (s.find? id)) ?_
    intro found
    split
    · exact Triple.pure fun s hs => hs
    · next i =>
      refine Triple.bind ((Run.prepare_triple hI hdefinitions i).post fun _ _ h => h.1) ?_
      intro p
      split
      · exact Triple.pure fun s hs => hs
      · exact Triple.pure fun s hs => hs

theorem activationsFor_keeps (hI : Run.Stable jobEngine I)
    (hdefinitions : ∀ s, I s → s.world.world.target.definitions = definitions)
    (herase : ∀ s key, I s → I { s with pending := s.pending.erase key }) (id : String) (key : Int) :
    Triple I ((interruptedMigrator settings pipeline).activationsFor id key) (fun _ => I) I := by
  unfold Migrator.activationsFor
  refine Triple.bind (M := fun _ => I) (Triple.get fun s hs => hs) ?_
  intro s₀
  split
  · refine Triple.bind (M := fun _ => I) (Triple.modify fun s hs => herase s key hs) ?_
    intro _
    exact Triple.pure fun s hs => hs
  · exact resolveAgain_keeps hI hdefinitions id key

/-! ## Runs -/

section

variable (hI : Run.Stable jobEngine I)
  (hdefinitions : ∀ s, I s → s.world.world.target.definitions = definitions)
  (happart : ∀ s report output givenUp, I s → I { s with report, output, givenUp })
  (hfailed : ∀ s, I s → R s)
  (hdrain : Triple I (interruptedMigrator settings pipeline).drain (fun _ => I) R)
include hI happart hfailed hdrain

/-- What holds of every run of these settings: questions, counts and prints keep the property. -/
theorem keeps_over_files : (interruptedMigrator settings pipeline).Keeps I I R where
  report s f hs := happart s (f s.report) s.output s.givenUp hs
  output s output hs := happart s s.report output s.givenUp hs
  reset s _ hs := happart s _ _ _ hs
  countSkipped := (Run.store_keeps hI (fun t => Store.countSkipped t .processInstance) fun _ =>
    Store.countSkipped_readOnly _).ends (fun _ _ h => h) hfailed
  skipped request :=
    (Run.store_keeps hI (fun t => Store.skipped t .processInstance request.offset request.limit)
      fun _ => Store.skipped_readOnly _ _ _).ends (fun _ _ h => h) hfailed
  drain := hdrain
  ended _ hs := hs
  failed := hfailed

include hdefinitions

/-- A run keeps what its commands, its records and its drains keep, wherever it is broken off. -/
theorem run_keeps
    (hnew : ∀ i prepared, prepared.Fits settings definitions i → Triple I
      ((interruptedMigrator settings pipeline).start i prepared fun key =>
        (interruptedMigrator settings pipeline).env.store.insert (.migrated i.id key i.startTime))
      (fun _ => I) R)
    (hagain : ∀ i prepared, prepared.Fits settings definitions i → Triple I
      ((interruptedMigrator settings pipeline).start i prepared fun key =>
        (interruptedMigrator settings pipeline).env.store.update i.id key) (fun _ => I) R)
    (hskip : ∀ (i : SourceInstance) reason, Triple I
      (Run.store ((interruptedMigrator settings pipeline).env.store.insert
        (.skipped i.id i.startTime reason))) (fun _ => I) R) (mode : Mode) :
    Triple I ((interruptedMigrator settings pipeline).run mode) (fun _ => I) R := by
  have hkeeps := keeps_over_files hI happart hfailed hdrain
  -- an instance that is ready has passed the checks, and the two commands may use that
  have hprepare : ∀ i, Triple I
      (Run.call ((interruptedMigrator settings pipeline).prepare i))
      (fun r s => I s ∧ ∀ prepared, r = .ready prepared → prepared.Fits settings definitions i) R :=
    fun i => (Run.prepare_triple hI hdefinitions i).ends (fun _ _ h => h) hfailed
  refine Migrator.run_keeps (F := fun _ => True) (N := fun _ => True)
    (A := fun i prepared => prepared.Fits settings definitions i)
    { hkeeps with
      find := fun id => ?_
      prepare := fun i _ => hprepare i
      startAgain := fun i prepared _ hfits => hagain i prepared hfits }
    { hkeeps with
      latest := ?_
      count := ?_
      list := fun after limit => ?_
      «exists» := fun i _ => ?_
      prepare := fun i _ => hprepare i
      startNew := fun i prepared _ _ hfits => hnew i prepared hfits
      skip := fun i reason _ _ => hskip i reason } mode
  · exact (Run.source_keeps hI .findInstance fun s => .ok (s.find? id)).ends
      (fun _ _ h => ⟨h, fun _ _ => trivial⟩) hfailed
  · exact (Run.store_keeps hI (fun t => Store.latest? t .processInstance) fun _ =>
      Store.latest?_readOnly _).ends (fun _ _ h => h) hfailed
  · exact (Run.source_keeps hI .countInstances fun s => .ok s.count).ends (fun _ _ h => h) hfailed
  · exact (Run.source_keeps hI .listInstances fun s => .ok (s.listAfter after limit)).ends
      (fun _ _ h => ⟨h, fun _ _ => trivial⟩) hfailed
  · exact (Run.store_keeps hI (fun t => Store.exists t i.id) fun _ =>
      Store.exists_readOnly i.id).ends (fun _ _ h => ⟨h, fun _ => trivial⟩) hfailed

end
end Workspace
end ProcessMigration
