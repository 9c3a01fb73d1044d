import ProcessMigration.Migration.Drain
import ProcessMigration.Proofs.Triple

/-!
# What becomes of a job

A job that is handed out has one of three outcomes. One without the id of a source instance was
started by somebody else, and is left alone. One whose instance waits, or can be resolved again, is
answered: the instance is moved onto its activations. Any other one is left unresolved. On the way
there each question to the engines and to the store may fail, which fails the hand-over.

* `Migrator.ResolvesAgain`: what becomes of the question for the activations of an earlier run;
* `Migrator.Finds`: where the activations for a job come from;
* `Migrator.JobOutcome`: the outcomes of handing over a job, by what is asked and answered;
* `Migrator.handOver_run_iff`: handing over a job has these outcomes and no others.
-/

namespace ProcessMigration

namespace Run

variable {σ α : Type} {s : RunState σ} {w : σ}

/-- A call changes the environment and nothing else of a run. -/
theorem call_run {x : Action σ MigrationError α} {r : Except MigrationError α}
    (h : x.run s.world = (r, w)) : (call x).run s = (r, { s with world := w }) := by
  unfold Action.run at h
  unfold Action.run call Action.onPart
  rw [h]

theorem engine_run {x : Action σ ConnectorError α} {r : Except ConnectorError α}
    (h : x.run s.world = (r, w)) :
    (engine x).run s = (r.mapError .connector, { s with world := w }) := by
  refine call_run ?_
  unfold Action.run at h
  unfold Action.run Action.mapError
  rw [h]
  cases r <;> rfl

theorem store_run {x : Action σ StoreError α} {r : Except StoreError α}
    (h : x.run s.world = (r, w)) :
    (store x).run s = (r.mapError .store, { s with world := w }) := by
  refine call_run ?_
  unfold Action.run at h
  unfold Action.run Action.mapError
  rw [h]
  cases r <;> rfl

end Run

namespace Migrator

variable {σ : Type} {m : Migrator σ} {job : Job} {legacyId : String} {key : Int}

/-! ## The outcomes -/

/-- The question for the activations of an instance that an earlier run has started, and its answer:
the mapping record has to name the instance, the source instance has to be there, and it has to be
ready still. -/
inductive ResolvesAgain (m : Migrator σ) (legacyId : String) (key : Int) :
    σ → Except MigrationError (Option (List Activation)) → σ → Prop where
  | unread {w w₁ : σ} {e : StoreError}
      (failed : (m.env.store.targetKey? legacyId).run w = (.error e, w₁)) :
      ResolvesAgain m legacyId key w (.error (.store e)) w₁
  | unmapped {w w₁ : σ} {mapped : Option Int}
      (read : (m.env.store.targetKey? legacyId).run w = (.ok mapped, w₁))
      (other : mapped ≠ some key) : ResolvesAgain m legacyId key w (.ok none) w₁
  | unanswered {w w₁ w₂ : σ} {e : ConnectorError}
      (read : (m.env.store.targetKey? legacyId).run w = (.ok (some key), w₁))
      (failed : (m.env.source.find? legacyId).run w₁ = (.error e, w₂)) :
      ResolvesAgain m legacyId key w (.error (.connector e)) w₂
  | gone {w w₁ w₂ : σ}
      (read : (m.env.store.targetKey? legacyId).run w = (.ok (some key), w₁))
      (found : (m.env.source.find? legacyId).run w₁ = (.ok none, w₂)) :
      ResolvesAgain m legacyId key w (.ok none) w₂
  | halted {w w₁ w₂ w₃ : σ} {i : SourceInstance} {e : MigrationError}
      (read : (m.env.store.targetKey? legacyId).run w = (.ok (some key), w₁))
      (found : (m.env.source.find? legacyId).run w₁ = (.ok (some i), w₂))
      (failed : (m.prepare i).run w₂ = (.error e, w₃)) :
      ResolvesAgain m legacyId key w (.error e) w₃
  | skipped {w w₁ w₂ w₃ : σ} {i : SourceInstance} {reason : String}
      (read : (m.env.store.targetKey? legacyId).run w = (.ok (some key), w₁))
      (found : (m.env.source.find? legacyId).run w₁ = (.ok (some i), w₂))
      (prepared : (m.prepare i).run w₂ = (.ok (.skip reason), w₃)) :
      ResolvesAgain m legacyId key w (.ok none) w₃
  | ready {w w₁ w₂ w₃ : σ} {i : SourceInstance} {p : Prepared}
      (read : (m.env.store.targetKey? legacyId).run w = (.ok (some key), w₁))
      (found : (m.env.source.find? legacyId).run w₁ = (.ok (some i), w₂))
      (prepared : (m.prepare i).run w₂ = (.ok (.ready p), w₃)) :
      ResolvesAgain m legacyId key w (.ok (some p.activations)) w₃

/-- The activations for a job: those that wait, which are taken out, or those of an earlier run. -/
inductive Finds (m : Migrator σ) (legacyId : String) (key : Int) :
    RunState σ → List Activation → RunState σ → Prop where
  | waiting {s : RunState σ} {h : HandOver} (waits : s.pending.get? key = some h) :
      Finds m legacyId key s h.activations { s with pending := s.pending.erase key }
  | again {s : RunState σ} {w : σ} {activations : List Activation}
      (idle : s.pending.get? key = none)
      (resolved : ResolvesAgain m legacyId key s.world (.ok (some activations)) w) :
      Finds m legacyId key s activations { s with world := w }

/-- What becomes of a job: it is left to whoever has started its instance, it is left unresolved, or
its instance is moved. It fails if a question fails, or the move. -/
inductive JobOutcome (m : Migrator σ) (job : Job) :
    RunState σ → Except MigrationError Unit → RunState σ → Prop where
  | foreign {s : RunState σ} (nobody : job.legacyId? = none) :
      JobOutcome m job s (.ok ()) { s with
        report := { s.report with externallyStartedJobs := s.report.externallyStartedJobs + 1 } }
  | failed {s : RunState σ} {w : σ} {legacyId : String} {e : MigrationError}
      (ours : job.legacyId? = some legacyId) (idle : s.pending.get? job.instanceKey = none)
      (asked : ResolvesAgain m legacyId job.instanceKey s.world (.error e) w) :
      JobOutcome m job s (.error e) { s with world := w }
  | unresolved {s : RunState σ} {w : σ} {legacyId : String}
      (ours : job.legacyId? = some legacyId) (idle : s.pending.get? job.instanceKey = none)
      (asked : ResolvesAgain m legacyId job.instanceKey s.world (.ok none) w) :
      JobOutcome m job s (.ok ()) { s with
        world := w, report := { s.report with unresolvedJobs := s.report.unresolvedJobs + 1 } }
  | refused {s s₁ : RunState σ} {w : σ} {legacyId : String} {activations : List Activation}
      {e : ConnectorError} (ours : job.legacyId? = some legacyId)
      (finds : Finds m legacyId job.instanceKey s activations s₁)
      (moves : (m.env.target.modifyInstance job.instanceKey job.elementInstanceKey activations).run
        s₁.world = (.error e, w)) :
      JobOutcome m job s (.error (.connector e)) { s₁ with world := w }
  | moved {s s₁ : RunState σ} {w : σ} {legacyId : String} {activations : List Activation}
      (ours : job.legacyId? = some legacyId)
      (finds : Finds m legacyId job.instanceKey s activations s₁)
      (moves : (m.env.target.modifyInstance job.instanceKey job.elementInstanceKey activations).run
        s₁.world = (.ok (), w)) :
      JobOutcome m job s (.ok ()) { s₁ with
        world := w, report := { s₁.report with jobsActivated := s₁.report.jobsActivated + 1 } }

/-! ## There is always one -/

theorem exists_resolvesAgain (m : Migrator σ) (legacyId : String) (key : Int) (w : σ) :
    ∃ r w', ResolvesAgain m legacyId key w r w' := by
  rcases hread : (m.env.store.targetKey? legacyId).run w with ⟨mapped | mapped, w₁⟩
  · exact ⟨_, _, .unread hread⟩
  by_cases hother : mapped = some key
  · subst hother
    rcases hfind : (m.env.source.find? legacyId).run w₁ with ⟨e | found, w₂⟩
    · exact ⟨_, _, .unanswered hread hfind⟩
    cases found with
    | none => exact ⟨_, _, .gone hread hfind⟩
    | some i =>
      rcases hprepare : (m.prepare i).run w₂ with ⟨e | prepared, w₃⟩
      · exact ⟨_, _, .halted hread hfind hprepare⟩
      cases prepared with
      | skip reason => exact ⟨_, _, .skipped hread hfind hprepare⟩
      | ready p => exact ⟨_, _, .ready hread hfind hprepare⟩
  · exact ⟨_, _, .unmapped hread hother⟩

/-- Activations that were found are sent, whatever the target engine answers. -/
theorem Finds.exists_jobOutcome {s s₁ : RunState σ} {activations : List Activation}
    (ours : job.legacyId? = some legacyId)
    (finds : Finds m legacyId job.instanceKey s activations s₁) :
    ∃ r s', JobOutcome m job s r s' := by
  rcases hmove : (m.env.target.modifyInstance job.instanceKey job.elementInstanceKey
    activations).run s₁.world with ⟨e | _, w⟩
  · exact ⟨_, _, .refused ours finds hmove⟩
  · exact ⟨_, _, .moved ours finds hmove⟩

theorem exists_jobOutcome (m : Migrator σ) (job : Job) (s : RunState σ) :
    ∃ r s', JobOutcome m job s r s' := by
  cases hours : job.legacyId? with
  | none => exact ⟨_, _, .foreign hours⟩
  | some legacyId =>
    cases hwaits : s.pending.get? job.instanceKey with
    | some h => exact Finds.exists_jobOutcome hours (.waiting hwaits)
    | none =>
      obtain ⟨r, w, hasked⟩ := m.exists_resolvesAgain legacyId job.instanceKey s.world
      cases r with
      | error e => exact ⟨_, _, .failed hours hwaits hasked⟩
      | ok found =>
        cases found with
        | none => exact ⟨_, _, .unresolved hours hwaits hasked⟩
        | some activations => exact Finds.exists_jobOutcome hours (.again hwaits hasked)

/-! ## It is what happens -/

/-- With the mapping record and the source instance there, the preparation decides. -/
theorem resolveAgain_prepared {s : RunState σ} {w₁ w₂ w₃ : σ} {i : SourceInstance}
    {r : Except MigrationError Preparation}
    (hread : (m.env.store.targetKey? legacyId).run s.world = (.ok (some key), w₁))
    (hfound : (m.env.source.find? legacyId).run w₁ = (.ok (some i), w₂))
    (hprepare : (m.prepare i).run w₂ = (r, w₃)) :
    (m.resolveAgain legacyId key).run s =
      (r.map fun
        | .ready p => some p.activations
        | .skip _ => none, { s with world := w₃ }) := by
  have hasked := Run.engine_run (s := { s with world := _ }) hfound
  have hcalled := Run.call_run (s := { s with world := _ }) hprepare
  unfold resolveAgain
  rw [Action.run_bind_ok (Run.store_run hread), if_neg (not_not_intro rfl),
    Action.run_bind_ok hasked]
  cases r with
  | error e => exact Action.run_bind_error hcalled _
  | ok prepared => cases prepared <;> exact Action.run_bind_ok hcalled _

theorem ResolvesAgain.run {s : RunState σ} {r : Except MigrationError (Option (List Activation))}
    {w : σ} (h : ResolvesAgain m legacyId key s.world r w) :
    (m.resolveAgain legacyId key).run s = (r, { s with world := w }) := by
  unfold resolveAgain
  cases h with
  | unread hfailed => exact Action.run_bind_error (Run.store_run hfailed) _
  | unmapped hread hother =>
    rw [Action.run_bind_ok (Run.store_run hread), if_pos hother]
    rfl
  | unanswered hread hfailed =>
    have hasked := Run.engine_run (s := { s with world := _ }) hfailed
    rw [Action.run_bind_ok (Run.store_run hread), if_neg (not_not_intro rfl)]
    exact Action.run_bind_error hasked _
  | gone hread hfound =>
    have hasked := Run.engine_run (s := { s with world := _ }) hfound
    rw [Action.run_bind_ok (Run.store_run hread), if_neg (not_not_intro rfl),
      Action.run_bind_ok hasked]
    rfl
  | halted hread hfound hfailed => exact resolveAgain_prepared hread hfound hfailed
  | skipped hread hfound hprepared => exact resolveAgain_prepared hread hfound hprepared
  | ready hread hfound hprepared => exact resolveAgain_prepared hread hfound hprepared

/-- Where nothing waits, the activations are asked for. -/
theorem activationsFor_idle {s : RunState σ} (h : s.pending.get? key = none) :
    (m.activationsFor legacyId key).run s = (m.resolveAgain legacyId key).run s := by
  unfold activationsFor
  rw [Action.run_bind_ok (Action.run_get s), h]

theorem Finds.run {s s₁ : RunState σ} {activations : List Activation}
    (h : Finds m legacyId key s activations s₁) :
    (m.activationsFor legacyId key).run s = (.ok (some activations), s₁) := by
  cases h with
  | waiting hwaits =>
    unfold activationsFor
    rw [Action.run_bind_ok (Action.run_get s), hwaits]
    rfl
  | again hidle hresolved => rw [activationsFor_idle hidle, hresolved.run]

theorem JobOutcome.run {s s' : RunState σ} {r : Except MigrationError Unit}
    (h : JobOutcome m job s r s') : (m.handOver job).run s = (r, s') := by
  unfold handOver
  cases h with
  | foreign hnobody =>
    rw [hnobody]
    rfl
  | failed hours hidle hasked =>
    rw [hours]
    exact Action.run_bind_error ((activationsFor_idle hidle).trans hasked.run) _
  | unresolved hours hidle hasked =>
    rw [hours]
    exact Action.run_bind_ok ((activationsFor_idle hidle).trans hasked.run) _
  | refused hours hfinds hmoves =>
    simp only [hours]
    rw [Action.run_bind_ok hfinds.run]
    exact Action.run_bind_error (Run.engine_run hmoves) _
  | moved hours hfinds hmoves =>
    simp only [hours]
    rw [Action.run_bind_ok hfinds.run]
    exact Action.run_bind_ok (Run.engine_run hmoves) _

/-- Handing over a job has these outcomes and no others. -/
theorem handOver_run_iff {s s' : RunState σ} {r : Except MigrationError Unit} :
    (m.handOver job).run s = (r, s') ↔ JobOutcome m job s r s' := by
  constructor
  · intro hrun
    obtain ⟨r₁, s₁, h⟩ := m.exists_jobOutcome job s
    rw [h.run] at hrun
    cases hrun
    exact h
  · exact JobOutcome.run

end Migrator
end ProcessMigration
