import ProcessMigration.Migration.Run
import ProcessMigration.Proofs.Triple

/-!
# What a run keeps

A run is a long way through pages, records, preparations and jobs, but what it does to its state are
a few steps only. `Migrator.Keeps` lists these steps for a property `I` of the state of a run; a
property that each of them keeps is kept by the whole run.

* `E` is what holds at the end of a drain, and so of a run, `R` what a failed run leaves behind;
* `Migrator.drainRounds_triple` is the rule for the rounds of a drain;
* `HandsOver` lists the steps of a drain, `B` being what a **batch** of jobs needs while its jobs are
  dealt with one after the other; `HandsOver.drain` is the drain made of them; `Deals` lists them
  for a property that does not speak about the jobs;
* `Keeps.migratePass` and `Keeps.retryPass` are the rules for the two passes; `KeepsMigrating` and
  `KeepsRetrying` name the steps of their items;
* `Migrator.run_keeps`: a run of any mode keeps what its steps keep.
-/

namespace ProcessMigration

open ProcessMigration.Action (Triple)

variable {σ α : Type}

/-! ## Rounds of a drain -/

theorem freshJobs_sublist (jobs : List Job) (seen : List Int) :
    (freshJobs jobs seen).1.Sublist jobs := by
  induction jobs generalizing seen with
  | nil => exact List.Sublist.refl _
  | cons j rest ih =>
    unfold freshJobs
    split
    · exact (ih seen).cons j
    · exact (ih (j.key :: seen)).cons_cons j

/-- Jobs with keys of their own that have not come up before are all new. -/
theorem freshJobs_eq_self {jobs : List Job} (hkeys : (jobs.map (·.key)).Nodup) (seen : List Int)
    (hseen : ∀ j ∈ jobs, j.key ∉ seen) : (freshJobs jobs seen).1 = jobs := by
  induction jobs generalizing seen with
  | nil => rfl
  | cons j rest ih =>
    rw [List.map_cons, List.nodup_cons] at hkeys
    unfold freshJobs
    rw [if_neg (by simpa using hseen j List.mem_cons_self)]
    have hrest := ih hkeys.2 (j.key :: seen) fun j' hj' hmem => by
      rcases List.mem_cons.1 hmem with heq | hmem
      · exact hkeys.1 (heq ▸ List.mem_map_of_mem hj')
      · exact hseen j' (List.mem_cons_of_mem _ hj') hmem
    exact congrArg (j :: ·) hrest

/-- No other keys are seen than those of the jobs. -/
theorem mem_freshJobs_seen {jobs : List Job} {seen : List Int} {key : Int}
    (h : key ∈ (freshJobs jobs seen).2) : key ∈ seen ∨ key ∈ jobs.map (·.key) := by
  induction jobs generalizing seen with
  | nil => exact .inl h
  | cons j rest ih =>
    unfold freshJobs at h
    split at h
    · exact (ih h).imp_right (List.mem_cons_of_mem _)
    · rcases ih h with hseen | hrest
      · rcases List.mem_cons.1 hseen with rfl | hseen
        · exact .inr List.mem_cons_self
        · exact .inl hseen
      · exact .inr (List.mem_cons_of_mem _ hrest)

namespace Migrator

/-- The rounds of a drain. `L` holds between the rounds, with the keys of the jobs seen so far; `B`
holds while the new jobs of a round are dealt with, `Q` after the round that brings none. -/
theorem drainRounds_triple (m : Migrator σ) {L : List Int → RunState σ → Prop}
    {B : List Job → List Int → RunState σ → Prop} {Q R : RunState σ → Prop}
    (hfetch : ∀ seen, Triple (L seen)
      (Run.engine (m.env.target.activateJobs m.settings.jobType m.settings.maxJobs))
      (fun jobs s => let (fresh, seen') := freshJobs jobs seen
        if fresh = [] then Q s else B fresh seen' s) R)
    (hhand : ∀ job rest seen,
      Triple (B (job :: rest) seen) (m.handOver job) (fun _ => B rest seen) R)
    (hdone : ∀ seen s, B [] seen s → L seen s) (hendless : ∀ seen s, L seen s → R s)
    (rounds : Nat) (seen : List Int) :
    Triple (L seen) (m.drainRounds rounds seen) (fun _ => Q) R := by
  induction rounds generalizing seen with
  | zero => exact Triple.fail fun s hs => hendless seen s hs
  | succ rounds ih =>
    unfold drainRounds
    refine Triple.bind (hfetch seen) ?_
    intro jobs
    rcases hfresh : freshJobs jobs seen with ⟨fresh, seen'⟩
    cases fresh with
    | nil => exact Triple.pure fun s hs => by simpa [hfresh] using hs
    | cons job rest =>
      -- the jobs still to be dealt with are what the invariant of the batch speaks about
      have hbatch : ∀ todo, Triple (B todo seen') (Action.forAll todo m.handOver)
          (fun _ => B [] seen') R := by
        intro todo
        induction todo with
        | nil => exact Triple.pure fun s hs => hs
        | cons j todo ih' => exact Triple.bind (hhand j todo seen') fun _ => ih'
      refine Triple.bind ((hbatch (job :: rest)).pre fun s hs => by simpa [hfresh] using hs) ?_
      intro _
      exact (ih seen').pre fun s hs => hdone seen' s hs

/-! ## Properties that a run keeps -/

/-- The steps of a drain. -/
structure HandsOver (m : Migrator σ) (I R : RunState σ → Prop) (B : List Job → RunState σ → Prop) :
    Prop where
  giveUp : ∀ s, I s →
    I { s with pending := .empty, givenUp := s.givenUp ++ s.pending.legacyIds }
  fetch : Triple I (Run.engine (m.env.target.activateJobs m.settings.jobType m.settings.maxJobs))
    (fun jobs s => B jobs s) R
  fewer : ∀ jobs jobs' s, jobs'.Sublist jobs → B jobs s → B jobs' s
  noJobs : ∀ s, B [] s → I s
  handOver : ∀ job rest, Triple (B (job :: rest)) (m.handOver job) (fun _ => B rest) R
  failed : ∀ s, I s → R s

/-- The steps of a drain, for a property that does not speak about the jobs. -/
structure Deals (m : Migrator σ) (I R : RunState σ → Prop) : Prop where
  giveUp : ∀ s, I s →
    I { s with pending := .empty, givenUp := s.givenUp ++ s.pending.legacyIds }
  pending : ∀ s pending, I s → I { s with pending }
  counted : ∀ s jobsActivated externallyStartedJobs unresolvedJobs, I s →
    I { s with report :=
      { s.report with jobsActivated, externallyStartedJobs, unresolvedJobs } }
  targetKey : ∀ id, Triple I (Run.store (m.env.store.targetKey? id)) (fun _ => I) R
  find : ∀ id, Triple I (Run.engine (m.env.source.find? id)) (fun _ => I) R
  prepare : ∀ i, Triple I (Run.call (m.prepare i)) (fun _ => I) R
  modify : ∀ key terminated activations,
    Triple I (Run.engine (m.env.target.modifyInstance key terminated activations)) (fun _ => I) R
  fetch : Triple I (Run.engine (m.env.target.activateJobs m.settings.jobType m.settings.maxJobs))
    (fun _ => I) R
  failed : ∀ s, I s → R s

/-- The steps of every run that a property has to be kept by: counting, printing, looking at skipped
records, and handing over. -/
structure Keeps (m : Migrator σ) (I E R : RunState σ → Prop) : Prop where
  report : ∀ s (f : Report → Report), I s → I { s with report := f s.report }
  output : ∀ s output, I s → I { s with output }
  reset : ∀ s mode, I s → I { s with report := { mode }, output := {}, givenUp := [] }
  countSkipped : Triple I (Run.store m.env.store.countSkipped) (fun _ => I) R
  skipped : ∀ request, Triple I (m.skippedPage request) (fun _ => I) R
  drain : Triple I m.drain (fun _ => E) R
  ended : ∀ s, E s → I s
  failed : ∀ s, I s → R s

/-- The further steps of a run that retries. `F` is what is known of the instances that the source
engine finds, and `A` of what is prepared for them. -/
structure KeepsRetrying (m : Migrator σ) (I E R : RunState σ → Prop) (F : SourceInstance → Prop)
    (A : SourceInstance → Prepared → Prop) : Prop extends Keeps m I E R where
  find : ∀ id, Triple I (Run.engine (m.env.source.find? id))
    (fun found s => I s ∧ ∀ i, found = some i → F i) R
  prepare : ∀ i, F i → Triple I (Run.call (m.prepare i))
    (fun p s => I s ∧ ∀ prepared, p = .ready prepared → A i prepared) R
  startAgain : ∀ i prepared, F i → A i prepared →
    Triple I (m.start i prepared fun key => m.env.store.update i.id key) (fun _ => I) R

/-- The further steps of a run that migrates. `N` is what is known of an instance without a record. -/
structure KeepsMigrating (m : Migrator σ) (I E R : RunState σ → Prop) (F N : SourceInstance → Prop)
    (A : SourceInstance → Prepared → Prop) : Prop extends Keeps m I E R where
  latest : Triple I (Run.store m.env.store.latest?) (fun _ => I) R
  count : Triple I (Run.engine m.env.source.count) (fun _ => I) R
  list : ∀ after limit, Triple I (Run.engine (m.env.source.listAfter after limit))
    (fun page s => I s ∧ ∀ i ∈ page, F i) R
  «exists» : ∀ i, F i → Triple I (Run.store (m.env.store.exists i.id))
    (fun found s => I s ∧ (found = false → N i)) R
  prepare : ∀ i, F i → Triple I (Run.call (m.prepare i))
    (fun p s => I s ∧ ∀ prepared, p = .ready prepared → A i prepared) R
  startNew : ∀ i prepared, F i → N i → A i prepared →
    Triple I (m.start i prepared fun key => m.env.store.insert (.migrated i.id key i.startTime))
      (fun _ => I) R
  skip : ∀ i reason, F i → N i →
    Triple I (Run.store (m.env.store.insert (.skipped i.id i.startTime reason))) (fun _ => I) R

section

variable {m : Migrator σ} {I E R : RunState σ → Prop} {F N : SourceInstance → Prop}
  {A : SourceInstance → Prepared → Prop} {B : List Job → RunState σ → Prop}

/-- A drain keeps what its steps keep. -/
theorem HandsOver.drain (h : HandsOver m I R B) : Triple I m.drain (fun _ => I) R := by
  unfold Migrator.drain
  refine Triple.bind (M := fun _ => I) (Triple.get fun s hs => hs) ?_
  intro s₀
  refine Triple.bind (M := fun _ => I) ?_ fun _ => Triple.modify fun s hs => h.giveUp s hs
  refine m.drainRounds_triple (L := fun _ => I) (B := fun jobs _ => B jobs) ?_ ?_ ?_ ?_ _ _
  · intro seen
    apply h.fetch.post
    intro jobs s hs
    have hfresh := h.fewer jobs _ s (freshJobs_sublist jobs seen) hs
    show if (freshJobs jobs seen).1 = [] then I s else B (freshJobs jobs seen).1 s
    split
    · next hnil =>
      rw [hnil] at hfresh
      exact h.noJobs s hfresh
    · exact hfresh
  · intro job rest _
    exact h.handOver job rest
  · intro _ s hs
    exact h.noJobs s hs
  · intro _ s hs
    exact h.failed s hs

namespace Deals

variable (h : Deals m I R)
include h

theorem resolveAgain (id : String) (key : Int) :
    Triple I (m.resolveAgain id key) (fun _ => I) R := by
  unfold Migrator.resolveAgain
  refine Triple.bind (h.targetKey id) ?_
  intro mapped
  split
  · exact Triple.pure fun s hs => hs
  · refine Triple.bind (h.find id) ?_
    intro found
    split
    · exact Triple.pure fun s hs => hs
    · next i =>
      refine Triple.bind (h.prepare i) ?_
      intro p
      split
      · exact Triple.pure fun s hs => hs
      · exact Triple.pure fun s hs => hs

theorem activationsFor (id : String) (key : Int) :
    Triple I (m.activationsFor id key) (fun _ => I) R := by
  unfold Migrator.activationsFor
  refine Triple.bind (M := fun _ => I) (Triple.get fun s hs => hs) ?_
  intro s₀
  split
  · refine Triple.bind (M := fun _ => I) (Triple.modify fun s hs => h.pending s _ hs) ?_
    intro _
    exact Triple.pure fun s hs => hs
  · exact h.resolveAgain id key

theorem handOver (job : Job) : Triple I (m.handOver job) (fun _ => I) R := by
  unfold Migrator.handOver
  split
  · exact Triple.modify fun s hs => h.counted s _ _ _ hs
  · next legacyId _ =>
    refine Triple.bind (h.activationsFor legacyId job.instanceKey) ?_
    intro activations
    split
    · exact Triple.modify fun s hs => h.counted s _ _ _ hs
    · refine Triple.bind (h.modify _ _ _) ?_
      intro _
      exact Triple.modify fun s hs => h.counted s _ _ _ hs

theorem drain : Triple I m.drain (fun _ => I) R :=
  HandsOver.drain (B := fun _ => I)
    { giveUp := h.giveUp
      fetch := h.fetch
      fewer := fun _ _ _ _ hs => hs
      noJobs := fun _ hs => hs
      handOver := fun job _ => h.handOver job
      failed := h.failed }

end Deals

namespace Keeps

variable (h : Keeps m I E R)
include h

theorem counted (f : Report → Report) : Triple I (Run.count f) (fun _ => I) R :=
  Triple.modify fun s hs => h.report s f hs

theorem printed (text : String) : Triple I (Run.print text) (fun _ => I) R := by
  refine Triple.mapError (Triple.onPart ?_)
  intro s hs o ho
  subst ho
  split
  · exact h.output s _ hs
  · exact h.failed _ (h.output s _ hs)

theorem drainWhenFull : Triple I m.drainWhenFull (fun _ => I) R := by
  unfold Migrator.drainWhenFull
  refine Triple.bind (M := fun _ => I) (Triple.get fun s hs => hs) ?_
  intro s₀
  split
  · exact h.drain.post fun _ s hs => h.ended s hs
  · exact Triple.pure fun s hs => hs

theorem listSkipped : Triple I m.listSkipped (fun _ => I) R := by
  unfold Migrator.listSkipped
  refine Triple.bind h.countSkipped ?_
  intro total
  split
  · exact Triple.bind (h.printed _) fun _ => Triple.pure fun s hs => hs
  · refine Triple.bind (h.printed _) ?_
    intro _
    refine Triple.bind (Triple.forPages_keeps h.skipped ?_ _ _) fun _ =>
      Triple.pure fun s hs => hs
    intro paging page
    refine Triple.bind (Triple.forAll_keeps fun record _ => h.printed _) ?_
    intro _
    exact Triple.pure fun s hs => hs

/-- A run ends as its pass does. -/
theorem run {mode : Mode} {Q : RunState σ → Prop}
    (hpass : Triple I (m.pass mode) (fun _ => Q) R) : Triple I (m.run mode) (fun _ => Q) R := by
  unfold Migrator.run
  refine Triple.bind (M := fun _ => I) (Triple.modify fun s hs => h.reset s mode hs) ?_
  intro _
  refine Triple.bind (M := fun _ => Q) hpass ?_
  intro _
  exact Triple.bind (M := fun _ => Q) (Triple.get fun s hs => hs) fun _ =>
    Triple.pure fun s hs => hs

theorem runListing : Triple I (m.run .listSkipped) (fun _ => I) R :=
  h.run (Triple.bind h.listSkipped fun _ => h.counted _)

/-- The rule for the pass that migrates. `F` is what is known of the instances of a page. -/
theorem migratePass (hlatest : Triple I (Run.store m.env.store.latest?) (fun _ => I) R)
    (hcount : Triple I (Run.engine m.env.source.count) (fun _ => I) R)
    (hlist : ∀ after limit, Triple I (Run.engine (m.env.source.listAfter after limit))
      (fun page s => I s ∧ ∀ i ∈ page, F i) R)
    (hinstance : ∀ i, F i → Triple I (m.migrateInstance i) (fun _ => I) R) :
    Triple I m.migratePass (fun _ => E) R := by
  unfold Migrator.migratePass
  refine Triple.bind hlatest ?_
  intro resume
  refine Triple.bind hcount ?_
  intro total
  refine Triple.bind ?_ fun _ => h.drain
  refine Triple.forPages_pages (M := fun page s => I s ∧ ∀ i ∈ page, F i) (fun request => hlist _ _)
    (fun s hs => hs.1) ?_ _ _
  intro paging page
  apply Triple.of_state
  intro s₀ hs₀
  have hbody : Triple I (Action.forAll page m.migrateInstance) (fun _ => I) R :=
    Triple.forAll_keeps fun i hi => hinstance i (hs₀.2 i hi)
  refine Triple.bind (hbody.pre fun s hs => hs ▸ hs₀.1) ?_
  intro _
  exact Triple.bind h.drainWhenFull fun _ => Triple.pure fun s hs => hs

/-- The rule for the pass that retries. `M` is what holds while records of a page are left. -/
theorem retryPass {M : List MappingRecord → RunState σ → Prop}
    (hskipped : ∀ request, Triple I (m.skippedPage request) M R)
    (hrecord : ∀ record rest,
      Triple (M (record :: rest)) (m.retryRecord record) (fun _ => M rest) R)
    (hdone : ∀ s, M [] s → I s) : Triple I m.retryPass (fun _ => E) R := by
  have hpage : ∀ page paging, Triple (M page) (m.retryPage paging page) (fun _ => I) R := by
    intro page
    induction page with
    | nil => exact fun paging => Triple.pure hdone
    | cons record rest ih =>
      intro paging
      unfold Migrator.retryPage
      refine Triple.bind (hrecord record rest) ?_
      intro carried
      split
      · exact ih paging
      · exact ih paging.keepOne
  unfold Migrator.retryPass
  refine Triple.bind h.countSkipped ?_
  intro total
  refine Triple.bind ?_ fun _ => h.drain
  refine Triple.forPages_pages hskipped hdone ?_ _ _
  intro paging page
  refine Triple.bind (hpage page paging) ?_
  intro paging'
  exact Triple.bind h.drainWhenFull fun _ => Triple.pure fun s hs => hs

end Keeps

namespace KeepsRetrying

variable (h : KeepsRetrying m I E R F A)
include h

theorem retryRecord (record : MappingRecord) :
    Triple I (m.retryRecord record) (fun _ => I) R := by
  unfold Migrator.retryRecord
  refine Triple.bind (h.toKeeps.counted _) ?_
  intro _
  refine Triple.bind (h.find record.legacyId) ?_
  intro found
  cases found with
  | none =>
    refine Triple.bind ((h.toKeeps.counted _).pre fun s hs => hs.1) ?_
    intro _
    exact Triple.pure fun s hs => hs
  | some i =>
    apply Triple.of_state
    intro s₀ hs₀
    have hi : F i := hs₀.2 i rfl
    refine Triple.bind ((h.prepare i hi).pre fun s hs => hs ▸ hs₀.1) ?_
    intro p
    cases p with
    | ready prepared =>
      apply Triple.of_state
      intro s₁ hs₁
      have hp : A i prepared := hs₁.2 prepared rfl
      refine Triple.bind ((h.startAgain i prepared hi hp).pre fun s hs => hs ▸ hs₁.1) ?_
      intro _
      exact Triple.bind (h.toKeeps.counted _) fun _ => Triple.pure fun s hs => hs
    | skip reason =>
      refine Triple.bind ((h.toKeeps.counted _).pre fun s hs => hs.1) ?_
      intro _
      exact Triple.pure fun s hs => hs

theorem retryPass : Triple I m.retryPass (fun _ => E) R :=
  h.toKeeps.retryPass h.skipped (fun record _ => h.retryRecord record) fun _ hs => hs

theorem run : Triple I (m.run .retrySkipped) (fun _ => E) R := h.toKeeps.run h.retryPass

end KeepsRetrying

namespace KeepsMigrating

variable (h : KeepsMigrating m I E R F N A)
include h

theorem migrateInstance (i : SourceInstance) (hi : F i) :
    Triple I (m.migrateInstance i) (fun _ => I) R := by
  unfold Migrator.migrateInstance
  refine Triple.bind (h.toKeeps.counted _) ?_
  intro _
  refine Triple.bind (h.exists i hi) ?_
  intro found
  cases found with
  | true =>
    rw [if_pos rfl]
    exact Triple.pre (h.toKeeps.counted _) fun s hs => hs.1
  | false =>
    rw [if_neg Bool.false_ne_true]
    apply Triple.of_state
    intro s₀ hs₀
    have hn : N i := hs₀.2 rfl
    refine Triple.bind ((h.prepare i hi).pre fun s hs => hs ▸ hs₀.1) ?_
    intro p
    cases p with
    | ready prepared =>
      apply Triple.of_state
      intro s₁ hs₁
      have hp : A i prepared := hs₁.2 prepared rfl
      refine Triple.bind ((h.startNew i prepared hi hn hp).pre fun s hs => hs ▸ hs₁.1) ?_
      intro _
      exact h.toKeeps.counted _
    | skip reason =>
      refine Triple.bind ((h.skip i reason hi hn).pre fun s hs => hs.1) ?_
      intro _
      exact h.toKeeps.counted _

theorem migratePass : Triple I m.migratePass (fun _ => E) R :=
  h.toKeeps.migratePass h.latest h.count h.list h.migrateInstance

theorem run : Triple I (m.run .migrate) (fun _ => E) R := h.toKeeps.run h.migratePass

end KeepsMigrating

/-- A run of any mode keeps what its steps keep. -/
theorem run_keeps (hretrying : KeepsRetrying m I E R F A) (hmigrating : KeepsMigrating m I E R F N A)
    (mode : Mode) : Triple I (m.run mode) (fun _ => I) R := by
  cases mode with
  | migrate => exact hmigrating.run.post fun _ s hs => hmigrating.ended s hs
  | retrySkipped => exact hretrying.run.post fun _ s hs => hretrying.ended s hs
  | listSkipped => exact hretrying.toKeeps.runListing

end

/-! ## The outcome of a run -/

section

variable {m : Migrator σ} {mode : Mode} {s s' : RunState σ}

/-- A run that begins: nothing is counted or printed yet. -/
def fresh (mode : Mode) (s : RunState σ) : RunState σ :=
  { s with report := { mode }, output := {}, givenUp := [] }

theorem run_ok (hpass : (m.pass mode).run (fresh mode s) = (.ok (), s')) :
    (m.run mode).run s = (.ok s'.report, s') := by
  unfold Migrator.run
  rw [Action.run_bind_ok (Action.run_modify _ s)]
  exact (Action.run_bind_ok hpass _).trans (Action.run_bind_ok (Action.run_get s') _)

theorem run_error {e : MigrationError} (hpass : (m.pass mode).run (fresh mode s) = (.error e, s')) :
    (m.run mode).run s = (.error e, s') := by
  unfold Migrator.run
  rw [Action.run_bind_ok (Action.run_modify _ s)]
  exact Action.run_bind_error hpass _

/-- A run that comes to its end is a pass that does, and its report is what was counted. -/
theorem of_run_ok {report : Report} (h : (m.run mode).run s = (.ok report, s')) :
    (m.pass mode).run (fresh mode s) = (.ok (), s') ∧ report = s'.report := by
  rcases hpass : (m.pass mode).run (fresh mode s) with ⟨e | ⟨⟩, s''⟩
  · rw [run_error hpass] at h
    cases h
  · rw [run_ok hpass] at h
    cases h
    exact ⟨rfl, rfl⟩

end
end Migrator
end ProcessMigration
