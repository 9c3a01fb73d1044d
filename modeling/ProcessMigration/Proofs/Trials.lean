import ProcessMigration.Migration.Trial
import ProcessMigration.Proofs.FileRuns
import ProcessMigration.Proofs.Repetition
import ProcessMigration.Proofs.TargetCalls

/-!
# Calls in a trial

In a trial every call can fail, and one that fails ends the run. So a rule for a call needs to know
two things: what the action does when it is carried out, and that the state before it is one that a
failed run may leave behind.

* `Trial.Steady`: a property does not depend on how the coming calls fare;
* `Run.trial_asks` and `Run.trial_asksStore` are the rules for questions, `Run.trial_commands` the one
  for commands to the target engine, `Run.trial_creates` and `Run.trial_writes` those for new instances
  and for the mapping store;
* `Trial.reads`: what a preparation asks in a trial is read off the workspace of the trial.
-/

namespace ProcessMigration

open ProcessMigration.Action (Triple ReadOnly)

variable {ε α : Type}

/-! ## Calls -/

namespace Trial

variable {P R : Trial → Prop} {Q : α → Trial → Prop}

/-- A property does not depend on how the coming calls fare. -/
def Steady (P : Trial → Prop) : Prop := ∀ d coming, P d → P { d with coming := coming }

/-- The trial with another target engine. -/
def withTarget (d : Trial) (target : TargetEngine) : Trial := d.withWorld { d.world with target }

/-- The trial with another database. -/
def withDatabase (d : Trial) (database : Database) : Trial :=
  d.withWorld { d.world with database }

theorem Steady.next (hP : Steady P) {d : Trial} (hd : P d) : P d.next.2 := by
  unfold Trial.next
  split
  · exact hd
  · exact hP d _ hd

/-- The rule for a call that does nothing when it fails. -/
theorem query_triple {failure : String → ε} {x : Action Trial ε α} (hP : Steady P)
    (hfailed : ∀ d, P d → R d) (hx : Triple P x Q R) : Triple P (query failure x) Q R := by
  intro d hd
  have hnext := hP.next hd
  unfold Action.run query
  rcases hn : d.next with ⟨_ | f, d'⟩
  all_goals rw [hn] at hnext
  · exact hx d' hnext
  · exact hfailed d' hnext

theorem inside_triple {x : Action Workspace ε α}
    (hx : ∀ d, P d → Triple (fun w => w = d.world) x (fun a w => Q a (d.withWorld w))
      fun w => R (d.withWorld w)) : Triple P (inside x) Q R :=
  Triple.onPart hx

theorem inside_reads {x : Action Workspace ε α} (hx : ReadOnly x) :
    Triple P (inside x) (fun a d => P d ∧ (x.run d.world).1 = .ok a) P := by
  apply inside_triple
  intro d hd
  refine hx.triple.ends ?_ ?_
  · intro a w ⟨hw, hrun⟩
    subst hw
    exact ⟨hd, hrun⟩
  · intro w hw
    subst hw
    exact hd

/-- A question keeps what is steady, and its answer is that of the world. -/
theorem query_reads {failure : String → ε} {x : Action Workspace ε α} (hP : Steady P)
    (hx : ReadOnly x) :
    Triple P (query failure (inside x)) (fun a d => P d ∧ (x.run d.world).1 = .ok a) P :=
  query_triple hP (fun _ hd => hd) (inside_reads hx)

theorem onTarget_triple {x : TargetAction α}
    (hx : ∀ d, P d → Triple (fun t => t = d.world.target) x (fun a t => Q a (d.withTarget t))
      fun t => R (d.withTarget t)) : Triple P (inside (Workspace.onTarget x)) Q R := by
  apply inside_triple
  intro d hd
  apply Triple.onPart
  intro w hw
  subst hw
  exact hx d hd

/-- The rule for a command to the target engine. -/
theorem command_triple {op : EngineOperation} {x : TargetAction α} (hP : Steady P)
    (hfailed : ∀ d, P d → R d)
    (hx : ∀ d, P d → Triple (fun t => t = d.world.target) x (fun a t => Q a (d.withTarget t))
      fun t => R (d.withTarget t))
    (hjam : ∀ d cause, P d → Triple (fun t => t = d.world.target) (TargetEngine.jam cause x)
      (fun a t => Q a (d.withTarget t)) fun t => R (d.withTarget t)) :
    Triple P (command op x) Q R := by
  intro d hd
  have hnext := hP.next hd
  unfold Action.run command
  rcases hn : d.next with ⟨fate, d'⟩
  rw [hn] at hnext
  cases fate with
  | none => exact onTarget_triple hx d' hnext
  | some f =>
    cases f with
    | refused message => exact hfailed d' hnext
    | jammed cause => exact onTarget_triple (fun d hd => hjam d cause hd) d' hnext

/-- The rule for a write to the mapping store. -/
theorem write_triple {R : Trial → Prop} {Q : Unit → Trial → Prop} {x : StoreTables → StoreAction Unit}
    (hP : Steady P) (hlost : ∀ d, P d → R { d with lostWrites := d.lostWrites + 1 })
    (hx : ∀ d, P d → Triple (fun db => db = d.world.database) (x d.world.tables)
      (fun a db => Q a (d.withDatabase db))
      fun db => ∀ e, R { d.withDatabase db with rejected := d.rejected ++ [e] }) :
    Triple P (write (Workspace.onStore x)) Q R := by
  intro d hd
  have hnext := hP.next hd
  unfold Action.run write
  rcases hn : d.next with ⟨_ | f, d'⟩
  all_goals rw [hn] at hnext
  · -- what the database answers to the write
    have hrun := hx d' hnext d'.world.database rfl
    unfold Action.run at hrun
    unfold inside Workspace.onStore Action.onPart Action.run
    dsimp only
    rcases hdb : x d'.world.tables d'.world.database with ⟨r, db⟩
    rw [hdb] at hrun
    cases r with
    | ok a => exact hrun
    | error e => exact hrun e
  · exact hlost d' hnext

end Trial

/-! ## Calls of a run -/

namespace Run

variable {P R : RunState Trial → Prop} {Q : α → RunState Trial → Prop}

/-- A property of runs does not depend on how the coming calls fare. -/
def Steady (P : RunState Trial → Prop) : Prop :=
  ∀ s : RunState Trial, Trial.Steady fun d => P { s with world := d }

theorem trial_asks {op : EngineOperation} {x : Action Workspace ConnectorError α}
    (hP : Run.Steady P) (hx : ReadOnly x) :
    Triple P (Run.engine (Trial.ask op x)) (fun a s => P s ∧ (x.run s.world.world).1 = .ok a) P :=
  Run.call_triple fun s => Triple.mapError (Trial.query_reads (hP s) hx)

theorem trial_asksStore {x : StoreTables → StoreAction α} (hP : Run.Steady P)
    (hx : ∀ t, ReadOnly (x t)) :
    Triple P (Run.store (Trial.askStore (Workspace.onStore x)))
      (fun a s => P s ∧ ((x s.world.world.tables).run s.world.world.database).1 = .ok a) P :=
  Run.call_triple fun s =>
    Triple.mapError (Trial.query_reads (hP s) (Workspace.onStore_readOnly hx))

theorem trial_commands {op : EngineOperation} {x : TargetAction α} (hP : Run.Steady P)
    (hfailed : ∀ s, P s → R s)
    (hx : ∀ s, P s → Triple (fun t => t = s.world.world.target) x
      (fun a t => Q a { s with world := s.world.withTarget t })
      fun t => R { s with world := s.world.withTarget t })
    (hjam : ∀ s cause, P s → Triple (fun t => t = s.world.world.target) (TargetEngine.jam cause x)
      (fun a t => Q a { s with world := s.world.withTarget t })
      fun t => R { s with world := s.world.withTarget t }) :
    Triple P (Run.engine (Trial.command op x)) Q R :=
  Run.call_triple fun s => Triple.mapError (Trial.command_triple (hP s) (fun _ hd => hfailed _ hd)
    (fun d hd => hx { s with world := d } hd) fun d cause hd => hjam { s with world := d } cause hd)

/-- The rule for the call that hands out jobs. -/
theorem trial_fetches {Q : List Job → RunState Trial → Prop} {jobType : String} {limit : Nat}
    (hP : Run.Steady P) (hfailed : ∀ s, P s → R s)
    (hx : ∀ s, P s → Triple (fun t => t = s.world.world.target)
      (TargetEngine.activateJobs jobType limit)
      (fun jobs t => Q jobs { s with world := s.world.withTarget t })
      fun t => R { s with world := s.world.withTarget t }) :
    Triple P (Run.engine (Trial.ask .activateJobs (Workspace.jobEngine.activateJobs jobType limit)))
      Q R :=
  Run.call_triple fun s => Triple.mapError <| Trial.query_triple (hP s) (fun _ hd => hfailed _ hd)
    (show Triple _ (Trial.inside (Workspace.onTarget (TargetEngine.activateJobs jobType limit))) _ _
      from Trial.onTarget_triple fun d hd => hx { s with world := d } hd)

/-- The rule for the call that starts an instance; its answer is written down. -/
theorem trial_creates {Q : InstanceHandle → RunState Trial → Prop} {request : CreateRequest}
    (hP : Run.Steady P) (hfailed : ∀ s, P s → R s)
    (hx : ∀ s, P s → Triple (fun t => t = s.world.world.target)
      (TargetEngine.createInstance request)
      (fun handle t => Q handle { s with world := { s.world.withTarget t with
        started := s.world.started ++ [(request, handle)] } })
      fun t => R { s with world := s.world.withTarget t })
    (hidle : ∀ s t, P s → s.world.world.target.Idle t →
      R { s with world := s.world.withTarget t }) :
    Triple P (Run.engine (Trial.create request)) Q R := by
  apply Run.call_triple
  intro s
  apply Triple.mapError
  refine Triple.bind (M := fun handle d =>
    Q handle { s with world := { d with started := d.started ++ [(request, handle)] } })
    ?_ ?_
  · refine Trial.command_triple (hP s) (fun _ hd => hfailed _ hd)
      (fun d hd => hx { s with world := d } hd) ?_
    intro d cause hd
    refine (TargetEngine.createInstance_jammed cause request).ends (fun _ _ ht => ht.elim) ?_
    intro t ht
    exact hidle { s with world := d } t hd ht
  · intro handle
    refine Triple.bind (M := fun _ d => Q handle { s with world := d })
      (Triple.modify fun d hd => hd) ?_
    intro _
    exact Triple.pure fun d hd => hd

theorem trial_writes {R : RunState Trial → Prop} {Q : Unit → RunState Trial → Prop}
    {x : StoreTables → StoreAction Unit} (hP : Run.Steady P)
    (hlost : ∀ s, P s →
      R { s with world := { s.world with lostWrites := s.world.lostWrites + 1 } })
    (hx : ∀ s, P s → Triple (fun db => db = s.world.world.database) (x s.world.world.tables)
      (fun a db => Q a { s with world := s.world.withDatabase db })
      fun db => ∀ e, R { s with world :=
        { s.world.withDatabase db with rejected := s.world.rejected ++ [e] } }) :
    Triple P (Run.store (Trial.write (Workspace.onStore x))) Q R :=
  Run.call_triple fun s => Triple.mapError (Trial.write_triple (hP s) (fun _ hd => hlost _ hd)
    fun d hd => hx { s with world := d } hd)

end Run

/-! ## Preparations -/

/-- In a trial the questions are read off its workspace, unless they fail. -/
theorem Trial.reads {P : Trial → Prop} (hP : Trial.Steady P) :
    Trial.environment.Reads (·.world) P where
  activityTree _ := Trial.query_reads hP (Workspace.onSource_readOnly _)
  variablesOf _ := Trial.query_reads hP (Workspace.onSource_readOnly _)
  completedBefore _ _ := Trial.query_reads hP (Workspace.onSource_readOnly _)
  searchDefinitions businessId :=
    Trial.query_reads hP (Workspace.searchDefinitions_readOnly businessId)

/-- What a workspace prepares for an instance carries the id of the instance. -/
theorem Workspace.fits_of_prepare {w : Workspace} {settings : MigrationSettings}
    {pipeline : Pipeline} {i : SourceInstance} {prepared : Prepared}
    (h : (((Workspace.migrator settings pipeline).prepare i).run w).1 = .ok (.ready prepared)) :
    prepared.Fits settings w.target.definitions i := by
  have hanswers : (Workspace.migrator settings pipeline).env.Answers (fun w' => w' = w)
      w.target.definitions := by
    have hsource : ∀ {α : Type} (f : SnapshotSource → Except ConnectorError α),
        Triple (fun w' => w' = w) (Workspace.onSource f) (fun _ w' => w' = w) fun w' => w' = w :=
      fun f => (Workspace.onSource_readOnly f).triple.post fun _ _ hw => hw.1
    constructor
    case activityTree => exact fun id => hsource fun s => s.activityTree id
    case variablesOf => exact fun scopeId => hsource fun s => .ok (s.variablesOf scopeId)
    case completedBefore => exact fun id gateway => hsource fun s => s.completedBefore id gateway
    case searchDefinitions =>
      intro businessId
      refine (Workspace.searchDefinitions_readOnly businessId).triple.post ?_
      intro found w' ⟨hw, hfound⟩
      subst hw
      cases hfound
      exact ⟨rfl, rfl⟩
  exact (((Migrator.prepare_triple hanswers i).ok rfl h)).2 prepared rfl

end ProcessMigration
