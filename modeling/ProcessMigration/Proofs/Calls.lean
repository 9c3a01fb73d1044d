import ProcessMigration.Proofs.MappingTable
import ProcessMigration.Proofs.TargetEngine

/-!
# Calls over files

A call of a run over files acts on the target engine or on the database of the workspace, after others
have started instances. These rules take a call to the specification of its action.

* `Interrupted.startByOther_run` and `Interrupted.startByOther_cases`: what others do to the target
  engine;
* `Run.stable_of_starts`: what is not disturbed by one more instance is stable; `Run.stable_of_apart`:
  so is what does not look at the instances at all;
* `Run.target_call` is the rule for a call to the target engine, `Run.fetch_call` the one for the
  call that hands out jobs, `Run.store_call` the one for a change of the mapping store.
-/

namespace ProcessMigration

open ProcessMigration.Action (Triple ReadOnly)

theorem Workspace.onStore_readOnly {α : Type} {x : StoreTables → StoreAction α}
    (hx : ∀ t, ReadOnly (x t)) : ReadOnly (onStore x) := by
  intro w
  have h := hx w.tables w.database
  unfold Action.run onStore Action.onPart at *
  rcases hrun : x w.tables w.database with ⟨r, db⟩
  rw [hrun] at h
  simp only at h
  subst h
  rfl

namespace Interrupted

/-- The target engine of the workspace. -/
def target (d : Interrupted Workspace) : TargetEngine := d.world.target

/-- The same course of events with another target engine. -/
def withTarget (d : Interrupted Workspace) (target : TargetEngine) : Interrupted Workspace :=
  d.withWorld { d.world with target }

/-- The same course of events with another database. -/
def withDatabase (d : Interrupted Workspace) (database : Database) : Interrupted Workspace :=
  d.withWorld { d.world with database }

/-- The same course of events after others have started an instance. -/
def joinedBy (d : Interrupted Workspace) (target : TargetEngine) (key : Int) :
    Interrupted Workspace :=
  { d.withTarget target with startedByOthers := d.startedByOthers ++ [key] }

/-- What others leave when they ask for an instance, by the answer of the target engine. -/
theorem startByOther_run (d : Interrupted Workspace) (request : CreateRequest) :
    d.startByOther Workspace.jobEngine request =
      match (TargetEngine.createInstance request).run d.world.target with
      | (.ok handle, t) => d.joinedBy t handle.instanceKey
      | (.error _, t) => d.withTarget t := by
  have hrun : (Workspace.jobEngine.createInstance request).run d.world =
      (((TargetEngine.createInstance request).run d.world.target).1,
        { d.world with target := ((TargetEngine.createInstance request).run d.world.target).2 }) :=
    rfl
  unfold startByOther
  rw [hrun]
  rcases (TargetEngine.createInstance request).run d.world.target with ⟨r, t⟩
  cases r with
  | ok handle => rfl
  | error cause => rfl

/-- Others start one instance, or draw keys in vain. -/
theorem startByOther_cases (d : Interrupted Workspace) (hd : d.target.Sound)
    (request : CreateRequest) :
    (∃ t, d.target.Idle t ∧ d.startByOther Workspace.jobEngine request = d.withTarget t) ∨
      ∃ e t, t.Sound ∧ TargetEngine.Starts request e d.target t ∧
        d.startByOther Workspace.jobEngine request = d.joinedBy t e.instanceKey := by
  have hcreate := TargetEngine.createInstance_triple hd request d.target rfl
  rw [startByOther_run]
  rcases hx : (TargetEngine.createInstance request).run d.world.target with ⟨r, t⟩
  rw [show d.target = d.world.target from rfl, hx] at hcreate
  cases r with
  | ok handle =>
    obtain ⟨hsound, e, hkey, hstarts⟩ := hcreate
    refine .inr ⟨e, t, hsound, hstarts, ?_⟩
    rw [← hkey]
  | error cause => exact .inl ⟨t, hcreate, rfl⟩

/-- Whatever others do, only the target engine and the keys of their instances can change. -/
theorem startByOther_eq (d : Interrupted Workspace) (request : CreateRequest) :
    ∃ t startedByOthers, d.startByOther Workspace.jobEngine request =
      { d.withTarget t with startedByOthers } := by
  rw [startByOther_run]
  rcases (TargetEngine.createInstance request).run d.world.target with ⟨r, t⟩
  cases r with
  | ok handle => exact ⟨t, _, rfl⟩
  | error cause => exact ⟨t, d.startedByOthers, rfl⟩

end Interrupted

namespace RunState

/-- The same state of a run with another target engine. -/
def withTarget (s : RunState (Interrupted Workspace)) (target : TargetEngine) :
    RunState (Interrupted Workspace) :=
  { s with world := s.world.withTarget target }

/-- The same state of a run with another database. -/
def withDatabase (s : RunState (Interrupted Workspace)) (database : Database) :
    RunState (Interrupted Workspace) :=
  { s with world := s.world.withDatabase database }

end RunState

namespace Run

variable {α : Type} {P M R : RunState (Interrupted Workspace) → Prop}
  {Q : α → RunState (Interrupted Workspace) → Prop}

/-- What is not disturbed by one more instance, or by keys that are drawn in vain, is stable. -/
theorem stable_of_starts (hsound : ∀ s, P s → s.world.target.Sound)
    (hcoming : ∀ s coming, P s → P { s with world := { s.world with coming } })
    (hidle : ∀ s t, P s → s.world.target.Idle t → P (s.withTarget t))
    (hstarts : ∀ s t request e, P s → t.Sound → TargetEngine.Starts request e s.world.target t →
      P { s with world := s.world.joinedBy t e.instanceKey }) :
    Run.Stable Workspace.jobEngine P := by
  intro s
  constructor
  · intro d request hd
    have hd' : P { s with world := d } := hd
    rcases d.startByOther_cases (hsound _ hd') request with ⟨t, ht, heq⟩ | ⟨e, t, ht, hstart, heq⟩
    · rw [heq]
      exact hidle { s with world := d } t hd' ht
    · rw [heq]
      exact hstarts { s with world := d } t request e hd' ht hstart
  · intro d coming hd
    exact hcoming { s with world := d } coming hd

/-- What does not look at the instances is stable. -/
theorem stable_of_apart
    (hcoming : ∀ s coming, P s → P { s with world := { s.world with coming } })
    (hothers : ∀ s t startedByOthers, P s →
      P { s with world := { s.world.withTarget t with startedByOthers } }) :
    Run.Stable Workspace.jobEngine P := by
  intro s
  constructor
  · intro d request hd
    obtain ⟨t, startedByOthers, heq⟩ := d.startByOther_eq request
    rw [heq]
    exact hothers { s with world := d } t startedByOthers hd
  · intro d coming hd
    exact hcoming { s with world := d } coming hd

/-- The rule for a call to the target engine. -/
theorem target_call (op : EngineOperation) (note : Interrupted Workspace → Interrupted Workspace)
    (x : TargetAction α) (hP : Run.Stable Workspace.jobEngine P)
    (hnote : ∀ s, P s → M { s with world := note s.world }) (hrefused : ∀ s, M s → R s)
    (hx : ∀ s, M s → Triple (fun t => t = s.world.target) x (fun a t => Q a (s.withTarget t))
      fun t => R (s.withTarget t))
    (hcut : ∀ a s, Q a s → R s) :
    Triple P (Run.engine (Interrupted.call Workspace.jobEngine (Interrupted.engineFailure op) note
      (Interrupted.inside (Workspace.onTarget x)))) Q R := by
  apply Run.call_triple
  intro s
  apply Triple.mapError
  refine Interrupted.call_triple (M := fun d => M { s with world := d }) (hP s)
    (fun d hd => hnote { s with world := d } hd) (fun d hd => hrefused _ hd) ?_
    fun a d hd => hcut a _ hd
  apply Interrupted.inside_triple
  intro d hd
  apply Triple.onPart
  intro w hw
  subst hw
  exact hx { s with world := d } hd

/-- The rule for the call that hands out jobs. -/
theorem fetch_call {Q : List Job → RunState (Interrupted Workspace) → Prop}
    (jobType : String) (limit : Nat) (hP : Run.Stable Workspace.jobEngine P)
    (hsound : ∀ s, P s → s.world.target.Sound) (hrefused : ∀ s, P s → R s)
    (hx : ∀ s t jobs, P s → t.Sound →
      jobs = TargetEngine.available s.world.target.state jobType limit →
      t.state = s.world.target.state.handOut jobs →
      t.definitions = s.world.target.definitions →
      Q jobs { s with world := (s.world.withTarget t).arrived jobs })
    (hcut : ∀ jobs s, Q jobs s → R s) :
    Triple P (Run.engine (Interrupted.call Workspace.jobEngine
      (Interrupted.engineFailure .activateJobs) id
      (Interrupted.fetchJobs Workspace.environment jobType limit))) Q R := by
  apply Run.call_triple
  intro s
  apply Triple.mapError
  refine Interrupted.call_triple (M := fun d => P { s with world := d }) (hP s)
    (fun d hd => hd) (fun d hd => hrefused _ hd) ?_ fun jobs d hd => hcut jobs _ hd
  refine Triple.bind (M := fun jobs d => Q jobs { s with world := d.arrived jobs }) ?_ ?_
  · show Triple _ (Interrupted.inside
      (Workspace.onTarget (TargetEngine.activateJobs jobType limit))) _ _
    apply Interrupted.inside_triple
    intro d hd
    apply Triple.onPart
    intro w hw
    subst hw
    refine (TargetEngine.activateJobs_triple (hsound _ hd) jobType limit).ends ?_ fun _ h => h.elim
    intro jobs t ⟨ht, hjobs, hstate, hdefinitions⟩
    exact hx { s with world := d } t jobs hd ht hjobs hstate hdefinitions
  · intro jobs
    refine Triple.bind (M := fun _ d => Q jobs { s with world := d })
      (Triple.modify fun d hd => hd) ?_
    intro _
    exact Triple.pure fun d hd => hd

/-- The rule for a change of the mapping store. -/
theorem store_call (x : StoreTables → StoreAction α) (hP : Run.Stable Workspace.jobEngine P)
    (hrefused : ∀ s, P s → R s)
    (hx : ∀ s, P s → Triple (fun db => db = s.world.world.database) (x s.world.world.tables)
      (fun a db => Q a (s.withDatabase db)) fun db => R (s.withDatabase db))
    (hcut : ∀ a s, Q a s → R s) :
    Triple P (Run.store (Interrupted.storeCall Workspace.environment (Workspace.onStore x))) Q R := by
  apply Run.call_triple
  intro s
  apply Triple.mapError
  refine Interrupted.call_triple (M := fun d => P { s with world := d }) (hP s)
    (fun d hd => hd) (fun d hd => hrefused _ hd) ?_ fun a d hd => hcut a _ hd
  apply Interrupted.inside_triple
  intro d hd
  apply Triple.of_state
  intro w hw
  subst hw
  have hstore : Triple (fun w => w = d.world)
      ((x d.world.tables).onPart Workspace.database fun database w => { w with database })
      (fun a w => Q a { s with world := d.withWorld w })
      fun w => R { s with world := d.withWorld w } := by
    apply Triple.onPart
    intro w hw
    subst hw
    exact hx { s with world := d } hd
  intro w hw
  subst hw
  exact hstore d.world rfl

end Run
end ProcessMigration
