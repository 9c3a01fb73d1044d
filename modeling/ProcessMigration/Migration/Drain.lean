import ProcessMigration.Migration.RunState

/-!
# Handing over

A started instance stops at its start event, where a job of the migrator waits. When the target
engine hands out that job, the instance is moved onto its active elements.

* `freshJobs` picks the jobs that have not come up before, each once;
* `Migrator.handOver` deals with one job: an instance that was started in this run waits with its
  activations; one from an earlier run is resolved again, provided that its mapping record names
  exactly this instance;
* `Migrator.drain` asks for jobs until an answer brings none that is new.

The jobs of a drain are finitely many, so it ends; `JobEngine.jobBound` says how many there can be.
-/

namespace ProcessMigration

/-- The jobs whose keys have not been seen, each key once, and all keys seen then. -/
def freshJobs : List Job → List Int → List Job × List Int
  | [], seen => ([], seen)
  | j :: rest, seen =>
    if seen.contains j.key then freshJobs rest seen
    else
      let (jobs, seen) := freshJobs rest (j.key :: seen)
      (j :: jobs, seen)

namespace Migrator

variable {σ : Type}

/-- The activations of an instance that an earlier run has started, unless it cannot be told what
they are: the mapping record names another instance or none, the source instance is gone, or it can
no longer be carried over. -/
def resolveAgain (m : Migrator σ) (legacyId : String) (instanceKey : Int) :
    Run σ (Option (List Activation)) := do
  let mapped ← Run.store (m.env.store.targetKey? legacyId)
  if mapped ≠ some instanceKey then return none
  else
    match ← Run.engine (m.env.source.find? legacyId) with
    | none => return none
    | some i =>
      match ← Run.call (m.prepare i) with
      | .ready prepared => return some prepared.activations
      | .skip _ => return none

/-- The activations for the instance of a job; what waited is taken out. -/
def activationsFor (m : Migrator σ) (legacyId : String) (instanceKey : Int) :
    Run σ (Option (List Activation)) := do
  let s ← Action.get
  match s.pending.get? instanceKey with
  | some h =>
    Run.modifyPending fun p => p.erase instanceKey
    return some h.activations
  | none => m.resolveAgain legacyId instanceKey

/-- Deals with one job. -/
def handOver (m : Migrator σ) (job : Job) : Run σ Unit :=
  match job.legacyId? with
  | none => Run.count fun r => { r with externallyStartedJobs := r.externallyStartedJobs + 1 }
  | some legacyId => do
    match ← m.activationsFor legacyId job.instanceKey with
    | none => Run.count fun r => { r with unresolvedJobs := r.unresolvedJobs + 1 }
    | some activations =>
      Run.engine (m.env.target.modifyInstance job.instanceKey job.elementInstanceKey activations)
      Run.count fun r => { r with jobsActivated := r.jobsActivated + 1 }

/-- Asks for jobs and deals with the new ones until an answer brings none, in at most so many
rounds. -/
def drainRounds (m : Migrator σ) : Nat → List Int → Run σ Unit
  | 0, _ => Action.fail .endless
  | rounds + 1, seen => do
    let jobs ← Run.engine (m.env.target.activateJobs m.settings.jobType m.settings.maxJobs)
    match freshJobs jobs seen with
    | ([], _) => return ()
    | (fresh, seen) =>
      Action.forAll fresh m.handOver
      drainRounds m rounds seen

/-- Hands over to all instances whose jobs come up. Whatever still waits then is given up. -/
def drain (m : Migrator σ) : Run σ Unit := do
  let s ← Action.get
  m.drainRounds (m.env.target.jobBound s.world + 1) []
  Run.giveUp

/-- Hands over when a page's worth of instances waits. -/
def drainWhenFull (m : Migrator σ) : Run σ Unit := do
  let s ← Action.get
  if m.settings.pageSize ≤ s.pending.size then m.drain else return ()

end Migrator
end ProcessMigration
