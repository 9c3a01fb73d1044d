import ProcessMigration.Target.Engine

/-!
# Calls to the target engine

A caller of the target engine sends one call after the other, whether they succeed or fail. While a
call is carried out the journal may be **jammed**: it takes no line, and nothing of a line gets into
it.

* `TargetCall.perform` carries out a call; `TargetEngine.after` is the engine after a list of calls;
* `TargetEngine.jam` carries out an action while the journal is jammed;
* `TargetEngine.delivered` lists the jobs that the calls were answered with;
* `JournalFile.afterSessions` is the journal after one session after the other, each of which opens
  it anew.
-/

namespace ProcessMigration

/-- A call that may change the target engine. -/
inductive TargetCall where
  | create (request : CreateRequest)
  | modify (instanceKey terminatedKey : Int) (activations : List Activation)
  | activate (jobType : String) (limit : Nat)

namespace TargetEngine

/-- The engine with another journal file. -/
def withJournal (t : TargetEngine) (journal : JournalFile) : TargetEngine := { t with journal }

/-- Carries out an action while the journal takes no line. -/
def jam {α : Type} (cause : FileError) (x : TargetAction α) : TargetAction α := fun t =>
  match x.run (t.withJournal (.broken cause)) with
  | (r, t') => (r, t'.withJournal t.journal)

end TargetEngine

/-- Carries out a call. -/
def TargetCall.perform : TargetCall → TargetAction Unit
  | create request => do
    let _ ← TargetEngine.createInstance request
    return ()
  | modify instanceKey terminatedKey activations =>
    TargetEngine.modifyInstance instanceKey terminatedKey activations
  | activate jobType limit => do
    let _ ← TargetEngine.activateJobs jobType limit
    return ()

/-- A call, and why the journal takes no line meanwhile, if it takes none. -/
structure TargetStep where
  call : TargetCall
  jammed : Option FileError := none

/-- Carries out a call as the journal allows. -/
def TargetStep.perform (c : TargetStep) : TargetAction Unit :=
  match c.jammed with
  | none => c.call.perform
  | some cause => TargetEngine.jam cause c.call.perform

/-- The engine after a list of calls. -/
def TargetEngine.after (t : TargetEngine) (steps : List TargetStep) : TargetEngine :=
  steps.foldl (fun t c => (c.perform.run t).2) t

/-- The jobs that a call is answered with. -/
def TargetStep.jobs (c : TargetStep) (t : TargetEngine) : List Job :=
  match c.call with
  | .activate jobType limit =>
    let activate := TargetEngine.activateJobs jobType limit
    let answered := match c.jammed with
      | none => activate
      | some cause => TargetEngine.jam cause activate
    match answered.run t with
    | (.ok jobs, _) => jobs
    | (.error _, _) => []
  | _ => []

/-- The jobs that a list of calls is answered with. -/
def TargetEngine.delivered (t : TargetEngine) : List TargetStep → List Job
  | [] => []
  | c :: rest => c.jobs t ++ delivered (c.perform.run t).2 rest

/-! ## Sessions -/

/-- A session: the engine is opened with these definitions and called. -/
structure TargetSession where
  definitions : List Definition
  steps : List TargetStep

namespace JournalFile

/-- The journal after a session. One that cannot be opened stays as it is. -/
def afterSession (path : String) (f : JournalFile) (s : TargetSession) : JournalFile :=
  match TargetEngine.open s.definitions path f with
  | .error _ => f
  | .ok t => (t.after s.steps).journal

/-- The journal after one session after the other. -/
def afterSessions (path : String) (f : JournalFile) (sessions : List TargetSession) : JournalFile :=
  sessions.foldl (afterSession path) f

end JournalFile

end ProcessMigration
