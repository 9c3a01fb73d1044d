import ProcessMigration.Proofs.MappingTable
import ProcessMigration.Proofs.Passes

/-!
# Invariants of sessions

What every event keeps holds wherever a session goes.

* `Session.after_keeps`: the induction over the events;
* `Session.step_pass`: for a pass it suffices to look at its run, which begins with the incidents of
  the pass ahead and what earlier runs have left to be handed over.
-/

namespace ProcessMigration

open ProcessMigration.Action (Triple)

/-- The event leaves the snapshot as it is. -/
def Event.KeepsSnapshot : Event → Prop
  | .reload _ => False
  | _ => True

namespace Session

/-- These are the rows of the mapping table. -/
def Records (s : Session) (rows : List Row) : Prop := s.world.tables.Holds rows s.world.database

theorem after_cons (s : Session) (e : Event) (events : List Event) :
    s.after (e :: events) = (s.step e).after events := rfl

/-- What the events keep one by one holds in the end. -/
theorem after_keeps {P : Session → Prop} {events : List Event}
    (h : ∀ e ∈ events, ∀ s, P s → P (s.step e)) {s : Session} (hs : P s) :
    P (s.after events) := by
  induction events generalizing s with
  | nil => exact hs
  | cons e rest ih =>
    rw [after_cons]
    exact ih (fun e' he' => h e' (List.mem_cons_of_mem e he')) (h e List.mem_cons_self s hs)

/-- The state that a run of a pass starts in. -/
def runState (s : Session) (p : Pass) : RunState (Interrupted Workspace) :=
  { world := { s.state with coming := p.incidents }, pending := s.pending }

theorem step_pass {P : Session → Prop} {I J : RunState (Interrupted Workspace) → Prop} {s : Session}
    {p : Pass} (hrun : Triple I ((Workspace.interruptedMigrator p.settings p.pipeline).run p.mode)
      (fun _ => J) J)
    (hs : I (s.runState p)) (hend : ∀ r, J r → P (ofRun r)) : P (s.step (.pass p)) :=
  hend _ (hrun.state hs)

/-- A journal that cannot be read leaves the session as it is. -/
theorem step_reopen {P : Session → Prop} {s : Session} {definitions : List Definition} (hs : P s)
    (hopen : ∀ target, TargetEngine.open definitions journalName s.world.target.journal =
      .ok target → P (s.mapWorld fun w => { w with target })) :
    P (s.step (.reopen definitions)) := by
  unfold step
  dsimp only
  split
  · next target h => exact hopen target h
  · exact hs

end Session
end ProcessMigration
