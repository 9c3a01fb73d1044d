import ProcessMigration.Proofs.Calls

/-!
# Runs that nothing disturbs

Where no incident is to come and nobody else starts instances, every call is answered. These rules
say so for the calls of a run over files; what they conclude is that a call succeeds.

* `Interrupted.Quiet` and `Run.Quiet`: nothing happens around the calls to come;
* `Run.store_answers` and `Run.query_answers` are the rules for questions with a known answer;
* `Run.store_quiet` and `Run.target_quiet` are those for changes that succeed.
-/

namespace ProcessMigration

open ProcessMigration.Action (Triple)

variable {ε α : Type}

/-! ## Calls that are answered -/

namespace Interrupted

/-- Nothing happens around the calls to come. -/
def Quiet (P : Workspace → Prop) (d : Interrupted Workspace) : Prop := d.coming = [] ∧ P d.world

variable {P : Workspace → Prop} {Q : α → Workspace → Prop} {failure : String → ε}
  {note : Interrupted Workspace → Interrupted Workspace}

/-- A call around which nothing happens is answered. -/
theorem call_quiet {x : Action (Interrupted Workspace) ε α} (hnote : ∀ d, Quiet P d → Quiet P (note d))
    (hx : Triple (Quiet P) x (fun a => Quiet (Q a)) (fun _ => False)) :
    Triple (Quiet P) (call Workspace.jobEngine failure note x) (fun a => Quiet (Q a))
      (fun _ => False) := by
  intro d hd
  have hrun := hx _ (hnote d hd)
  have hnext : next Workspace.jobEngine d = (.answered, d) := by
    unfold next
    rw [hd.1]
  unfold Action.run call at *
  rw [hnext]
  exact hrun

theorem inside_quiet {x : Action Workspace ε α} (hx : Triple P x Q (fun _ => False)) :
    Triple (Quiet P) (inside x) (fun a => Quiet (Q a)) (fun _ => False) :=
  inside_triple fun _ hd => hx.conseq (fun _ hw => hw ▸ hd.2) (fun _ _ hw => ⟨hd.1, hw⟩)
    fun _ h => h

/-- A question whose answer is known. -/
theorem query_answers {op : EngineOperation} {x : Action Workspace ConnectorError α} {a : α}
    (hx : ∀ w, P w → x.run w = (.ok a, w)) :
    Triple (Quiet P) (query Workspace.environment op x) (fun b d => b = a ∧ Quiet P d)
      (fun _ => False) := by
  refine (call_quiet (Q := fun b w => b = a ∧ P w) (fun _ hd => hd)
    (inside_quiet ?_)).post fun _ _ ⟨hcoming, ha, hw⟩ => ⟨ha, hcoming, hw⟩
  intro w hw
  rw [hx w hw]
  exact ⟨rfl, hw⟩

end Interrupted

namespace Run

open Interrupted (Quiet)

/-- A run around whose calls nothing happens. -/
def Quiet (P : Workspace → Prop) (s : RunState (Interrupted Workspace)) : Prop :=
  Interrupted.Quiet P s.world

variable {P : Workspace → Prop} {Q : α → Workspace → Prop}

theorem call_quiet {x : Action (Interrupted Workspace) MigrationError α}
    (hx : Triple (Interrupted.Quiet P) x (fun a => Interrupted.Quiet (Q a)) (fun _ => False)) :
    Triple (Run.Quiet P) (Run.call x) (fun a => Run.Quiet (Q a)) (fun _ => False) :=
  Run.call_triple fun _ => hx

/-- A question to the mapping store whose answer is known. -/
theorem store_answers {x : StoreTables → StoreAction α} {a : α}
    (hx : ∀ w, P w → (x w.tables).run w.database = (.ok a, w.database)) :
    Triple (Run.Quiet P) (Run.store (Interrupted.storeCall Workspace.environment (Workspace.onStore x)))
      (fun b s => b = a ∧ Run.Quiet P s) (fun _ => False) := by
  refine (call_quiet (Q := fun b w => b = a ∧ P w) (Triple.mapError (Interrupted.call_quiet
    (fun _ hd => hd) (Interrupted.inside_quiet ?_)))).post
    fun _ _ ⟨hcoming, ha, hw⟩ => ⟨ha, hcoming, hw⟩
  intro w hw
  have hrun : (Workspace.onStore x).run w = (.ok a, w) := by
    have h := hx w hw
    unfold Action.run at h
    unfold Action.run Workspace.onStore Action.onPart
    rw [h]
  rw [hrun]
  exact ⟨rfl, hw⟩

/-- A question to the snapshot whose answer is known. -/
theorem query_answers {op : EngineOperation} {x : Action Workspace ConnectorError α} {a : α}
    (hx : ∀ w, P w → x.run w = (.ok a, w)) :
    Triple (Run.Quiet P) (Run.engine (Interrupted.query Workspace.environment op x))
      (fun b s => b = a ∧ Run.Quiet P s) (fun _ => False) :=
  Run.call_triple fun _ => Triple.mapError (Interrupted.query_answers hx)

/-- A change of the mapping store that succeeds. -/
theorem store_quiet {x : StoreTables → StoreAction α}
    (hx : ∀ w, P w → Triple (fun db => db = w.database) (x w.tables)
      (fun a db => Q a { w with database := db }) (fun _ => False)) :
    Triple (Run.Quiet P) (Run.store (Interrupted.storeCall Workspace.environment (Workspace.onStore x)))
      (fun a => Run.Quiet (Q a)) (fun _ => False) := by
  refine call_quiet (Triple.mapError (Interrupted.call_quiet (fun _ hd => hd)
    (Interrupted.inside_quiet ?_)))
  intro w hw
  exact Triple.onPart (P := fun w' => w' = w) (fun w' hw' => hw' ▸ hx w hw) w rfl

/-- A command to the target engine that succeeds. -/
theorem target_quiet {op : EngineOperation} {c : Command} {x : TargetAction α}
    (hx : ∀ w, P w → Triple (fun t => t = w.target) x
      (fun a t => Q a { w with target := t }) (fun _ => False)) :
    Triple (Run.Quiet P) (Run.engine (Interrupted.call Workspace.jobEngine
      (Interrupted.engineFailure op) (.send c) (Interrupted.inside (Workspace.onTarget x))))
      (fun a => Run.Quiet (Q a)) (fun _ => False) :=
  call_quiet (Triple.mapError (Interrupted.call_quiet (fun _ hd => hd)
    (Interrupted.inside_quiet (Triple.onPart hx))))

end Run

end ProcessMigration
