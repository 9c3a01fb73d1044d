import ProcessMigration.Proofs.Preparation

/-!
# A preparation can be repeated

What is prepared for an instance depends on the snapshot and on the definitions only. So a
preparation in the course of events, where others may start instances in between, answers what a
preparation at the beginning would have answered; and what is resolved again is what was resolved at
first.

* `Action.Mirrors`: in the states of a property an action answers like another one at a fixed state;
* `Environment.Echoes`: the answers to a preparation's questions are those of another environment;
* `Migrator.prepare_mirrors` goes through the preparation;
* `Environment.Reads`: the questions are read off a workspace, and `Run.prepare_echoes` is the result
  for a run over such an environment.
-/

namespace ProcessMigration

open ProcessMigration.Action (Triple ReadOnly)

variable {σ τ α β : Type}

/-- In the states of `P` the action `x` answers like `y` does at `w`, and `y` leaves `w` as it is.
Nothing is said about the answer where the run ends. -/
structure Action.Mirrors (P : σ → Prop) (w : τ) (x : Action σ Obstacle α) (y : Action τ Obstacle α) :
    Prop where
  same : ∀ s, P s → match x.run s with
    | (.ok a, s') => P s' ∧ (y.run w).1 = .ok a
    | (.error (.skip reason), s') => P s' ∧ (y.run w).1 = .error (.skip reason)
    | (.error (.halt _), s') => P s'
  stays : (y.run w).2 = w

namespace Action.Mirrors

variable {P : σ → Prop} {w : τ}

theorem ofExcept (r : Except Obstacle α) (hr : ∀ cause, r ≠ .error (.halt cause)) :
    Mirrors P w (Action.ofExcept r) (Action.ofExcept r) where
  same s hs := by
    cases r with
    | ok a => exact ⟨hs, rfl⟩
    | error e =>
      cases e with
      | skip reason => exact ⟨hs, rfl⟩
      | halt cause => exact absurd rfl (hr cause)
  stays := rfl

theorem pure (a : α) : Mirrors P w (Pure.pure a) (Pure.pure a) where
  same _ hs := ⟨hs, rfl⟩
  stays := rfl

theorem bind {x : Action σ Obstacle α} {y : Action τ Obstacle α} {f : α → Action σ Obstacle β}
    {g : α → Action τ Obstacle β} (hx : Mirrors P w x y) (hf : ∀ a, Mirrors P w (f a) (g a)) :
    Mirrors P w (x >>= f) (y >>= g) := by
  have hstays := hx.stays
  rcases hy : y.run w with ⟨answer, w'⟩
  rw [hy] at hstays
  simp only at hstays
  subst hstays
  constructor
  · intro s hs
    have hsame := hx.same s hs
    rw [hy] at hsame
    rw [run_bind, run_bind, hy]
    rcases hrun : x.run s with ⟨r, s'⟩
    rw [hrun] at hsame
    cases r with
    | ok a =>
      obtain ⟨hs', rfl⟩ := hsame
      exact (hf a).same s' hs'
    | error e =>
      cases e with
      | skip reason =>
        obtain ⟨hs', rfl⟩ := hsame
        exact ⟨hs', rfl⟩
      | halt cause => exact hsame
  · rw [run_bind, hy]
    cases answer with
    | ok a => exact (hf a).stays
    | error e => rfl

theorem ask {x : Action σ ConnectorError α} {y : Action τ ConnectorError α}
    (hx : Triple P x (fun a s => P s ∧ (y.run w).1 = .ok a) P) (hy : ReadOnly y) :
    Mirrors P w (Migrator.ask x) (Migrator.ask y) := by
  have hstays := hy w
  rcases hrun : y.run w with ⟨answer, w'⟩
  rw [hrun] at hx hstays
  simp only at hstays
  subst hstays
  unfold Action.run at hrun
  constructor
  · intro s hs
    have hanswer := hx s hs
    unfold Action.run at hanswer
    unfold Action.run Migrator.ask Action.mapError
    rw [hrun]
    rcases hx' : x s with ⟨r, s'⟩
    rw [hx'] at hanswer
    cases r with
    | ok a =>
      obtain ⟨hs', rfl⟩ := hanswer
      exact ⟨hs', rfl⟩
    | error e => exact hanswer
  · unfold Action.run Migrator.ask Action.mapError
    rw [hrun]
    cases answer <;> rfl

end Action.Mirrors

/-! ## Preparations -/

open ProcessMigration.Action (Mirrors)

/-- The answers to a preparation's questions are those of another environment at a fixed state. -/
structure Environment.Echoes (env : Environment σ) (P : σ → Prop) (env' : Environment τ) (w : τ) :
    Prop where
  activityTree : ∀ id, Triple P (env.source.activityTree id)
    (fun a s => P s ∧ ((env'.source.activityTree id).run w).1 = .ok a) P
  variablesOf : ∀ scopeId, Triple P (env.source.variablesOf scopeId)
    (fun a s => P s ∧ ((env'.source.variablesOf scopeId).run w).1 = .ok a) P
  completedBefore : ∀ id gateway, Triple P (env.source.completedBefore id gateway)
    (fun a s => P s ∧ ((env'.source.completedBefore id gateway).run w).1 = .ok a) P
  searchDefinitions : ∀ businessId, Triple P (env.target.searchDefinitions businessId)
    (fun a s => P s ∧ ((env'.target.searchDefinitions businessId).run w).1 = .ok a) P
  activityTree_readOnly : ∀ id, ReadOnly (env'.source.activityTree id)
  variablesOf_readOnly : ∀ scopeId, ReadOnly (env'.source.variablesOf scopeId)
  completedBefore_readOnly : ∀ id gateway, ReadOnly (env'.source.completedBefore id gateway)
  searchDefinitions_readOnly : ∀ businessId, ReadOnly (env'.target.searchDefinitions businessId)

namespace Migrator

section

variable {settings : MigrationSettings} {pipeline : Pipeline} {env : Environment σ}
  {env' : Environment τ} {P : σ → Prop} {w : τ} (h : env.Echoes P env' w)

theorem check_mirrors (r : Except ValidationError α) : Mirrors P w (check r) (check r) := by
  refine Mirrors.ofExcept _ ?_
  intro cause hcause
  cases r <;> cases hcause

include h

theorem transformed_mirrors (scopeId : String) :
    Mirrors P w (Migrator.transformed ⟨settings, pipeline, env⟩ scopeId)
      (Migrator.transformed ⟨settings, pipeline, env'⟩ scopeId) := by
  refine Mirrors.bind (.ask (h.variablesOf scopeId) (h.variablesOf_readOnly scopeId)) ?_
  intro vs
  -- an interceptor that breaks off ends the run in either case
  constructor
  · intro s hs
    unfold Action.run Action.ofExcept
    cases pipeline.transform vs with
    | ok vs' => exact ⟨hs, rfl⟩
    | error e =>
      cases e with
      | refused => exact ⟨hs, rfl⟩
      | crashed => exact hs
  · rfl

theorem noteHistory_mirrors (id : String) (gateways : List Activity) (history : BranchHistory) :
    Mirrors P w (Migrator.noteHistory ⟨settings, pipeline, env⟩ id gateways history)
      (Migrator.noteHistory ⟨settings, pipeline, env'⟩ id gateways history) := by
  induction gateways generalizing history with
  | nil => exact Mirrors.pure history
  | cons gateway rest ih =>
    exact Mirrors.bind (.ask (h.completedBefore id gateway.activityId)
      (h.completedBefore_readOnly id gateway.activityId)) fun _ => ih _

theorem history_mirrors (id : String) (tree : Activity) :
    Mirrors P w (Migrator.history ⟨settings, pipeline, env⟩ id tree)
      (Migrator.history ⟨settings, pipeline, env'⟩ id tree) := by
  unfold Migrator.history
  split
  · exact noteHistory_mirrors h id _ _
  · exact Mirrors.pure _

theorem activations_mirrors (nodes : List (String × FlowNode)) :
    Mirrors P w (Migrator.activations ⟨settings, pipeline, env⟩ nodes)
      (Migrator.activations ⟨settings, pipeline, env'⟩ nodes) := by
  induction nodes with
  | nil => exact Mirrors.pure _
  | cons node rest ih =>
    obtain ⟨scopeId, node⟩ := node
    refine Mirrors.bind (transformed_mirrors h scopeId) ?_
    intro vs
    exact Mirrors.bind ih fun others => Mirrors.pure _

theorem resolveAll_mirrors (i : SourceInstance) :
    Mirrors P w (Migrator.resolveAll ⟨settings, pipeline, env⟩ i)
      (Migrator.resolveAll ⟨settings, pipeline, env'⟩ i) := by
  unfold Migrator.resolveAll
  refine Mirrors.bind (.ask (h.activityTree i.id) (h.activityTree_readOnly i.id)) ?_
  intro tree
  refine Mirrors.bind (check_mirrors _) ?_
  intro _
  refine Mirrors.bind (history_mirrors h i.id tree) ?_
  intro history
  refine Mirrors.bind (check_mirrors _) ?_
  intro _
  refine Mirrors.bind (.ask (h.searchDefinitions i.processKey)
    (h.searchDefinitions_readOnly i.processKey)) ?_
  intro definitions
  refine Mirrors.bind (check_mirrors _) ?_
  intro definition
  refine Mirrors.bind (check_mirrors _) ?_
  intro _
  refine Mirrors.bind (transformed_mirrors h i.id) ?_
  intro vs
  exact Mirrors.bind (activations_mirrors h _) fun activations => Mirrors.pure _

/-- A preparation that gets to its end answers what the other environment would have it answer. -/
theorem prepare_mirrors (i : SourceInstance) :
    Triple P (Migrator.prepare ⟨settings, pipeline, env⟩ i)
      (fun r s => P s ∧
        ((Migrator.prepare ⟨settings, pipeline, env'⟩ i).run w).1 = .ok r) P := by
  intro s hs
  have hall : Mirrors P w (Migrator.resolveAll ⟨settings, pipeline, env⟩ i)
      (Migrator.resolveAll ⟨settings, pipeline, env'⟩ i) := resolveAll_mirrors h i
  have hsame := hall.same s hs
  unfold Action.run at hsame
  unfold Action.run prepare
  rcases hy : Migrator.resolveAll ⟨settings, pipeline, env'⟩ i w with ⟨answer, w'⟩
  rw [hy] at hsame
  rcases hx : Migrator.resolveAll ⟨settings, pipeline, env⟩ i s with ⟨r, s'⟩
  rw [hx] at hsame
  cases r with
  | ok prepared =>
    obtain ⟨hs', rfl⟩ := hsame
    exact ⟨hs', rfl⟩
  | error e =>
    cases e with
    | skip reason =>
      obtain ⟨hs', rfl⟩ := hsame
      exact ⟨hs', rfl⟩
    | halt cause => exact hsame

end
end Migrator

/-! ## Over files -/

/-- What is asked of an environment is read off a workspace in its state. -/
structure Environment.Reads (env : Environment σ) (world : σ → Workspace) (P : σ → Prop) : Prop where
  activityTree : ∀ id, Triple P (env.source.activityTree id)
    (fun a s => P s ∧ ((Workspace.environment.source.activityTree id).run (world s)).1 = .ok a) P
  variablesOf : ∀ scopeId, Triple P (env.source.variablesOf scopeId)
    (fun a s => P s ∧ ((Workspace.environment.source.variablesOf scopeId).run (world s)).1 = .ok a) P
  completedBefore : ∀ id gateway, Triple P (env.source.completedBefore id gateway)
    (fun a s => P s ∧
      ((Workspace.environment.source.completedBefore id gateway).run (world s)).1 = .ok a) P
  searchDefinitions : ∀ businessId, Triple P (env.target.searchDefinitions businessId)
    (fun a s => P s ∧
      ((Workspace.environment.target.searchDefinitions businessId).run (world s)).1 = .ok a) P

/-- Where the snapshot and the definitions stay, the engines go on answering as at the beginning. -/
theorem Environment.Reads.echoes {env : Environment σ} {world : σ → Workspace} {P : σ → Prop}
    {w : Workspace} (h : env.Reads world P) (hsource : ∀ s, P s → (world s).source = w.source)
    (hdefinitions : ∀ s, P s → (world s).target.definitions = w.target.definitions) :
    env.Echoes P Workspace.environment w := by
  constructor
  case activityTree =>
    intro id
    refine (h.activityTree id).post ?_
    rintro a s ⟨hs, ha⟩
    exact ⟨hs, (congrArg (·.activityTree id) (hsource s hs)).symm.trans ha⟩
  case variablesOf =>
    intro scopeId
    refine (h.variablesOf scopeId).post ?_
    rintro a s ⟨hs, ha⟩
    refine ⟨hs, ha ▸ ?_⟩
    show Except.ok (w.source.variablesOf scopeId) = Except.ok ((world s).source.variablesOf scopeId)
    rw [hsource s hs]
  case completedBefore =>
    intro id gateway
    refine (h.completedBefore id gateway).post ?_
    rintro a s ⟨hs, ha⟩
    exact ⟨hs, (congrArg (·.completedBefore id gateway) (hsource s hs)).symm.trans ha⟩
  case searchDefinitions =>
    intro businessId
    refine (h.searchDefinitions businessId).post ?_
    rintro found s ⟨hs, hfound⟩
    refine ⟨hs, hfound ▸ ?_⟩
    show Except.ok (w.target.definitions.filter _) = Except.ok ((world s).target.definitions.filter _)
    rw [hdefinitions s hs]
  case activityTree_readOnly => exact fun id => Workspace.onSource_readOnly _
  case variablesOf_readOnly => exact fun scopeId => Workspace.onSource_readOnly _
  case completedBefore_readOnly => exact fun id gateway => Workspace.onSource_readOnly _
  case searchDefinitions_readOnly => exact Workspace.searchDefinitions_readOnly

/-- A preparation in the course of a run answers what it would have answered at the beginning. -/
theorem Run.prepare_echoes {P : RunState σ → Prop} {env : Environment σ} {world : σ → Workspace}
    {w : Workspace} {settings : MigrationSettings} {pipeline : Pipeline}
    (hreads : ∀ s : RunState σ, env.Reads world fun d => P { s with world := d })
    (hsource : ∀ s, P s → (world s.world).source = w.source)
    (hdefinitions : ∀ s, P s → (world s.world).target.definitions = w.target.definitions)
    (i : SourceInstance) :
    Triple P (Run.call (Migrator.prepare ⟨settings, pipeline, env⟩ i))
      (fun r s => P s ∧ (((Workspace.migrator settings pipeline).prepare i).run w).1 = .ok r) P := by
  refine Run.call_triple ?_
  intro s
  refine Migrator.prepare_mirrors ((hreads s).echoes ?_ ?_) i
  · intro d hd
    exact hsource _ hd
  · intro d hd
    exact hdefinitions _ hd

namespace Workspace

/-- Over files the questions are read off the files, whatever others do in between. -/
theorem reads {P : Interrupted Workspace → Prop} (hP : Interrupted.Stable jobEngine P) :
    (Interrupted.environment environment).Reads (·.world) P where
  activityTree _ := Interrupted.query_reads hP (onSource_readOnly _)
  variablesOf _ := Interrupted.query_reads hP (onSource_readOnly _)
  completedBefore _ _ := Interrupted.query_reads hP (onSource_readOnly _)
  searchDefinitions businessId := Interrupted.query_reads hP (searchDefinitions_readOnly businessId)

/-- In this workspace the instance of an id can be carried over, and this is prepared for it. -/
def Prepares (w : Workspace) (settings : MigrationSettings) (pipeline : Pipeline) (id : String)
    (prepared : Prepared) : Prop :=
  ∃ i, w.source.find? id = some i ∧
    (((migrator settings pipeline).prepare i).run w).1 = .ok (.ready prepared)

/-- What is prepared for an id is determined. -/
theorem Prepares.unique {w : Workspace} {settings : MigrationSettings} {pipeline : Pipeline}
    {id : String} {prepared prepared' : Prepared} (h : w.Prepares settings pipeline id prepared)
    (h' : w.Prepares settings pipeline id prepared') : prepared = prepared' := by
  obtain ⟨i, hi, hrun⟩ := h
  obtain ⟨i', hi', hrun'⟩ := h'
  rw [hi] at hi'
  cases hi'
  rw [hrun] at hrun'
  cases hrun'
  rfl

end Workspace
end ProcessMigration
