import ProcessMigration.Proofs.StartedInstances
import ProcessMigration.Proofs.Walks

/-!
# Two runs side by side

Two runs over the same snapshot may hand over at different times and still do the same to the
mapping table and start the same instances. What they agree on is neither changed nor looked at by a
drain.

* `Action.Alike`: two actions that keep a relation of their states, and give the same value;
* `Workspace.prepare_same`: a preparation gives the same answer wherever its questions do;
* `TargetEngine.SameStarts` relates two target engines that have started the same instances, however
  they were asked to move their tokens;
* `RunState.Agree` relates two runs; `Workspace.migrateInstance_alike` and
  `Workspace.retryRecord_alike` are its steps, and `Migrator.Walk.alike` takes it over two walks
  along the same items.
-/

namespace ProcessMigration

open ProcessMigration.Action (Triple ReadOnly)

/-! ## Actions side by side -/

namespace Action

variable {σ ε ε' α β : Type} {I : σ → σ → Prop}

/-- If both actions end with a value, they end with the same one, and their states are still
related. -/
def Alike (I : σ → σ → Prop) (x y : Action σ ε α) : Prop :=
  ∀ s t a b s' t', I s t → x.run s = (.ok a, s') → y.run t = (.ok b, t') → a = b ∧ I s' t'

namespace Alike

theorem pure (a : α) : Alike I (Pure.pure a : Action σ ε α) (Pure.pure a) := by
  intro s t b c s' t' hst hx hy
  cases hx
  cases hy
  exact ⟨rfl, hst⟩

theorem fail (e e' : ε) : Alike I (Action.fail e : Action σ ε α) (Action.fail e') := by
  intro s t b c s' t' hst hx
  cases hx

theorem modify {f g : σ → σ} (h : ∀ s t, I s t → I (f s) (g t)) :
    Alike I (Action.modify f : Action σ ε Unit) (Action.modify g) := by
  intro s t b c s' t' hst hx hy
  cases hx
  cases hy
  exact ⟨rfl, h s t hst⟩

theorem bind {x y : Action σ ε α} {f g : α → Action σ ε β} (hx : Alike I x y)
    (hf : ∀ a, Alike I (f a) (g a)) : Alike I (x >>= f) (y >>= g) := by
  intro s t b c s' t' hst hrun hrun'
  rw [run_bind] at hrun hrun'
  rcases hxs : x.run s with ⟨_ | a, s₁⟩
  · rw [hxs] at hrun
    cases hrun
  rcases hyt : y.run t with ⟨_ | a', t₁⟩
  · rw [hyt] at hrun'
    cases hrun'
  rw [hxs] at hrun
  rw [hyt] at hrun'
  obtain ⟨rfl, hst₁⟩ := hx s t a a' s₁ t₁ hst hxs hyt
  exact hf a s₁ t₁ b c s' t' hst₁ hrun hrun'

/-- Two actions that look at their states first. -/
theorem get {f g : σ → Action σ ε β} (h : ∀ s t, I s t → Alike I (f s) (g t)) :
    Alike I (Action.get >>= f) (Action.get >>= g) :=
  fun s t b c s' t' hst hrun hrun' => h s t hst s t b c s' t' hst hrun hrun'

end Alike

namespace ReadOnly

theorem mapError {x : Action σ ε α} (h : ReadOnly x) (f : ε → ε') : ReadOnly (x.mapError f) := by
  intro s
  have hstate := h s
  unfold run Action.mapError
  unfold run at hstate
  split
  · next hrun => rwa [hrun] at hstate
  · next hrun => rwa [hrun] at hstate

/-- Two questions that begin with answers that are the same go on from there. -/
theorem answer_bind {x y : Action σ ε α} {f g : α → Action σ ε β} {s t : σ} (hx : ReadOnly x)
    (hy : ReadOnly y) (h : (x.run s).1 = (y.run t).1)
    (hf : ∀ a, (x.run s).1 = .ok a → ((f a).run s).1 = ((g a).run t).1) :
    ((x >>= f).run s).1 = ((y >>= g).run t).1 := by
  have hs := hx s
  have ht := hy t
  rw [run_bind, run_bind]
  rcases hxs : x.run s with ⟨r, s'⟩
  rcases hyt : y.run t with ⟨r', t'⟩
  rw [hxs] at hs h hf
  rw [hyt] at ht h
  simp only at hs ht h hf
  subst hs ht h
  cases r with
  | ok a => exact hf a rfl
  | error e => rfl

end ReadOnly
end Action

/-! ## Preparing the same instance twice -/

namespace Workspace

variable {settings settings' : MigrationSettings} {pipeline pipeline' : Pipeline}
  {w w' : Workspace} {i : SourceInstance}

theorem ask_readOnly {α : Type} (f : SnapshotSource → Except ConnectorError α) :
    ReadOnly (Migrator.ask (onSource f)) :=
  ReadOnly.mapError (onSource_readOnly f) _

theorem ask_same {α : Type} (f : SnapshotSource → Except ConnectorError α)
    (h : f w.source = f w'.source) :
    ((Migrator.ask (onSource f)).run w).1 = ((Migrator.ask (onSource f)).run w').1 := by
  unfold Action.run Migrator.ask Action.mapError onSource
  dsimp only
  rw [h]
  cases f w'.source <;> rfl

theorem of_ask_ok {α : Type} {f : SnapshotSource → Except ConnectorError α} {a : α}
    (h : ((Migrator.ask (onSource f)).run w).1 = .ok a) : f w.source = .ok a := by
  unfold Action.run Migrator.ask Action.mapError onSource at h
  cases hf : f w.source with
  | ok b =>
    rw [hf] at h
    cases h
    rfl
  | error e =>
    rw [hf] at h
    cases h

theorem transformed_readOnly (scopeId : String) :
    ReadOnly ((migrator settings pipeline).transformed scopeId) :=
  ReadOnly.bind (ask_readOnly fun s => .ok (s.variablesOf scopeId)) fun _ => ReadOnly.ofExcept _

theorem transformed_same {scopeId : String}
    (h : w.source.variablesOf scopeId = w'.source.variablesOf scopeId) :
    (((migrator settings pipeline).transformed scopeId).run w).1 =
      (((migrator settings' pipeline).transformed scopeId).run w').1 := by
  have hask := ask_readOnly fun s => .ok (s.variablesOf scopeId)
  exact ReadOnly.answer_bind hask hask (ask_same (fun s => .ok (s.variablesOf scopeId))
    (congrArg Except.ok h)) fun _ _ => rfl

theorem noteHistory_readOnly (id : String) (gateways : List Activity) (h : BranchHistory) :
    ReadOnly ((migrator settings pipeline).noteHistory id gateways h) := by
  induction gateways generalizing h with
  | nil => exact ReadOnly.pure _
  | cons gateway rest ih =>
    exact ReadOnly.bind (ask_readOnly fun s => s.completedBefore id gateway.activityId)
      fun _ => ih _

theorem noteHistory_same {id : String}
    (hcompleted : ∀ gateway, w.source.completedBefore id gateway =
      w'.source.completedBefore id gateway) (gateways : List Activity) (h : BranchHistory) :
    (((migrator settings pipeline).noteHistory id gateways h).run w).1 =
      (((migrator settings' pipeline').noteHistory id gateways h).run w').1 := by
  induction gateways generalizing h with
  | nil => rfl
  | cons gateway rest ih =>
    have hask := ask_readOnly fun s => s.completedBefore id gateway.activityId
    have hsame := ask_same (fun s => s.completedBefore id gateway.activityId)
      (hcompleted gateway.activityId)
    exact ReadOnly.answer_bind hask hask hsame fun completed _ => ih _

theorem history_readOnly (id : String) (tree : Activity) :
    ReadOnly ((migrator settings pipeline).history id tree) := by
  unfold Migrator.history
  split
  · exact noteHistory_readOnly id _ _
  · exact ReadOnly.pure _

theorem history_same {id : String} (hstrategy : settings.strategy = settings'.strategy)
    (hcompleted : ∀ gateway, w.source.completedBefore id gateway =
      w'.source.completedBefore id gateway) (tree : Activity) :
    (((migrator settings pipeline).history id tree).run w).1 =
      (((migrator settings' pipeline').history id tree).run w').1 := by
  unfold Migrator.history
  rw [show (migrator settings pipeline).settings.strategy =
    (migrator settings' pipeline').settings.strategy from hstrategy]
  split
  · exact noteHistory_same hcompleted _ _
  · rfl

theorem activations_readOnly (nodes : List (String × FlowNode)) :
    ReadOnly ((migrator settings pipeline).activations nodes) := by
  induction nodes with
  | nil => exact ReadOnly.pure _
  | cons node rest ih =>
    exact ReadOnly.bind (transformed_readOnly node.1) fun _ =>
      ReadOnly.bind ih fun _ => ReadOnly.pure _

theorem activations_same (nodes : List (String × FlowNode))
    (hscopes : ∀ node ∈ nodes, w.source.variablesOf node.1 = w'.source.variablesOf node.1) :
    (((migrator settings pipeline).activations nodes).run w).1 =
      (((migrator settings' pipeline).activations nodes).run w').1 := by
  induction nodes with
  | nil => rfl
  | cons node rest ih =>
    refine ReadOnly.answer_bind (transformed_readOnly node.1) (transformed_readOnly node.1)
      (transformed_same (hscopes node List.mem_cons_self)) ?_
    intro vs _
    exact ReadOnly.answer_bind (activations_readOnly rest) (activations_readOnly rest)
      (ih fun node' hnode' => hscopes node' (List.mem_cons_of_mem node hnode')) fun _ _ => rfl

/-- The scopes whose variables are asked for in preparing an instance: that of the instance itself
and those of the flow nodes that are resolved. -/
def scopesOf (settings : MigrationSettings) (w : Workspace) (i : SourceInstance) : List String :=
  i.id :: match w.source.activityTree i.id with
    | .error _ => []
    | .ok tree =>
      match (((migrator settings .empty).history i.id tree).run w).1 with
      | .error _ => []
      | .ok history => (FlowNode.resolve settings.strategy history tree).entries.map (·.1)

theorem mem_scopesOf {tree : Activity} {history : BranchHistory}
    (htree : w.source.activityTree i.id = .ok tree)
    (hhistory : (((migrator settings pipeline).history i.id tree).run w).1 = .ok history)
    {node : String × FlowNode}
    (hnode : node ∈ (FlowNode.resolve settings.strategy history tree).entries) :
    node.1 ∈ scopesOf settings w i := by
  have hempty : (((migrator settings .empty).history i.id tree).run w).1 = .ok history := by
    rw [← hhistory]
    exact history_same rfl (fun _ => rfl) tree
  unfold scopesOf
  rw [htree]
  dsimp only
  rw [hempty]
  exact List.mem_cons_of_mem _ (List.mem_map_of_mem hnode)

/-- Two workspaces give the same answers to what is asked in preparing an instance. -/
structure SameAnswers (settings : MigrationSettings) (i : SourceInstance) (w w' : Workspace) :
    Prop where
  definitions : w.target.definitions = w'.target.definitions
  tree : w.source.activityTree i.id = w'.source.activityTree i.id
  completed : ∀ gateway,
    w.source.completedBefore i.id gateway = w'.source.completedBefore i.id gateway
  scopes : ∀ scope ∈ scopesOf settings w i,
    w.source.variablesOf scope = w'.source.variablesOf scope

theorem SameAnswers.of_eq (hdefinitions : w.target.definitions = w'.target.definitions)
    (hsource : w.source = w'.source) : SameAnswers settings i w w' := by
  refine ⟨hdefinitions, ?_, ?_, ?_⟩
  all_goals simp only [hsource, implies_true]

theorem check_readOnly {α : Type} (r : Except ValidationError α) :
    ReadOnly (Migrator.check r : Action Workspace Obstacle α) := ReadOnly.ofExcept _

/-- Where the questions are answered alike, so is the preparation. Sizes of pages and batches do not
matter to it. -/
theorem resolveAll_same (hchecks : settings.validator = settings'.validator)
    (h : SameAnswers settings i w w') :
    (((migrator settings pipeline).resolveAll i).run w).1 =
      (((migrator settings' pipeline).resolveAll i).run w').1 := by
  have hstrategy : settings.strategy = settings'.strategy := congrArg Validator.strategy hchecks
  have htree := ask_readOnly fun s => s.activityTree i.id
  have hdefinitions : ReadOnly (Migrator.ask (jobEngine.searchDefinitions i.processKey)) :=
    ReadOnly.mapError (searchDefinitions_readOnly i.processKey) _
  have hfound : ((Migrator.ask (jobEngine.searchDefinitions i.processKey)).run w).1 =
      ((Migrator.ask (jobEngine.searchDefinitions i.processKey)).run w').1 := by
    show Except.ok (w.target.definitions.filter _) = Except.ok (w'.target.definitions.filter _)
    rw [h.definitions]
  have hvalidator : (migrator settings pipeline).settings.validator =
      (migrator settings' pipeline).settings.validator := hchecks
  have hresolve : (migrator settings pipeline).settings.strategy =
      (migrator settings' pipeline).settings.strategy := hstrategy
  unfold Migrator.resolveAll
  rw [hvalidator, hresolve]
  -- one step for each question and each check, in their order
  refine ReadOnly.answer_bind htree htree (ask_same (fun s => s.activityTree i.id) h.tree) ?_
  intro tree hasked
  have hanswer : w.source.activityTree i.id = .ok tree :=
    of_ask_ok (f := fun s => s.activityTree i.id) hasked
  refine ReadOnly.answer_bind (check_readOnly _) (check_readOnly _) rfl ?_
  intro _ _
  refine ReadOnly.answer_bind (history_readOnly _ _) (history_readOnly _ _)
    (history_same hstrategy h.completed tree) ?_
  intro history hnoted
  refine ReadOnly.answer_bind (check_readOnly _) (check_readOnly _) rfl ?_
  intro _ _
  refine ReadOnly.answer_bind hdefinitions hdefinitions hfound ?_
  intro definitions _
  refine ReadOnly.answer_bind (check_readOnly _) (check_readOnly _) rfl ?_
  intro definition _
  refine ReadOnly.answer_bind (check_readOnly _) (check_readOnly _) rfl ?_
  intro _ _
  refine ReadOnly.answer_bind (transformed_readOnly _) (transformed_readOnly _)
    (transformed_same (h.scopes _ List.mem_cons_self)) ?_
  intro vs _
  refine ReadOnly.answer_bind (activations_readOnly _) (activations_readOnly _)
    (activations_same _ ?_) fun _ _ => rfl
  intro node hnode
  refine h.scopes _ ?_
  rw [← hresolve] at hnode
  exact mem_scopesOf hanswer hnoted hnode

theorem prepare_same (hchecks : settings.validator = settings'.validator)
    (h : SameAnswers settings i w w') :
    (((migrator settings pipeline).prepare i).run w).1 =
      (((migrator settings' pipeline).prepare i).run w').1 := by
  have hsame : (((migrator settings pipeline).resolveAll i).run w).1 =
      (((migrator settings' pipeline).resolveAll i).run w').1 := resolveAll_same hchecks h
  unfold Action.run at hsame ⊢
  unfold Migrator.prepare
  rcases hrun : (migrator settings pipeline).resolveAll i w with ⟨r, v⟩
  rcases hrun' : (migrator settings' pipeline).resolveAll i w' with ⟨r', v'⟩
  rw [hrun, hrun'] at hsame
  simp only at hsame
  subst hsame
  rcases r with (reason | cause) | prepared <;> rfl

end Workspace

/-! ## Target engines side by side -/

/-- The file holds what another one held, and after that the lines of these entries. -/
def JournalFile.Extends (base : JournalFile) (es : List JournalEntry) (f : JournalFile) : Prop :=
  f.content = base.content.map fun old => old ++ String.ofList (JournalEntry.journalChars es)

theorem JournalFile.Extends.refl (f : JournalFile) : f.Extends [] f := by
  unfold Extends
  cases f.content with
  | ok old => simp [Except.map, JournalEntry.journalChars]
  | error cause => rfl

theorem JournalFile.Extends.append {base f f' : JournalFile} {es : List JournalEntry}
    (h : base.Extends es f) {e : JournalEntry} (happend : f.append e.line = .ok f') :
    base.Extends (es ++ [e]) f' := by
  unfold Extends at h ⊢
  have hcontent : f'.content = f.content.map fun old => old ++ e.line ++ "\n" := by
    unfold JournalFile.append at happend
    cases f with
    | absent =>
      cases happend
      simp [content, Except.map]
    | text old =>
      cases happend
      rfl
    | unwritable cause tried => cases happend
    | broken cause => cases happend
  rw [hcontent, h]
  cases base.content with
  | error cause => rfl
  | ok old =>
    refine congrArg Except.ok (String.toList_inj.1 ?_)
    simp [JournalEntry.journalChars]

namespace TargetEngine

/-- Two engines have started the same instances since their journals were the same, and will give
the same keys to the next ones. -/
structure SameStarts (base : JournalFile) (t u : TargetEngine) : Prop where
  definitions : t.definitions = u.definitions
  keys : t.state.keys = u.state.keys
  started : ∃ es es', base.Extends es t.journal ∧ base.Extends es' u.journal ∧
    JournalEntry.startedIn es = JournalEntry.startedIn es'

variable {base : JournalFile} {t u : TargetEngine}

theorem SameStarts.refl (t : TargetEngine) : SameStarts t.journal t t :=
  ⟨rfl, rfl, [], [], .refl _, .refl _, rfl⟩

theorem SameStarts.symm (h : SameStarts base t u) : SameStarts base u t := by
  obtain ⟨es, es', ht, hu, hstarted⟩ := h.started
  exact ⟨h.definitions.symm, h.keys.symm, es', es, hu, ht, hstarted.symm⟩

/-- An accepted entry stands in the journal and has taken effect. -/
theorem of_accept_ok {operation : String} {e : JournalEntry} {t' : TargetEngine}
    (h : (accept operation e).run t = (.ok (), t')) :
    ∃ journal state, t.journal.append e.line = .ok journal ∧ t.state.apply e = .ok state ∧
      t' = { t with journal, state } := by
  unfold Action.run accept at h
  split at h
  · cases h
  · next journal happend =>
    split at h
    · next state happly =>
      cases h
      exact ⟨journal, state, happend, happly, rfl⟩
    · cases h

/-- A moved token starts nothing. -/
theorem modifyInstance_sameStarts (key terminated : Int) (activations : List Activation) :
    Triple (fun t => SameStarts base t u) (modifyInstance key terminated activations)
      (fun _ t => SameStarts base t u) fun _ => True := by
  unfold modifyInstance
  refine Triple.bind (M := fun _ t => SameStarts base t u) (Triple.get fun t ht => ht) ?_
  intro t₁
  split
  · refine (Triple.result _ _).post ?_
    intro _ t' ⟨t, ht, hrun⟩
    obtain ⟨journal, state, happend, happly, rfl⟩ := of_accept_ok hrun
    obtain ⟨es, es', htext, hutext, hstarted⟩ := ht.started
    have hnew := htext.append happend
    refine ⟨ht.definitions, ?_, _, es', hnew, hutext, ?_⟩
    · rw [TargetState.eq_add_of_apply happly]
      exact ht.keys
    · rw [JournalEntry.startedIn_modify, hstarted]
  · exact Triple.fail fun _ _ => trivial

theorem activateJobs_sameStarts (jobType : String) (limit : Nat) :
    Triple (fun t => SameStarts base t u) (activateJobs jobType limit)
      (fun _ t => SameStarts base t u) fun _ => True :=
  fun _ ht => ⟨ht.definitions, ht.keys, ht.started⟩

/-! ### Starting an instance on both -/

open ProcessMigration.Action (Alike)

theorem drawKey_alike : Alike (SameStarts base) drawKey drawKey := by
  intro t u key key' t' u' htu ht hu
  unfold Action.run drawKey at ht hu
  rw [← htu.keys] at hu
  cases hnext : t.state.keys.next? with
  | none =>
    rw [hnext] at ht
    cases ht
  | some p =>
    rw [hnext] at ht hu
    cases ht
    cases hu
    exact ⟨rfl, htu.definitions, rfl, htu.started⟩

theorem drawJobs_alike (types : List String) :
    Alike (SameStarts base) (drawJobs types) (drawJobs types) := by
  induction types with
  | nil => exact Alike.pure _
  | cons type rest ih =>
    exact Alike.bind drawKey_alike fun _ => Alike.bind ih fun _ => Alike.pure _

theorem accept_create_alike (operation : String) (e : StartedInstance) :
    Alike (SameStarts base) (accept operation (.create e)) (accept operation (.create e)) := by
  intro t u _ _ t' u' htu ht hu
  obtain ⟨journal, state, happend, happly, rfl⟩ := of_accept_ok ht
  obtain ⟨journal', state', happend', happly', rfl⟩ := of_accept_ok hu
  obtain ⟨es, es', htext, hutext, hstarted⟩ := htu.started
  have hnew := htext.append happend
  have hnew' := hutext.append happend'
  refine ⟨rfl, htu.definitions, ?_, _, _, hnew, hnew', ?_⟩
  · rw [TargetState.eq_add_of_apply happly, TargetState.eq_add_of_apply happly']
    show List.foldl _ t.state.keys _ = List.foldl _ u.state.keys _
    rw [htu.keys]
  · rw [JournalEntry.startedIn_create, JournalEntry.startedIn_create, hstarted]

theorem createInstance_alike (request : CreateRequest) :
    Alike (SameStarts base) (createInstance request) (createInstance request) := by
  apply Alike.get
  intro t u htu
  rw [htu.definitions]
  split
  · exact Alike.fail _ _
  · next d _ =>
    refine Alike.bind drawKey_alike ?_
    intro instanceKey
    have hfinish : ∀ e handle, Alike (SameStarts base)
        (do accept "create_instance" (.create e); return handle : TargetAction InstanceHandle)
        (do accept "create_instance" (.create e); return handle : TargetAction InstanceHandle) :=
      fun e handle => Alike.bind (accept_create_alike _ e) fun _ => Alike.pure _
    dsimp only
    split
    · exact hfinish _ _
    · refine Alike.bind drawKey_alike ?_
      intro elementKey
      exact Alike.bind (drawJobs_alike _) fun jobs => hfinish _ _

end TargetEngine

/-! ## Runs side by side -/

/-- The report without what it counts of jobs. -/
def Report.withoutJobs (r : Report) : Report :=
  { r with jobsActivated := 0, externallyStartedJobs := 0, unresolvedJobs := 0 }

/-- Two runs have done the same since their journals were `base`, apart from the jobs that they have
dealt with. -/
structure RunState.Agree (base : JournalFile) (s t : RunState Workspace) : Prop where
  source : s.world.source = t.world.source
  tables : s.world.tables = t.world.tables
  database : s.world.database = t.world.database
  target : TargetEngine.SameStarts base s.world.target t.world.target
  report : s.report.withoutJobs = t.report.withoutJobs
  output : s.output = t.output

open ProcessMigration.Action (Alike)
open RunState (Agree)

variable {base : JournalFile} {α : Type}

theorem RunState.Agree.refl (s : RunState Workspace) : Agree s.world.target.journal s s :=
  ⟨rfl, rfl, rfl, .refl _, rfl, rfl⟩

theorem RunState.Agree.symm {s t : RunState Workspace} (h : Agree base s t) : Agree base t s :=
  ⟨h.source.symm, h.tables.symm, h.database.symm, h.target.symm, h.report.symm, h.output.symm⟩

namespace Run

theorem count_alike {f : Report → Report} (hf : ∀ r, (f r).withoutJobs = f r.withoutJobs) :
    Alike (Agree base) (Run.count f) (Run.count f) := by
  apply Alike.modify
  intro s t h
  refine ⟨h.source, h.tables, h.database, h.target, ?_, h.output⟩
  show (f s.report).withoutJobs = (f t.report).withoutJobs
  rw [hf, hf, h.report]

theorem modifyPending_alike (f g : Pending → Pending) :
    Alike (Agree base) (Run.modifyPending f) (Run.modifyPending g) :=
  Alike.modify fun _ _ h => ⟨h.source, h.tables, h.database, h.target, h.report, h.output⟩

theorem call_alike {x y : Action Workspace MigrationError α} (hx : ReadOnly x) (hy : ReadOnly y)
    (h : ∀ s t : RunState Workspace, Agree base s t → (x.run s.world).1 = (y.run t.world).1) :
    Alike (Agree base) (Run.call x) (Run.call y) := by
  intro s t a b s' t' hst hs ht
  have hsame := h s t hst
  have hxs := hx s.world
  have hyt := hy t.world
  unfold Action.run Run.call Action.onPart at hs ht
  unfold Action.run at hsame hxs hyt
  dsimp only at hs ht
  rw [hxs] at hs
  rw [hyt] at ht
  obtain ⟨ha, rfl⟩ := Prod.mk.inj hs
  obtain ⟨hb, rfl⟩ := Prod.mk.inj ht
  exact ⟨Except.ok.inj (ha.symm.trans (hsame.trans hb)), hst⟩

theorem source_alike (f : SnapshotSource → Except ConnectorError α) :
    Alike (Agree base) (Run.engine (Workspace.onSource f)) (Run.engine (Workspace.onSource f)) := by
  have hread : ReadOnly ((Workspace.onSource f).mapError MigrationError.connector) :=
    ReadOnly.mapError (Workspace.onSource_readOnly f) _
  refine call_alike hread hread ?_
  intro s t h
  unfold Action.run Action.mapError Workspace.onSource
  rw [h.source]
  cases f t.world.source <;> rfl

theorem prepare_alike {settings settings' : MigrationSettings} {pipeline : Pipeline}
    (hchecks : settings.validator = settings'.validator) (i : SourceInstance) :
    Alike (Agree base) (Run.call ((Workspace.migrator settings pipeline).prepare i))
      (Run.call ((Workspace.migrator settings' pipeline).prepare i)) := by
  refine call_alike ((Workspace.migrator_onFiles _ _).prepare_readOnly i)
    ((Workspace.migrator_onFiles _ _).prepare_readOnly i) ?_
  intro s t h
  exact Workspace.prepare_same hchecks (.of_eq h.target.definitions h.source)

theorem store_alike (x : StoreTables → StoreAction α) :
    Alike (Agree base) (Run.store (Workspace.onStore x)) (Run.store (Workspace.onStore x)) := by
  intro s t a b s' t' hst hs ht
  unfold Action.run Run.store Run.call Action.onPart Action.mapError Workspace.onStore
    Action.onPart at hs ht
  dsimp only at hs ht
  rw [← hst.tables, ← hst.database] at ht
  rcases hx : x s.world.tables s.world.database with ⟨r, db⟩
  rw [hx] at hs ht
  cases r with
  | error e => cases hs
  | ok c =>
    cases hs
    cases ht
    exact ⟨rfl, hst.source, rfl, rfl, hst.target, hst.report, hst.output⟩

theorem target_alike {x : TargetAction α} (hx : Alike (TargetEngine.SameStarts base) x x) :
    Alike (Agree base) (Run.engine (Workspace.onTarget x)) (Run.engine (Workspace.onTarget x)) := by
  intro s t a b s' t' hst hs ht
  unfold Action.run Run.engine Run.call Action.onPart Action.mapError Workspace.onTarget
    Action.onPart at hs ht
  dsimp only at hs ht
  rcases hxs : x s.world.target with ⟨_ | a', e⟩
  · rw [hxs] at hs
    cases hs
  rcases hxt : x t.world.target with ⟨_ | b', e'⟩
  · rw [hxt] at ht
    cases ht
  rw [hxs] at hs
  rw [hxt] at ht
  cases hs
  cases ht
  obtain ⟨rfl, htarget⟩ := hx _ _ _ _ _ _ hst.target hxs hxt
  exact ⟨rfl, hst.source, hst.tables, hst.database, htarget, hst.report, hst.output⟩

end Run

namespace Workspace

variable {settings settings' : MigrationSettings} {pipeline : Pipeline}

theorem start_alike (i : SourceInstance) (prepared : Prepared)
    (x : Int → StoreTables → StoreAction Unit) :
    Alike (Agree base)
      ((migrator settings pipeline).start i prepared fun key => onStore (x key))
      ((migrator settings' pipeline).start i prepared fun key => onStore (x key)) :=
  Alike.bind (Run.target_alike (TargetEngine.createInstance_alike prepared.request)) fun handle =>
    Alike.bind (Run.store_alike (x handle.instanceKey)) fun _ => Run.modifyPending_alike _ _

/-- An instance is dealt with alike. -/
theorem migrateInstance_alike (hchecks : settings.validator = settings'.validator)
    (i : SourceInstance) :
    Alike (Agree base) ((migrator settings pipeline).migrateInstance i)
      ((migrator settings' pipeline).migrateInstance i) := by
  refine Alike.bind (Run.count_alike fun _ => rfl) ?_
  intro _
  refine Alike.bind (Run.store_alike fun t => Store.exists t i.id) ?_
  intro found
  split
  · exact Run.count_alike fun _ => rfl
  · refine Alike.bind (Run.prepare_alike hchecks i) ?_
    intro p
    cases p with
    | ready prepared =>
      exact Alike.bind (start_alike i prepared fun key t =>
        Store.insert t (.migrated i.id key i.startTime)) fun _ => Run.count_alike fun _ => rfl
    | skip reason =>
      exact Alike.bind (Run.store_alike fun t => Store.insert t (.skipped i.id i.startTime reason))
        fun _ => Run.count_alike fun _ => rfl

/-- A record is tried again alike. -/
theorem retryRecord_alike (hchecks : settings.validator = settings'.validator)
    (record : MappingRecord) :
    Alike (Agree base) ((migrator settings pipeline).retryRecord record)
      ((migrator settings' pipeline).retryRecord record) := by
  refine Alike.bind (Run.count_alike fun _ => rfl) ?_
  intro _
  refine Alike.bind (Run.source_alike fun s => .ok (s.find? record.legacyId)) ?_
  intro found
  cases found with
  | none => exact Alike.bind (Run.count_alike fun _ => rfl) fun _ => Alike.pure _
  | some i =>
    refine Alike.bind (Run.prepare_alike hchecks i) ?_
    intro p
    cases p with
    | ready prepared =>
      refine Alike.bind (start_alike i prepared fun key t => Store.update t i.id key) ?_
      intro _
      exact Alike.bind (Run.count_alike fun _ => rfl) fun _ => Alike.pure _
    | skip reason => exact Alike.bind (Run.count_alike fun _ => rfl) fun _ => Alike.pure _

/-- A drain changes nothing that runs agree on. -/
theorem drain_agree (t : RunState Workspace) :
    Triple (fun s => Agree base s t) (migrator settings pipeline).drain
      (fun _ s => Agree base s t) fun _ => True := by
  refine drain_rule ?_ ?_ ?_ ?_ ?_
  · intro s hs
    exact ⟨hs.source, hs.tables, hs.database, hs.target, hs.report, hs.output⟩
  · intro s _ hs
    exact ⟨hs.source, hs.tables, hs.database, hs.target, hs.report, hs.output⟩
  · intro s _ _ _ hs
    exact ⟨hs.source, hs.tables, hs.database, hs.target, hs.report, hs.output⟩
  · intro key terminated activations
    refine Run.changes_target (TargetEngine.modifyInstance key terminated activations) ?_
    intro s hs
    exact (TargetEngine.modifyInstance_sameStarts key terminated activations).conseq
      (fun _ h => h ▸ hs.target)
      (fun _ _ h => ⟨hs.source, hs.tables, hs.database, h, hs.report, hs.output⟩) fun _ _ => trivial
  · refine Run.changes_target (TargetEngine.activateJobs settings.jobType settings.maxJobs) ?_
    intro s hs
    exact (TargetEngine.activateJobs_sameStarts settings.jobType settings.maxJobs).conseq
      (fun _ h => h ▸ hs.target)
      (fun _ _ h => ⟨hs.source, hs.tables, hs.database, h, hs.report, hs.output⟩) fun _ _ => trivial

theorem drain_agree_right (s : RunState Workspace) :
    Triple (Agree base s) (migrator settings pipeline).drain (fun _ => Agree base s)
      fun _ => True :=
  (drain_agree s).conseq (fun _ h => h.symm) (fun _ _ h => h.symm) fun _ h => h

end Workspace

/-! ## Walks side by side -/

namespace Migrator.Walk

variable {σ β : Type} {m m' : Migrator σ} {f g : α → Run σ β} {I : RunState σ → RunState σ → Prop}

/-- Two walks along the same items keep what their items keep, wherever they hand over. -/
theorem alike (hitem : ∀ x, Alike I (f x) (g x))
    (hdrain : ∀ t, Triple (fun s => I s t) m.drain (fun _ s => I s t) fun _ => True)
    (hdrain' : ∀ s, Triple (I s) m'.drain (fun _ => I s) fun _ => True) {xs : List α}
    {s₀ t₀ s t : RunState σ} (h₀ : I s₀ t₀) (h : Walk m f s₀ xs s) (h' : Walk m' g t₀ xs t) :
    I s t := by
  -- between two items there are drains only
  have hnone : ∀ {s₀ t₀ s t : RunState σ}, I s₀ t₀ → Walk m f s₀ [] s → Walk m' g t₀ [] t →
      I s t := by
    intro s₀ t₀ s t h₀ h h'
    have hleft : I s t₀ := h.keeps (I := fun s => I s t₀) h₀ (hdrain t₀) (fun x hx => by cases hx)
    exact h'.keeps hleft (hdrain' s) fun x hx => by cases hx
  induction xs generalizing s₀ t₀ with
  | nil => exact hnone h₀ h h'
  | cons x rest ih =>
    obtain ⟨s₃, hfirst, hrest⟩ := split (show Walk m f s₀ ([x] ++ rest) s from h)
    obtain ⟨t₃, hfirst', hrest'⟩ := split (show Walk m' g t₀ ([x] ++ rest) t from h')
    obtain ⟨s₁, b, s₂, hbefore, hrun, hafter⟩ := hfirst.single
    obtain ⟨t₁, b', t₂, hbefore', hrun', hafter'⟩ := hfirst'.single
    have h₁ := hnone h₀ hbefore hbefore'
    obtain ⟨_, h₂⟩ := hitem x s₁ t₁ b b' s₂ t₂ h₁ hrun hrun'
    exact ih (hnone h₂ hafter hafter') hrest hrest'

end Migrator.Walk
end ProcessMigration
