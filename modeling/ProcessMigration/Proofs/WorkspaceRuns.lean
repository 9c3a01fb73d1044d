import ProcessMigration.Proofs.Calls
import ProcessMigration.Proofs.Listing
import ProcessMigration.Proofs.Passes
import ProcessMigration.Proofs.Preparation

/-!
# Runs over a workspace

A run over a workspace whose calls are all answered: no incident is to come, and nobody else is
about. The rules below take a call to the specification of its action.

* `Run.asks_source` and `Run.asks_store` are the rules for questions, `Run.prepares` the one for a
  preparation, which is made of questions only;
* `Run.changes_store` and `Run.changes_target` are the rules for what is not a question, and
  `Run.run_query` and `Run.run_print` say what a call does whose outcome is known;
* `Workspace.run_keeps_over`: a run of any mode keeps what its records and updates keep, on a
  database that can be written to or not.
-/

namespace ProcessMigration

open ProcessMigration.Action (Triple ReadOnly)

variable {α : Type} {P R : RunState Workspace → Prop} {Q : α → RunState Workspace → Prop}

/-! ## Calls -/

namespace Run

theorem asks_source (f : SnapshotSource → Except ConnectorError α) :
    Triple P (Run.engine (Workspace.onSource f))
      (fun a s => P s ∧ f s.world.source = .ok a) P :=
  Run.call_triple fun _ => Triple.mapError (Workspace.onSource_readOnly f).triple

theorem asks_store (x : StoreTables → StoreAction α) (hx : ∀ t, ReadOnly (x t)) :
    Triple P (Run.store (Workspace.onStore x))
      (fun a s => P s ∧ ((x s.world.tables).run s.world.database).1 = .ok a) P := by
  apply Run.call_triple
  intro s
  apply Triple.mapError
  refine (Workspace.onStore_readOnly hx).triple.post ?_
  rintro a w ⟨hw, ha⟩
  refine ⟨hw, ?_⟩
  exact ha

theorem changes_store (x : StoreTables → StoreAction α)
    (hx : ∀ s, P s → Triple (fun db => db = s.world.database) (x s.world.tables)
      (fun a db => Q a { s with world := { s.world with database := db } })
      fun db => R { s with world := { s.world with database := db } }) :
    Triple P (Run.store (Workspace.onStore x)) Q R := by
  apply Run.call_triple
  intro s
  apply Triple.mapError
  intro w hw
  have hpart : Triple (fun w' => w' = w)
      ((x w.tables).onPart Workspace.database fun database w => { w with database })
      (fun a w' => Q a { s with world := w' }) fun w' => R { s with world := w' } := by
    apply Triple.onPart
    intro w' hw'
    subst hw'
    exact hx { s with world := w' } hw
  exact hpart w rfl

theorem changes_target (x : TargetAction α)
    (hx : ∀ s, P s → Triple (fun t => t = s.world.target) x
      (fun a t => Q a { s with world := { s.world with target := t } })
      fun t => R { s with world := { s.world with target := t } }) :
    Triple P (Run.engine (Workspace.onTarget x)) Q R := by
  apply Run.call_triple
  intro s
  apply Triple.mapError
  exact Triple.onPart fun w hw => hx { s with world := w } hw

/-- A question to the mapping store whose answer is known. -/
theorem run_query {x : StoreTables → StoreAction α} (hx : ∀ t, ReadOnly (x t))
    {s : RunState Workspace} {r : Except StoreError α}
    (hr : ((x s.world.tables).run s.world.database).1 = r) :
    (Run.store (Workspace.onStore x)).run s = (r.mapError .store, s) := by
  have hstays := hx s.world.tables s.world.database
  unfold Action.run at hr hstays
  unfold Action.run Run.store Run.call Action.onPart Action.mapError Workspace.onStore Action.onPart
  dsimp only
  rcases hrun : x s.world.tables s.world.database with ⟨r', db⟩
  rw [hrun] at hr hstays
  simp only at hr hstays
  subst hr hstays
  cases r' <;> rfl

/-- A question of the environment whose answer is known. -/
theorem run_ask {x : Action Workspace MigrationError α} (hx : ReadOnly x) {s : RunState Workspace}
    {r : Except MigrationError α} (hr : (x.run s.world).1 = r) : (Run.call x).run s = (r, s) := by
  have hstays := hx s.world
  unfold Action.run at hr hstays
  unfold Action.run Run.call Action.onPart
  dsimp only
  rw [hr, hstays]

/-- A change of the mapping store whose outcome is known. -/
theorem run_change {x : StoreTables → StoreAction α} {s : RunState Workspace} {a : α}
    {db : Database} (h : (x s.world.tables).run s.world.database = (.ok a, db)) :
    (Run.store (Workspace.onStore x)).run s =
      (.ok a, { s with world := { s.world with database := db } }) := by
  unfold Action.run at h
  unfold Action.run Run.store Run.call Action.onPart Action.mapError Workspace.onStore Action.onPart
  dsimp only
  rw [h]

/-- A text is printed where the room for it is not limited. -/
theorem run_print {s : RunState Workspace} (h : s.output.room = none) (text : String) :
    (Run.print text).run s =
      (.ok (), { s with output := ⟨s.output.text ++ text, none⟩ }) := by
  unfold Action.run Run.print Action.mapError Action.onPart Output.print
  dsimp only
  rw [h]

end Run

/-! ## Preparations -/

/-- The migrator works on the files of a workspace; its mapping store may refuse every change. -/
def Migrator.OnFiles (m : Migrator Workspace) : Prop :=
  m.env = Workspace.environment ∨ m.env = Workspace.environment.readOnly

namespace Migrator.OnFiles

variable {m : Migrator Workspace}

theorem source (h : m.OnFiles) : m.env.source = Workspace.sourceEngine := by
  rcases h with h | h <;> rw [h] <;> rfl

theorem target (h : m.OnFiles) : m.env.target = Workspace.jobEngine := by
  rcases h with h | h <;> rw [h] <;> rfl

/-- The answers to a preparation, which leave the workspace as it is. -/
theorem answers (h : m.OnFiles) (w : Workspace) :
    m.env.Answers (fun w' => w' = w) w.target.definitions := by
  have hasks : ∀ {β : Type} (f : SnapshotSource → Except ConnectorError β),
      Triple (fun w' => w' = w) (Workspace.onSource f) (fun _ w' => w' = w) fun w' => w' = w :=
    fun f => (Workspace.onSource_readOnly f).triple.post fun _ _ hw => hw.1
  constructor
  · intro id
    rw [h.source]
    exact hasks fun s => s.activityTree id
  · intro scopeId
    rw [h.source]
    exact hasks fun s => .ok (s.variablesOf scopeId)
  · intro id gateway
    rw [h.source]
    exact hasks fun s => s.completedBefore id gateway
  · intro businessId
    rw [h.target]
    refine (Workspace.searchDefinitions_readOnly businessId).triple.post ?_
    rintro found w' ⟨rfl, hfound⟩
    cases hfound
    exact ⟨rfl, rfl⟩

/-- A preparation leaves the workspace as it is. -/
theorem prepare_readOnly (h : m.OnFiles) (i : SourceInstance) : ReadOnly (m.prepare i) :=
  fun w => ((Migrator.prepare_triple (h.answers w) i).post fun _ _ hw => hw.1).state rfl

/-- What is prepared for an instance fits it. -/
theorem fits_of_prepare (h : m.OnFiles) {i : SourceInstance} {w : Workspace} {prepared : Prepared}
    (hprepare : ((m.prepare i).run w).1 = .ok (.ready prepared)) :
    prepared.Fits m.settings w.target.definitions i :=
  ((Migrator.prepare_triple (h.answers w) i).ok rfl hprepare).2 prepared rfl

end Migrator.OnFiles

theorem Run.prepares {m : Migrator Workspace} (hm : m.OnFiles) (i : SourceInstance) :
    Triple P (Run.call (m.prepare i))
      (fun r s => P s ∧ ((m.prepare i).run s.world).1 = .ok r) P :=
  Run.call_triple fun _ => (hm.prepare_readOnly i).triple

/-! ## Whole runs -/

/-- The run is over this snapshot and these tables, and its database is such a one. -/
def Run.Over (source : SnapshotSource) (t : StoreTables) (J : Database → Prop)
    (s : RunState Workspace) : Prop :=
  s.world.source = source ∧ s.world.tables = t ∧ J s.world.database

theorem Run.Over.of_eq {source : SnapshotSource} {t : StoreTables} {J : Database → Prop}
    {s s' : RunState Workspace} (h : Over source t J s) (hworld : s'.world = s.world) :
    Over source t J s' := by
  unfold Over at *
  rwa [hworld]

/-- The record is about an instance of the snapshot. -/
def SnapshotSource.Has (source : SnapshotSource) (record : MappingRecord) : Prop :=
  ∃ i ∈ source.listing, record.legacyId = i.id ∧ record.startDate = i.startTime

namespace Workspace

open Run (Over)

variable {m : Migrator Workspace} {source : SnapshotSource} {t : StoreTables} {J : Database → Prop}

theorem asks_source_over (f : SnapshotSource → Except ConnectorError α) :
    Triple (Over source t J) (Run.engine (onSource f))
      (fun a s => Over source t J s ∧ f source = .ok a) (Over source t J) :=
  (Run.asks_source f).post fun _ _ ⟨hs, hf⟩ => ⟨hs, hs.1 ▸ hf⟩

theorem asks_store_over (x : StoreTables → StoreAction α) (hx : ∀ t, ReadOnly (x t)) :
    Triple (Over source t J) (Run.store (onStore x)) (fun _ => Over source t J) (Over source t J) :=
  (Run.asks_store x hx).post fun _ _ hs => hs.1

theorem changes_store_over (x : StoreTables → StoreAction α) (hx : Triple J (x t) (fun _ => J) J) :
    Triple (Over source t J) (Run.store (onStore x)) (fun _ => Over source t J)
      (Over source t J) := by
  refine Run.changes_store x ?_
  rintro s ⟨hsource, htables, hJ⟩
  rw [htables]
  refine hx.conseq ?_ (fun _ db hdb => ⟨hsource, htables, hdb⟩)
    fun db hdb => ⟨hsource, htables, hdb⟩
  rintro db rfl
  exact hJ

/-- Whatever the target engine does, snapshot and database stay. -/
theorem changes_target_over (x : TargetAction α) :
    Triple (Over source t J) (Run.engine (onTarget x)) (fun _ => Over source t J)
      (Over source t J) :=
  Run.changes_target x fun _ hs => Triple.any (fun _ _ => hs) fun _ => hs

theorem deals_over (hm : m.OnFiles) : m.Deals (Over source t J) (Over source t J) := by
  constructor
  case giveUp => exact fun s hs => hs
  case pending => exact fun s pending hs => hs
  case counted => exact fun s _ _ _ hs => hs
  case targetKey =>
    intro id
    have hstore : m.env.store.targetKey? = recordStore.targetKey? := by
      rcases hm with h | h <;> rw [h] <;> rfl
    rw [hstore]
    exact asks_store_over (fun t => Store.targetKey? t id) fun _ => Store.targetKey?_readOnly id
  case find =>
    intro id
    rw [hm.source]
    exact (asks_source_over fun s => .ok (s.find? id)).post fun _ _ hs => hs.1
  case prepare => exact fun i => (Run.prepares hm i).post fun _ _ hs => hs.1
  case modify =>
    intro key terminated activations
    rw [hm.target]
    exact changes_target_over (TargetEngine.modifyInstance key terminated activations)
  case fetch =>
    rw [hm.target]
    exact changes_target_over (TargetEngine.activateJobs m.settings.jobType m.settings.maxJobs)
  case failed => exact fun s hs => hs

theorem keeps_over (hm : m.OnFiles) :
    m.Keeps (Over source t J) (Over source t J) (Over source t J) := by
  constructor
  case report => exact fun s f hs => hs
  case output => exact fun s output hs => hs
  case reset => exact fun s mode hs => hs
  case countSkipped =>
    have hstore : m.env.store.countSkipped = recordStore.countSkipped := by
      rcases hm with h | h <;> rw [h] <;> rfl
    rw [hstore]
    exact asks_store_over (fun t => Store.countSkipped t .processInstance) fun _ =>
      Store.countSkipped_readOnly _
  case skipped =>
    intro request
    have hstore : m.env.store.skipped = recordStore.skipped := by
      rcases hm with h | h <;> rw [h] <;> rfl
    unfold Migrator.skippedPage
    rw [hstore]
    exact asks_store_over (fun t => Store.skipped t .processInstance request.offset request.limit)
      fun _ => Store.skipped_readOnly _ _ _
  case drain => exact (deals_over hm).drain
  case ended => exact fun s hs => hs
  case failed => exact fun s hs => hs

/-- A change of a mapping store that may refuse it. -/
theorem writes_over {x : Action Workspace StoreError Unit} {y : StoreTables → StoreAction Unit}
    (hx : x = onStore y ∨ x = Action.fail (.database .readOnly))
    (hy : Triple J (y t) (fun _ => J) J) :
    Triple (Over source t J) (Run.store x) (fun _ => Over source t J) (Over source t J) := by
  rcases hx with rfl | rfl
  · exact changes_store_over y hy
  · exact Run.call_triple fun _ => Triple.mapError (Triple.fail fun _ hw => hw)

variable (hm : m.OnFiles)
  (hinsert : ∀ record, source.Has record → Triple J (Store.insert t record) (fun _ => J) J)
  (hupdate : ∀ id key, Triple J (Store.update t id key) (fun _ => J) J)
include hm

theorem start_over (i : SourceInstance) (prepared : Prepared)
    {writeKey : Int → Action Workspace StoreError Unit}
    {y : Int → StoreTables → StoreAction Unit}
    (hwrite : ∀ key, writeKey key = onStore (y key) ∨
      writeKey key = Action.fail (.database .readOnly))
    (hy : ∀ key, Triple J (y key t) (fun _ => J) J) :
    Triple (Over source t J) (m.start i prepared writeKey) (fun _ => Over source t J)
      (Over source t J) := by
  unfold Migrator.start
  rw [hm.target]
  refine Triple.bind (changes_target_over (TargetEngine.createInstance prepared.request)) ?_
  intro handle
  refine Triple.bind (writes_over (hwrite handle.instanceKey) (hy handle.instanceKey)) ?_
  intro _
  exact Triple.modify fun s hs => hs

include hupdate in
theorem keepsRetrying_over : m.KeepsRetrying (Over source t J) (Over source t J) (Over source t J)
    (fun i => i ∈ source.listing) fun _ _ => True := by
  have hupdates : ∀ id key, m.env.store.update id key = onStore (fun t => Store.update t id key) ∨
      m.env.store.update id key = Action.fail (.database .readOnly) := by
    intro id key
    rcases hm with h | h
    · exact .inl (by rw [h]; rfl)
    · exact .inr (by rw [h]; rfl)
  refine
    { keeps_over hm with
      find := ?_
      prepare := fun i _ => (Run.prepares hm i).post fun _ _ hs => ⟨hs.1, fun _ _ => trivial⟩
      startAgain := fun i prepared _ _ => start_over hm i prepared (hupdates i.id) (hupdate i.id) }
  intro id
  rw [hm.source]
  refine (asks_source_over fun s => .ok (s.find? id)).post ?_
  rintro found s ⟨hs, hfound⟩
  refine ⟨hs, ?_⟩
  rintro i rfl
  exact (SnapshotSource.mem_of_find? (Except.ok.inj hfound)).1

include hinsert in
theorem keepsMigrating_over : m.KeepsMigrating (Over source t J) (Over source t J)
    (Over source t J) (fun i => i ∈ source.listing) (fun _ => True) fun _ _ => True := by
  have hinserts : ∀ record, m.env.store.insert record = onStore (fun t => Store.insert t record) ∨
      m.env.store.insert record = Action.fail (.database .readOnly) := by
    intro record
    rcases hm with h | h
    · exact .inl (by rw [h]; rfl)
    · exact .inr (by rw [h]; rfl)
  refine
    { keeps_over hm with
      latest := ?_
      count := ?_
      list := ?_
      «exists» := ?_
      prepare := fun i _ => (Run.prepares hm i).post fun _ _ hs => ⟨hs.1, fun _ _ => trivial⟩
      startNew := fun i prepared hi _ _ => start_over hm i prepared (fun _ => hinserts _)
        fun key => hinsert _ ⟨i, hi, rfl, rfl⟩
      skip := fun i reason hi _ => writes_over (hinserts _) (hinsert _ ⟨i, hi, rfl, rfl⟩) }
  · have hstore : m.env.store.latest? = recordStore.latest? := by
      rcases hm with h | h <;> rw [h] <;> rfl
    rw [hstore]
    exact asks_store_over (fun t => Store.latest? t .processInstance) fun _ =>
      Store.latest?_readOnly _
  · rw [hm.source]
    exact (asks_source_over fun s => .ok s.count).post fun _ _ hs => hs.1
  · intro after limit
    rw [hm.source]
    refine (asks_source_over fun s => .ok (s.listAfter after limit)).post ?_
    rintro page s ⟨hs, hpage⟩
    refine ⟨hs, ?_⟩
    cases hpage
    intro i hi
    exact SnapshotSource.mem_of_listAfter hi
  · intro i _
    have hstore : m.env.store.exists = recordStore.exists := by
      rcases hm with h | h <;> rw [h] <;> rfl
    rw [hstore]
    exact (asks_store_over (fun t => Store.exists t i.id) fun _ => Store.exists_readOnly i.id).post
      fun _ _ hs => ⟨hs, fun _ => trivial⟩

include hinsert hupdate

/-- A run of any mode, however it ends, keeps what the records of its snapshot and the updates
keep. -/
theorem run_keeps_over (mode : Mode) :
    Triple (Over source t J) (m.run mode) (fun _ => Over source t J) (Over source t J) :=
  Migrator.run_keeps (keepsRetrying_over hm hupdate) (keepsMigrating_over hm hinsert) mode

end Workspace
end ProcessMigration
