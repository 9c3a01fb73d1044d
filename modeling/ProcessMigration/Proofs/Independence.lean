import ProcessMigration.Proofs.Failures
import ProcessMigration.Proofs.Following
import ProcessMigration.Proofs.HandOverOnce
import ProcessMigration.Proofs.TwoRuns

/-!
# Instances do not interfere

The instances of a snapshot share one mapping table, one target engine, one map of what waits and
one queue of jobs, and variables are looked up among those of all of them. Still a pass makes of each
instance what its preparation says, and the preparation sees nothing of the others unless they hold
variables of its scopes.

* `InstanceOutcome` is what becomes of an instance, `Workspace.CameTo` reads it off the table and the
  journal, and `Preparation.outcome?` is what a preparation has in view;
* `Workspace.migrateInstance_dealt`: an instance is dealt with as prepared; `Workspace.Dealt` says
  where it stands from then on, and the rest of the walk keeps that;
* `Workspace.migrate_cameTo`: in a pass over an empty table every instance comes to the outcome that
  its preparation has in view;
* `Workspace.prepare_halts` and `Workspace.migrateInstance_heldBack`: an instance that is refused
  leaves one row behind, and the pass goes on;
* `Workspace.instances_do_not_interfere` puts it together.
-/

namespace ProcessMigration

open ProcessMigration.Action (Triple ReadOnly Fails)
open JournalEntry (startOf? firstMove?)

/-! ## Outcomes -/

/-- What becomes of a source instance. -/
inductive InstanceOutcome where
  | skipped (reason : String)
  /-- It is started by a request, and first receives these activations, if any. -/
  | migrated (request : CreateRequest) (moved : Option (List Activation))

/-- The request that an entry records. -/
def StartedInstance.request (e : StartedInstance) : CreateRequest :=
  ⟨e.definitionKey, e.businessId, e.tenant, e.vars⟩

/-- What became of the instance of a row, with these entries in the journal. -/
def InstanceOutcome.ofRow? (es : List JournalEntry) (r : Row) : Option InstanceOutcome :=
  match r.targetKey with
  | none => r.skipReason.map skipped
  | some key => (startOf? key es).map fun e => migrated e.request (firstMove? key es)

/-- Table and journal say that the instance of this id came to this. -/
def Workspace.CameTo (w : Workspace) (id : String) (o : InstanceOutcome) : Prop :=
  ∃ rows es, w.tables.Holds rows w.database ∧ w.target.journal.Holds es ∧
    (rows.find? fun r => r.legacyId == id).bind (InstanceOutcome.ofRow? es) = some o

/-- What a preparation has in view. The request is recorded with the business id of the definition
that the target engine finds by its key; activations are received where a job of the start event
comes up. -/
def Preparation.outcome? (settings : MigrationSettings) (definitions : List Definition) :
    Preparation → Option InstanceOutcome
  | .skip reason => some (.skipped reason)
  | .ready p =>
    (definitions.find? fun d => d.key == p.request.definitionKey).map fun d =>
      .migrated ⟨d.key, d.businessId, p.request.tenant, p.request.vars⟩
        (if 1 ≤ settings.maxJobs ∧ settings.jobType ∈ d.listeners then some p.activations
        else none)

/-! ## Rows -/

namespace StoreTables

/-- The row of its id is that of the record. -/
def Shows (t : StoreTables) (record : MappingRecord) (db : Database) : Prop :=
  ∃ rows, t.Holds rows db ∧
    (rows.find? fun r => r.legacyId == record.legacyId) = some (.ofRecord record)

/-- There is a table, and it has no row of the id. -/
def Lacks (t : StoreTables) (id : String) (db : Database) : Prop :=
  ∃ rows, t.Holds rows db ∧ ∀ r ∈ rows, r.legacyId ≠ id

end StoreTables

namespace Store

variable {t : StoreTables} {record record' : MappingRecord} {id : String}

theorem insert_shows : Triple (t.Shows record) (insert t record') (fun _ => t.Shows record)
    (t.Shows record) := by
  apply Triple.of_exists
  intro rows
  apply Triple.of_state
  rintro db ⟨hrows, hfound⟩
  refine (insert_triple t rows record').conseq (fun _ h => h ▸ hrows) ?_ fun _ h => ⟨_, h, hfound⟩
  rintro _ db' ⟨hrows', _⟩
  refine ⟨_, hrows', ?_⟩
  rw [List.find?_append, hfound]
  rfl

theorem insert_lacks (h : record.legacyId ≠ id) :
    Triple (t.Lacks id) (insert t record) (fun _ => t.Lacks id) (t.Lacks id) := by
  apply Triple.of_exists
  intro rows
  apply Triple.of_state
  rintro db ⟨hrows, hnone⟩
  refine (insert_triple t rows record).conseq (fun _ h => h ▸ hrows) ?_ fun _ h => ⟨_, h, hnone⟩
  rintro _ db' ⟨hrows', _⟩
  refine ⟨_, hrows', ?_⟩
  intro r hr
  rcases List.mem_append.1 hr with hold | hnew
  · exact hnone r hold
  · rw [List.mem_singleton.1 hnew]
    exact h

/-- The first record of an id is found by it. -/
theorem insert_own : Triple (t.Lacks record.legacyId) (insert t record) (fun _ => t.Shows record)
    fun _ => True := by
  apply Triple.of_exists
  intro rows
  apply Triple.of_state
  rintro db ⟨hrows, hnone⟩
  refine (insert_triple t rows record).conseq (fun _ h => h ▸ hrows) ?_ fun _ _ => trivial
  rintro _ db' ⟨hrows', _⟩
  refine ⟨_, hrows', ?_⟩
  rw [List.find?_append, List.find?_eq_none.2 fun r hr => by simpa using hnone r hr,
    List.find?_singleton]
  exact if_pos BEq.rfl

end Store

/-! ## What an instance is dealt with -/

/-- The instance was started as prepared. -/
structure Course.IsFor (definitions : List Definition) (i : SourceInstance) (p : Prepared)
    (c : Course) : Prop where
  id : c.id = i.id
  activations : c.activations = p.activations
  recorded : ∃ d, definitions.find? (fun d => d.key == p.request.definitionKey) = some d ∧
    TargetEngine.Records p.request d c.started

/-- What was started as prepared comes to what the preparation has in view. -/
theorem Course.IsFor.outcome? {settings : MigrationSettings} {definitions : List Definition}
    {i : SourceInstance} {p : Prepared} {c : Course} (h : c.IsFor definitions i p) :
    (Preparation.ready p).outcome? settings definitions =
      some (.migrated c.started.request (c.moves settings)) := by
  obtain ⟨d, hfind, hrecords⟩ := h.recorded
  have hrequest : c.started.request =
      ⟨d.key, d.businessId, p.request.tenant, p.request.vars⟩ := by
    unfold StartedInstance.request
    rw [hrecords.definitionKey, hrecords.businessId, hrecords.tenant, hrecords.vars]
  have hserved : c.Served settings ↔ 1 ≤ settings.maxJobs ∧ settings.jobType ∈ d.listeners := by
    unfold Course.Served
    rw [hrecords.jobs]
    rfl
  unfold Course.moves
  rw [hrequest, h.activations]
  simp only [Preparation.outcome?, hfind, Option.map_some, hserved]

namespace Workspace

open Migrator (Walk)
open Run (Over)
open TargetEngine (Tells)

variable {source : SnapshotSource} {t : StoreTables} {settings : MigrationSettings}
  {pipeline : Pipeline} {definitions : List Definition} {i : SourceInstance}
  {s₀ s s' : RunState Workspace}

/-- The journal tells what the engine has done. -/
def Journaling (definitions : List Definition) (s : RunState Workspace) : Prop :=
  ∃ es, s.world.target.Tells definitions es

theorem drain_journaling :
    Triple (Journaling definitions) (migrator settings pipeline).drain
      (fun _ => Journaling definitions) fun _ => True := by
  refine drain_rule (fun _ hs => hs) (fun _ _ hs => hs) (fun _ _ _ _ hs => hs) ?_ ?_
  · intro key terminated activations
    refine Run.changes_target (TargetEngine.modifyInstance key terminated activations) ?_
    rintro s ⟨es, hes⟩
    exact (TargetEngine.modifyInstance_tells hes ⟨key, terminated, activations⟩).post
      fun _ _ h => ⟨_, h.1⟩
  · refine Run.changes_target (TargetEngine.activateJobs settings.jobType settings.maxJobs) ?_
    rintro s ⟨es, hes⟩
    exact (TargetEngine.activateJobs_tells hes settings.jobType settings.maxJobs).post
      fun _ _ h => ⟨_, h.1⟩

theorem migrateInstance_journaling (i : SourceInstance) :
    Triple (Journaling definitions) ((migrator settings pipeline).migrateInstance i)
      (fun _ => Journaling definitions) fun _ => True := by
  refine migrateInstance_keeps ?_ ?_ i
  · intro s s' htarget _ hs
    unfold Journaling at hs ⊢
    rwa [htarget]
  · intro request
    refine Run.changes_target (TargetEngine.createInstance request) ?_
    rintro s ⟨es, hes⟩
    refine (TargetEngine.createInstance_tells hes request).post ?_
    rintro handle t ⟨d, e, _, _, ht, _⟩ h
    exact ⟨_, ht⟩

/-- Where an instance stands that was dealt with as prepared: its row is there, and the target
instance, if there is one, has been moved or waits for that. -/
def Dealt (settings : MigrationSettings) (definitions : List Definition) (source : SnapshotSource)
    (t : StoreTables) (i : SourceInstance) : Preparation → RunState Workspace → Prop
  | .skip reason, s => Over source t (t.Shows (.skipped i.id i.startTime reason)) s ∧
    Journaling definitions s
  | .ready p, s => ∃ c, Course.IsFor definitions i p c ∧
    Over source t (t.Shows (.migrated i.id c.started.instanceKey i.startTime)) s ∧
    Underway settings definitions c [] [] s

theorem Dealt.of_eq {p : Preparation} (h : Dealt settings definitions source t i p s)
    (hworld : s'.world = s.world) (hpending : s'.pending = s.pending) :
    Dealt settings definitions source t i p s' := by
  cases p with
  | skip reason =>
    obtain ⟨hover, es, hes⟩ := h
    exact ⟨hover.of_eq hworld, es, hworld ▸ hes⟩
  | ready p =>
    obtain ⟨c, hc, hover, hunderway⟩ := h
    exact ⟨c, hc, hover.of_eq hworld,
      hunderway.of_eq (congrArg Workspace.target hworld) hpending⟩

/-! ### Starting it -/

variable (settings definitions) in
/-- An instance that is started as prepared is not moved yet, and a job of it waits if the migrator
asks for one. -/
theorem createInstance_stands {es : List JournalEntry} {t₀ : TargetEngine}
    (h : t₀.Tells definitions es) {p : Prepared}
    (hid : p.request.vars.get? legacyIdVariable = some (.string i.id)) :
    Triple (fun t => t = t₀) (TargetEngine.createInstance p.request)
      (fun handle t => ∃ c, Course.IsFor definitions i p c ∧
        handle.instanceKey = c.started.instanceKey ∧ Stands definitions c none [] t ∧
        (settings.jobType ∈ c.started.jobs.map (·.jobType) → HasWaiting settings c [] t.state))
      fun _ => True := by
  refine (TargetEngine.createInstance_tells h p.request).post ?_
  rintro handle t ⟨d, e, hfind, hrecords, ht, hkey, hstarts⟩
  refine ⟨⟨i.id, e, p.activations, hrecords.vars ▸ hid⟩, ⟨rfl, rfl, d, hfind, hrecords⟩, hkey,
    ⟨hstarts.follows h ht, fun _ h => nomatch h⟩, ?_⟩
  intro htype
  obtain ⟨j, hj, htype⟩ := TargetState.exists_mem_jobsOf htype
  refine ⟨j, ?_, (TargetState.mem_jobsOf hj).1.instanceKey, htype, ?_⟩
  · rw [hstarts.outstanding h.wrote.sound]
    exact List.mem_append_right _ hj
  · intro hhanded
    refine absurd ?_ (hstarts.notHandedOut h.wrote.sound hj)
    rw [← hstarts.handedOut h.wrote.sound]
    exact hhanded

/-- An instance that is started as prepared is underway, or settled if no job of it can come up. -/
theorem Underway.of_created {c : Course} (hstands : Stands definitions c none [] s.world.target)
    (hwaiting : settings.jobType ∈ c.started.jobs.map (·.jobType) →
      HasWaiting settings c [] s.world.target.state)
    (hpending : s.pending.get? c.started.instanceKey = some ⟨c.id, c.activations⟩) :
    Underway settings definitions c [] [] s := by
  by_cases htype : settings.jobType ∈ c.started.jobs.map (·.jobType)
  · exact .waits hstands (hwaiting htype) hpending
  · have hmoves : c.moves settings = none := if_neg fun hserved => htype hserved.2
    exact .settled (hmoves ▸ hstands)

/-- The instance was just started as prepared; `J` is what holds of the database. -/
def Created (settings : MigrationSettings) (definitions : List Definition) (source : SnapshotSource)
    (t : StoreTables) (i : SourceInstance) (p : Prepared) (J : Database → Prop)
    (handle : InstanceHandle) (s : RunState Workspace) : Prop :=
  ∃ c, Course.IsFor definitions i p c ∧ handle.instanceKey = c.started.instanceKey ∧
    Over source t J s ∧ Stands definitions c none [] s.world.target ∧
    (settings.jobType ∈ c.started.jobs.map (·.jobType) →
      HasWaiting settings c [] s.world.target.state)

theorem start_dealt {p : Prepared}
    (hid : p.request.vars.get? legacyIdVariable = some (.string i.id)) :
    Triple (fun s => Over source t (t.Lacks i.id) s ∧ Journaling definitions s)
      ((migrator settings pipeline).start i p fun key =>
        onStore fun t => Store.insert t (.migrated i.id key i.startTime))
      (fun _ => Dealt settings definitions source t i (.ready p)) fun _ => True := by
  unfold Migrator.start
  refine Triple.bind (M := Created settings definitions source t i p (t.Lacks i.id)) ?_ ?_
  · refine Run.changes_target (TargetEngine.createInstance p.request) ?_
    rintro s ⟨hover, es, hes⟩
    refine (createInstance_stands settings definitions hes hid).post ?_
    rintro handle t' ⟨c, hc, hkey, hstands, hwaiting⟩
    exact ⟨c, hc, hkey, hover, hstands, hwaiting⟩
  intro handle
  let record := MappingRecord.migrated i.id handle.instanceKey i.startTime
  refine Triple.bind (M := fun _ =>
    Created settings definitions source t i p (t.Shows record) handle) ?_ ?_
  · refine Run.changes_store (fun t => Store.insert t record) ?_
    rintro s ⟨c, hc, hkey, ⟨hsource, htables, hlacks⟩, hrest⟩
    rw [htables]
    refine Store.insert_own.conseq ?_
      (fun _ db hdb => ⟨c, hc, hkey, ⟨hsource, htables, hdb⟩, hrest⟩) fun _ _ => trivial
    intro db hdb
    rw [hdb]
    exact hlacks
  · intro _
    apply Triple.modify
    rintro s ⟨c, hc, hkey, hover, hstands, hwaiting⟩
    refine ⟨c, hc, hkey ▸ hover, .of_created hstands hwaiting ?_⟩
    rw [hc.id, hc.activations, ← hkey]
    exact Pending.get?_insert_self _ _ _

theorem skip_dealt (reason : String) :
    Triple (fun s => Over source t (t.Lacks i.id) s ∧ Journaling definitions s)
      (Run.store (onStore fun t => Store.insert t (.skipped i.id i.startTime reason)))
      (fun _ => Dealt settings definitions source t i (.skip reason)) fun _ => True := by
  refine Run.changes_store (fun t => Store.insert t (.skipped i.id i.startTime reason)) ?_
  rintro s ⟨⟨hsource, htables, hlacks⟩, htold⟩
  rw [htables]
  refine Store.insert_own.conseq ?_
    (fun _ db hdb => ⟨⟨hsource, htables, hdb⟩, htold⟩) fun _ _ => trivial
  intro db hdb
  rw [hdb]
  exact hlacks

/-- An instance without a row is dealt with as prepared. -/
theorem migrateInstance_dealt (hover : Over source t (t.Lacks i.id) s₀)
    (htold : Journaling definitions s₀) :
    Triple (fun s => s = s₀) ((migrator settings pipeline).migrateInstance i)
      (fun _ s => ∃ p, (((migrator settings pipeline).prepare i).run s₀.world).1 = .ok p ∧
        Dealt settings definitions source t i p s) fun _ => True := by
  have hready : ∀ s : RunState Workspace, s.world = s₀.world →
      Over source t (t.Lacks i.id) s ∧ Journaling definitions s := by
    intro s hs
    obtain ⟨es, hes⟩ := htold
    exact ⟨hover.of_eq hs, es, hs ▸ hes⟩
  obtain ⟨_, htables, rows, hrows, hnone⟩ := hover
  unfold Migrator.migrateInstance
  refine Triple.bind (M := fun _ s => s.world = s₀.world)
    (Triple.modify fun s hs => congrArg RunState.world hs) ?_
  intro _
  refine Triple.bind_eq (a := false) (M := fun s => s.world = s₀.world) ?_ ?_
  · refine (Run.asks_store (fun t => Store.exists t i.id) fun _ =>
      Store.exists_readOnly i.id).orFails.post ?_
    rintro found s ⟨hs, hfound⟩
    -- no row has the id, so the store says that the instance is new
    rw [hs, htables, Store.exists_run hrows,
      List.find?_eq_none.2 fun r hr => by simpa using hnone r hr] at hfound
    exact ⟨(Except.ok.inj hfound).symm, hs⟩
  rw [if_neg Bool.false_ne_true]
  refine Triple.bind (M := fun p s =>
    (((migrator settings pipeline).prepare i).run s₀.world).1 = .ok p ∧ s.world = s₀.world)
    ?_ ?_
  · refine (Run.prepares (migrator_onFiles settings pipeline) i).orFails.post ?_
    rintro p s ⟨hs, hprepare⟩
    exact ⟨hs ▸ hprepare, hs⟩
  intro p
  apply Triple.of_and
  intro hprepare
  have hcount : ∀ f, Triple (Dealt settings definitions source t i p) (Run.count f)
      (fun _ s => ∃ p, (((migrator settings pipeline).prepare i).run s₀.world).1 = .ok p ∧
        Dealt settings definitions source t i p s) fun _ => True :=
    fun f => Triple.modify fun s hs => ⟨p, hprepare, hs.of_eq rfl rfl⟩
  cases p with
  | ready prepared =>
    have hfits := (migrator_onFiles settings pipeline).fits_of_prepare hprepare
    exact Triple.bind ((start_dealt hfits.carriesId).pre hready) fun _ => hcount _
  | skip reason => exact Triple.bind ((skip_dealt reason).pre hready) fun _ => hcount _

/-! ### The rest of the pass -/

theorem walk_over {J : Database → Prop} {done : List SourceInstance}
    (hinsert : ∀ j ∈ done, ∀ record, record.legacyId = j.id →
      Triple J (Store.insert t record) (fun _ => J) J)
    (h : Walk (migrator settings pipeline) (migrator settings pipeline).migrateInstance s₀ done s)
    (hover : Over source t J s₀) : Over source t J s :=
  h.keeps hover (keeps_over (migrator_onFiles settings pipeline)).drain.orFails
    fun j hj => migrateInstance_over (hinsert j hj)

theorem walk_journaling {done : List SourceInstance}
    (h : Walk (migrator settings pipeline) (migrator settings pipeline).migrateInstance s₀ done s)
    (htold : Journaling definitions s₀) : Journaling definitions s :=
  h.keeps htold drain_journaling fun j _ => migrateInstance_journaling j

theorem walk_underway {c : Course} {done : List SourceInstance}
    (h : Walk (migrator settings pipeline) (migrator settings pipeline).migrateInstance s₀ done s)
    (hunderway : Underway settings definitions c [] [] s₀) :
    Underway settings definitions c [] [] s :=
  h.keeps hunderway (drain_settles.post fun _ _ h => .settled h) fun j _ =>
    migrateInstance_underway j

/-- Whatever is dealt with later, and the last drain, bring the instance to what its preparation has
in view. -/
theorem Dealt.cameTo {p : Preparation} {done : List SourceInstance}
    (h : Dealt settings definitions source t i p s₀)
    (hwalk : Walk (migrator settings pipeline) (migrator settings pipeline).migrateInstance s₀
      done s)
    (hlast : (migrator settings pipeline).drain.run s = (.ok (), s')) :
    ∃ o, p.outcome? settings definitions = some o ∧ s'.world.CameTo i.id o := by
  have hall := hwalk.drained hlast
  cases p with
  | skip reason =>
    obtain ⟨hover, htold⟩ := h
    obtain ⟨_, htables, rows, hrows, hfound⟩ :=
      walk_over (fun _ _ _ _ => Store.insert_shows) hall hover
    obtain ⟨es, hes⟩ := walk_journaling hall htold
    refine ⟨_, rfl, rows, es, htables ▸ hrows, hes.wrote.recorded.journal, ?_⟩
    rw [show rows.find? (fun r => r.legacyId == i.id) = _ from hfound]
    rfl
  | ready p =>
    obtain ⟨c, hc, hover, hunderway⟩ := h
    obtain ⟨_, htables, rows, hrows, hfound⟩ :=
      walk_over (fun _ _ _ _ => Store.insert_shows) hall hover
    have hstands := drain_settles.ok (walk_underway hwalk hunderway) (congrArg Prod.fst hlast)
    rw [hlast] at hstands
    obtain ⟨es, hes, hstart, hmove⟩ := hstands.1.told
    refine ⟨_, hc.outcome?, rows, es, htables ▸ hrows, hes.wrote.recorded.journal, ?_⟩
    rw [show rows.find? (fun r => r.legacyId == i.id) = _ from hfound]
    show (startOf? c.started.instanceKey es).map _ = _
    rw [hstart, hmove]
    rfl

/-! ## A pass over an empty table -/

/-- A run begins over the snapshot of these instances, with an empty table and no journal. -/
structure Begins (definitions : List Definition) (xs : List SnapshotInstance)
    (s : RunState Workspace) : Prop where
  source : s.world.source = .ofInstances xs
  empty : s.world.tables.Holds [] s.world.database
  target : s.world.target = ⟨definitions, .absent, .start definitions⟩

/-- Every instance comes to what its preparation has in view at the beginning. -/
theorem migrate_cameTo {xs : List SnapshotInstance} (hids : (xs.map (·.inst.id)).Nodup)
    {x : SnapshotInstance} (hx : x ∈ xs) (hs : Begins definitions xs s) {report : Report}
    (hrun : ((migrator settings pipeline).run .migrate).run s = (.ok report, s')) :
    ∃ p o, (((migrator settings pipeline).prepare x.inst).run s.world).1 = .ok p ∧
      p.outcome? settings definitions = some o ∧ s'.world.CameTo x.inst.id o := by
  have hascending : s.world.source.Ascending :=
    hs.source ▸ SnapshotSource.ofInstances_ascending hids
  let begun := Migrator.fresh .migrate s
  have hpass : (migrator settings pipeline).migratePass.run begun = (.ok (), s') :=
    (Migrator.of_run_ok hrun).1
  have hwalks := (migratePass_walks hascending).ok (s := begun) ⟨rfl, rfl⟩
    (congrArg Prod.fst hpass)
  rw [hpass] at hwalks
  obtain ⟨resume, s₁, hresume, hwalk, hlast⟩ := hwalks
  -- no row is there yet, so the pass begins with the first instance
  have hnone : resume = none := by
    have hlatest := Store.latest?_nil hs.empty .processInstance
    exact (Except.ok.inj (hresume.symm.trans (congrArg Prod.fst hlatest)))
  subst hnone
  have hlisted : x.inst ∈ s.world.source.listing := by
    rw [hs.source]
    exact List.mem_map_of_mem (SnapshotSource.mem_ofInstances.2 hx)
  -- what is before the instance in the listing leaves it alone, and so does what is behind it
  obtain ⟨before, after, hsplit⟩ := List.append_of_mem hlisted
  rw [show s.world.source.listing.drop (passedOver s.world.source none) = _ from hsplit] at hwalk
  obtain ⟨s₂, _, s₃, hbefore, hitem, hafter⟩ := hwalk.visits
  have hothers : ∀ j ∈ before, j.id ≠ x.inst.id := by
    have hdistinct := SnapshotSource.nodup_ids_ofInstances hids
    rw [← hs.source, hsplit, List.map_append] at hdistinct
    intro j hj
    exact (List.nodup_append.1 hdistinct).2.2 j.id (List.mem_map_of_mem hj) x.inst.id
      List.mem_cons_self
  have hover : Over s.world.source s.world.tables (s.world.tables.Lacks x.inst.id) s₂ :=
    walk_over (fun j hj record hid => Store.insert_lacks (hid ▸ hothers j hj)) hbefore
      ⟨rfl, rfl, [], hs.empty, fun _ h => nomatch h⟩
  have htold : Journaling definitions s₂ := by
    refine walk_journaling hbefore ⟨[], ?_⟩
    show s.world.target.Tells definitions []
    rw [hs.target]
    exact TargetEngine.tells_start definitions
  have hdealt := (migrateInstance_dealt hover htold).ok rfl (congrArg Prod.fst hitem)
  rw [hitem] at hdealt
  obtain ⟨p, hprepare, hdealt⟩ := hdealt
  obtain ⟨o, ho, hcame⟩ := hdealt.cameTo hafter hlast
  refine ⟨p, o, ?_, ho, hcame⟩
  obtain ⟨es, hes⟩ := htold
  rw [← hprepare]
  refine prepare_same rfl (.of_eq ?_ hover.1.symm)
  rw [hes.definitions, hs.target]

/-! ## What a preparation sees -/

/-- A snapshot that is reduced to one instance gives the same answers about it, if the others have
no variables of its scopes. -/
theorem sameAnswers_alone {xs : List SnapshotInstance} (hids : (xs.map (·.inst.id)).Nodup)
    {x : SnapshotInstance} (hx : x ∈ xs) {w w' : Workspace} (hsource : w.source = .ofInstances xs)
    (hsource' : w'.source = .ofInstances [x])
    (hdefinitions : w.target.definitions = w'.target.definitions)
    (hscopes : ∀ y ∈ xs, y.inst.id ≠ x.inst.id → ∀ v ∈ y.vars,
      v.scopeId ∉ scopesOf settings w x.inst) : SameAnswers settings x.inst w w' := by
  have hone : ([x].map (·.inst.id)).Nodup := List.nodup_singleton _
  have halone := SnapshotSource.instance?_ofInstances hone (List.mem_singleton_self x)
  have hamong := SnapshotSource.instance?_ofInstances hids hx
  refine ⟨hdefinitions, ?_, ?_, ?_⟩
  · unfold SnapshotSource.activityTree
    rw [hsource, hsource', hamong, halone]
  · intro gateway
    unfold SnapshotSource.completedBefore
    rw [hsource, hsource', hamong, halone]
  · intro scope hscope
    rw [hsource, hsource', SnapshotSource.variablesOf_ofInstances hids hx,
      SnapshotSource.variablesOf_ofInstances hone (List.mem_singleton_self x)]
    · intro y hy hne
      exact absurd (congrArg (·.inst.id) (List.mem_singleton.1 hy)) hne
    · intro y hy hne v hv heq
      exact hscopes y hy hne v hv (heq ▸ hscope)

/-! ## Instances that are refused -/

/-- What stops a preparation is no reason to end the run, unless an interceptor has broken off or
the instance is not in the snapshot. -/
def Harmless (i : SourceInstance) (o : Obstacle) (w : Workspace) : Prop :=
  ∀ cause, o = .halt cause → w.source.instance? i.id = none ∨ ∃ message, cause = .crashed message

theorem ask_fails {α : Type} {f : SnapshotSource → Except ConnectorError α}
    (hf : ∀ source e, f source = .error e → source.instance? i.id = none) :
    Fails (Migrator.ask (onSource f)) (Harmless i) := by
  apply Fails.mapError
  intro w
  unfold Action.run onSource
  split
  · trivial
  · next hanswer =>
    obtain ⟨herror, rfl⟩ := Prod.mk.inj hanswer
    intro _ _
    exact .inl (hf _ _ herror)

theorem hinders_harmless (i : SourceInstance) :
    (migrator settings pipeline).Hinders i (Harmless i) where
  skip _ _ _ hcause := nomatch hcause
  crashed message _ _ hcause := by
    cases hcause
    exact .inr ⟨message, rfl⟩
  activityTree := ask_fails (f := fun s => s.activityTree i.id) fun _ _ =>
    SnapshotSource.instance?_of_activityTree_error
  variablesOf scopeId :=
    ask_fails (f := fun s => .ok (s.variablesOf scopeId)) fun _ _ h => nomatch h
  completedBefore gateway := ask_fails (f := fun s => s.completedBefore i.id gateway) fun _ _ =>
    SnapshotSource.instance?_of_completedBefore_error
  searchDefinitions := Fails.mapError fun _ => trivial

/-- For an instance of the snapshot only an interceptor that breaks off ends the run; every other
failure of a check or an interceptor is a reason to skip. -/
theorem prepare_halts {w : Workspace} {x : SnapshotInstance} (hx : w.source.instance? i.id = some x)
    {e : MigrationError} (h : (((migrator settings pipeline).prepare i).run w).1 = .error e) :
    ∃ message, e = .crashed message := by
  have hfails : Fails ((migrator settings pipeline).prepare i) fun cause w =>
      w.source.instance? i.id = none ∨ ∃ message, cause = .crashed message :=
    (hinders_harmless i).prepare fun cause w h => h cause rfl
  rcases hfails.error h with hnone | hcrashed
  · rw [(migrator_onFiles settings pipeline).prepare_readOnly i w, hx] at hnone
    cases hnone
  · exact hcrashed

/-- The state after an instance was held back for a reason: there is one row more. -/
def heldBack (s : RunState Workspace) (i : SourceInstance) (reason : String) (rows : List Row) :
    RunState Workspace :=
  { s with
    world := { s.world with
      database := s.world.database.setContent s.world.tables.mapping
        (.mapping (rows ++ [.ofRecord (.skipped i.id i.startTime reason)])) }
    report := { s.report with fetched := s.report.fetched + 1, skipped := s.report.skipped + 1 } }

/-- An instance that is refused is noted with the reason, and nothing else happens. -/
theorem migrateInstance_heldBack {rows : List Row}
    (hrows : s.world.tables.Holds rows s.world.database)
    (hnew : ¬∃ r ∈ rows, r.legacyId = i.id) {reason : String}
    (hprepare : (((migrator settings pipeline).prepare i).run s.world).1 = .ok (.skip reason)) :
    ((migrator settings pipeline).migrateInstance i).run s =
      (.ok (), heldBack s i reason rows) := by
  let counted : RunState Workspace :=
    { s with report := { s.report with fetched := s.report.fetched + 1 } }
  have hexists : (Run.store (onStore fun t => Store.exists t i.id)).run counted =
      (.ok false, counted) := by
    refine Run.run_query (r := .ok false) (fun _ => Store.exists_readOnly i.id) ?_
    show ((Store.exists s.world.tables i.id).run s.world.database).1 = .ok false
    rw [Store.exists_run hrows, List.find?_eq_none.2 fun r hr h => hnew ⟨r, hr, by simpa using h⟩]
    rfl
  have hasked : (Run.call ((migrator settings pipeline).prepare i)).run counted =
      (.ok (.skip reason), counted) :=
    Run.run_ask ((migrator_onFiles settings pipeline).prepare_readOnly i) hprepare
  have hinsert : (Run.store (onStore fun t =>
      Store.insert t (.skipped i.id i.startTime reason))).run counted =
      (.ok (), { counted with world := (heldBack s i reason rows).world }) :=
    Run.run_change (x := fun t => Store.insert t (.skipped i.id i.startTime reason))
      (Store.insert_new hrows rfl hnew)
  unfold Migrator.migrateInstance
  refine (Action.run_bind_ok (Action.run_modify _ s) _).trans ?_
  refine (Action.run_bind_ok hexists _).trans ?_
  rw [if_neg Bool.false_ne_true]
  refine (Action.run_bind_ok hasked _).trans ?_
  exact (Action.run_bind_ok hinsert _).trans (Action.run_modify _ _)

/-! ## Together -/

/-- An instance comes to the same among others and alone, if the others have no variables of its
scopes: it is skipped for the same reason, or it is started by the same request and first receives
the same activations. And none of the others can do more than break off an interceptor: one that a
check or an interceptor refuses is noted, and the pass goes on. -/
theorem instances_do_not_interfere (settings : MigrationSettings) (pipeline : Pipeline)
    (definitions : List Definition) {xs : List SnapshotInstance}
    (hids : (xs.map (·.inst.id)).Nodup) {x : SnapshotInstance} (hx : x ∈ xs)
    {s t s' t' : RunState Workspace} (hs : Begins definitions xs s) (ht : Begins definitions [x] t)
    (hscopes : ∀ y ∈ xs, y.inst.id ≠ x.inst.id → ∀ v ∈ y.vars,
      v.scopeId ∉ scopesOf settings s.world x.inst)
    {report report' : Report}
    (hrun : ((migrator settings pipeline).run .migrate).run s = (.ok report, s'))
    (hrun' : ((migrator settings pipeline).run .migrate).run t = (.ok report', t')) :
    (∃ p o, (((migrator settings pipeline).prepare x.inst).run s.world).1 = .ok p ∧
      (((migrator settings pipeline).prepare x.inst).run t.world).1 = .ok p ∧
      p.outcome? settings definitions = some o ∧
      s'.world.CameTo x.inst.id o ∧ t'.world.CameTo x.inst.id o) ∧
    ∀ y ∈ xs, ∀ u : RunState Workspace, u.world.source = .ofInstances xs →
      (∀ e, (((migrator settings pipeline).prepare y.inst).run u.world).1 = .error e →
        ∃ message, e = .crashed message) ∧
      ∀ rows reason, u.world.tables.Holds rows u.world.database →
        (¬∃ r ∈ rows, r.legacyId = y.inst.id) →
        (((migrator settings pipeline).prepare y.inst).run u.world).1 = .ok (.skip reason) →
        ((migrator settings pipeline).migrateInstance y.inst).run u =
          (.ok (), heldBack u y.inst reason rows) := by
  have hdefinitions : s.world.target.definitions = t.world.target.definitions := by
    rw [hs.target, ht.target]
  obtain ⟨p, o, hprepare, ho, hcame⟩ := migrate_cameTo hids hx hs hrun
  have hone : ([x].map (·.inst.id)).Nodup := List.nodup_singleton _
  obtain ⟨p', o', hprepare', ho', hcame'⟩ :=
    migrate_cameTo hone (List.mem_singleton_self x) ht hrun'
  -- each run acts on what it prepares; the two prepare the same, since no scope is shared
  have hsame : (((migrator settings pipeline).prepare x.inst).run s.world).1 =
      (((migrator settings pipeline).prepare x.inst).run t.world).1 :=
    prepare_same rfl (sameAnswers_alone hids hx hs.source ht.source hdefinitions hscopes)
  have hp : p = p' := Except.ok.inj (hprepare.symm.trans (hsame.trans hprepare'))
  subst hp
  have ho : o = o' := Option.some.inj (ho.symm.trans ho')
  subst ho
  refine ⟨⟨p, o, hprepare, hprepare', ho', hcame, hcame'⟩, ?_⟩
  intro y hy u hu
  constructor
  · intro e he
    exact prepare_halts (hu ▸ SnapshotSource.instance?_ofInstances hids hy) he
  · intro rows reason hrows hnew hskip
    exact migrateInstance_heldBack hrows hnew hskip

/-- An order that waits at a task, with these variables. -/
def orderInstance (id : String) (vars : List SourceVariable) : SnapshotInstance :=
  ⟨⟨id, "order", "order:1", none, none⟩,
    ⟨id, "order", "process", none, [⟨id ++ "-t", "T1", "userTask", none, [], []⟩], []⟩,
    vars, .empty⟩

/-- An order with an amount. -/
def bulkyOrder : SnapshotInstance :=
  orderInstance "b" [⟨"amount", .integer, .nat 1000, "b", "b"⟩]

/-- An interceptor that refuses amounts. -/
def withoutAmounts : Pipeline :=
  ⟨[⟨"limit", 0, .universal, fun v value =>
    if v.name = "amount" then .error (.refused "too much") else .ok value⟩]⟩

/-- A run over these instances, with an empty table and no journal. -/
def runOver (xs : List SnapshotInstance) : RunState Workspace :=
  { world := { Session.oneOrder with source := ⟨xs⟩ } }

/-- An order comes to the same beside one that is refused as it does alone. -/
theorem order_beside_refused_order :
    ∃ r s' r' t' o,
      ((migrator {} withoutAmounts).run .migrate).run
        (runOver [orderInstance "a" [], bulkyOrder]) = (.ok r, s') ∧
      ((migrator {} withoutAmounts).run .migrate).run (runOver [orderInstance "a" []]) =
        (.ok r', t') ∧
      r.skipped = 1 ∧ r'.skipped = 0 ∧ s'.world.CameTo "a" o ∧ t'.world.CameTo "a" o := by
  have hrun : (((migrator {} withoutAmounts).run .migrate).run
      (runOver [orderInstance "a" [], bulkyOrder])).1 = .ok
        { mode := .migrate, fetched := 2, migrated := 1, skipped := 1, jobsActivated := 1 } := by
    decide +kernel
  have hrun' : (((migrator {} withoutAmounts).run .migrate).run
      (runOver [orderInstance "a" []])).1 =
        .ok { mode := .migrate, fetched := 1, migrated := 1, jobsActivated := 1 } := by
    decide +kernel
  have hbegins : Begins [Session.orderProcess] [orderInstance "a" [], bulkyOrder]
      (runOver [orderInstance "a" [], bulkyOrder]) :=
    ⟨congrArg SnapshotSource.mk (List.mergeSort_of_pairwise (by decide)).symm,
      Session.oneOrder_empty, rfl⟩
  have hbegins' : Begins [Session.orderProcess] [orderInstance "a" []]
      (runOver [orderInstance "a" []]) :=
    ⟨congrArg SnapshotSource.mk (List.mergeSort_singleton _).symm, Session.oneOrder_empty, rfl⟩
  have hscopes : ∀ y ∈ [orderInstance "a" [], bulkyOrder],
      y.inst.id ≠ (orderInstance "a" []).inst.id → ∀ v ∈ y.vars, v.scopeId ∉
        scopesOf {} (runOver [orderInstance "a" [], bulkyOrder]).world
          (orderInstance "a" []).inst := by
    decide +kernel
  obtain ⟨⟨_, o, _, _, _, hcame, hcame'⟩, _⟩ :=
    instances_do_not_interfere {} withoutAmounts [Session.orderProcess] (by decide)
      List.mem_cons_self hbegins hbegins' hscopes (Prod.ext hrun rfl) (Prod.ext hrun' rfl)
  exact ⟨_, _, _, _, o, Prod.ext hrun rfl, Prod.ext hrun' rfl, rfl, rfl, hcame, hcame'⟩

end Workspace
end ProcessMigration
