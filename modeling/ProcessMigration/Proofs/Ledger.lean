import ProcessMigration.Proofs.LifeCycle
import ProcessMigration.Proofs.Listing
import ProcessMigration.Proofs.Trials

/-!
# What a trial does to its rows

Of all that a run in a trial does, few things concern the mapping store: an instance is looked at, it
is started, its record is written. The `Ledger` of a run holds what these steps see and change, and
the drains and the questions in between leave it alone.

* `Trial.drain_ledger`: a drain changes nothing in the ledger;
* `Trial.start_ledger`: an instance that is started and whose write is accepted adds one entry to the
  started ones; if the run breaks off, the rows are as they were;
* `Trial.retryRecord_ledger` and `Trial.migrateInstance_ledger` say what becomes of one record and of
  one instance: no write is ever refused by the database itself.
-/

namespace ProcessMigration

open ProcessMigration.Action (Triple ReadOnly)

/-- What a run has counted of the records that it tried again. -/
structure Tally where
  fetched : Nat
  retried : Nat
  stillSkipped : Nat
  vanished : Nat

/-- The records that a report counts as tried again. -/
def Report.tally (r : Report) : Tally := ⟨r.fetched, r.retried, r.stillSkipped, r.vanished⟩

/-- What the steps of a run see and change, apart from the jobs. -/
structure Ledger where
  source : SnapshotSource
  definitions : List Definition
  tables : StoreTables
  database : Database
  started : List (CreateRequest × InstanceHandle)
  lostWrites : Nat
  rejected : List StoreError
  tally : Tally

/-- The ledger of a run. -/
def RunState.ledger (s : RunState Trial) : Ledger :=
  ⟨s.world.world.source, s.world.world.target.definitions, s.world.world.tables,
    s.world.world.database, s.world.started, s.world.lostWrites, s.world.rejected, s.report.tally⟩

namespace Ledger

/-- The ledger with other counts. -/
def counting (l : Ledger) (f : Tally → Tally) : Ledger := { l with tally := f l.tally }

/-- The snapshot and the definitions are those of this workspace. -/
structure Of (w : Workspace) (l : Ledger) : Prop where
  source : l.source = w.source
  definitions : l.definitions = w.target.definitions

/-- What a run that breaks off leaves: no row has changed, and if an instance was started whose record
is missing, a write was lost. -/
def Halts (l l' : Ledger) : Prop :=
  ∃ tally lost unrecorded, l' = { l with
    tally
    lostWrites := l.lostWrites + lost
    started := l.started ++ unrecorded } ∧ (lost = 0 → unrecorded = [])

theorem Halts.refl (l : Ledger) : l.Halts l := by
  refine ⟨l.tally, 0, [], ?_, fun _ => rfl⟩
  rw [List.append_nil]
  rfl

/-- Counts do not matter to a run that breaks off. -/
theorem Halts.of_counting {l l' : Ledger} {f : Tally → Tally} (h : (l.counting f).Halts l') :
    l.Halts l' := h

/-- A write to the mapping store was lost. -/
theorem Halts.of_lost {l l' : Ledger} (unrecorded : List (CreateRequest × InstanceHandle))
    (h : l' = { l with lostWrites := l.lostWrites + 1, started := l.started ++ unrecorded }) :
    l.Halts l' :=
  ⟨l.tally, 1, unrecorded, h, fun h => by cases h⟩

end Ledger

namespace Trial

variable {settings : MigrationSettings} {pipeline : Pipeline} {l : Ledger} {w : Workspace}
  {α : Type}

/-- A run whose ledger is this. -/
def At (l : Ledger) (s : RunState Trial) : Prop := s.ledger = l

theorem steady_at (l : Ledger) : Run.Steady (At l) := fun _ _ _ hs => hs

theorem of_at {s : RunState Trial} (h : At l s) :
    l.Of s.world.world ∧ s.world.world.tables = l.tables ∧ s.world.world.database = l.database := by
  unfold At at h
  subst h
  exact ⟨⟨rfl, rfl⟩, rfl, rfl⟩

theorem halts_of_at {s : RunState Trial} (h : At l s) : l.Halts s.ledger := by
  rw [show s.ledger = l from h]
  exact .refl l

/-! ## What leaves the ledger alone -/

theorem asks_ledger {op : EngineOperation} (x : Action Workspace ConnectorError α)
    (hx : ReadOnly x) :
    Triple (At l) (Run.engine (ask op x)) (fun a s => At l s ∧ (x.run s.world.world).1 = .ok a)
      (At l) :=
  Run.trial_asks (steady_at l) hx

theorem asksStore_ledger (x : StoreTables → StoreAction α) (hx : ∀ t, ReadOnly (x t)) :
    Triple (At l) (Run.store (askStore (Workspace.onStore x)))
      (fun a s => At l s ∧ ((x l.tables).run l.database).1 = .ok a) (At l) := by
  refine (Run.trial_asksStore (steady_at l) hx).post ?_
  intro a s ⟨hs, ha⟩
  obtain ⟨_, htables, hdatabase⟩ := of_at hs
  rw [htables, hdatabase] at ha
  exact ⟨hs, ha⟩

/-- Another engine with the same definitions leaves the ledger as it is. -/
theorem at_withTarget {s : RunState Trial} {t : TargetEngine} (hs : At l s)
    (ht : t.definitions = s.world.world.target.definitions) :
    At l { s with world := s.world.withTarget t } := by
  unfold At RunState.ledger at *
  show Ledger.mk s.world.world.source t.definitions _ _ _ _ _ _ = l
  rw [ht]
  exact hs

/-- An action of the target engine that keeps the definitions leaves the ledger as it is. -/
theorem target_ledger {x : TargetAction α} {s : RunState Trial} (hs : At l s)
    (hx : ∀ definitions, Triple (TargetEngine.Deploys definitions) x
      (fun _ => TargetEngine.Deploys definitions) (TargetEngine.Deploys definitions)) :
    Triple (fun t => t = s.world.world.target) x
      (fun _ t => At l { s with world := s.world.withTarget t })
      fun t => At l { s with world := s.world.withTarget t } :=
  (hx s.world.world.target.definitions).conseq (fun _ ht => ht ▸ rfl)
    (fun _ _ ht => at_withTarget hs ht) fun _ ht => at_withTarget hs ht

theorem modify_ledger (key terminated : Int) (activations : List Activation) :
    Triple (At l) (Run.engine ((migrator settings pipeline).env.target.modifyInstance key terminated
      activations)) (fun _ => At l) (At l) := by
  refine Run.trial_commands (steady_at l) (fun _ hs => hs) ?_ ?_
  · intro s hs
    exact target_ledger hs fun _ => TargetEngine.modifyInstance_deploys _ _ _
  · intro s cause hs
    refine (TargetEngine.modifyInstance_jammed cause key terminated activations).ends
      (fun _ _ ht => ht.elim) ?_
    rintro t rfl
    exact hs

theorem prepare_ledger (hw : l.Of w) (i : SourceInstance) :
    Triple (At l) (Run.call ((migrator settings pipeline).prepare i))
      (fun r s => At l s ∧ (((Workspace.migrator settings pipeline).prepare i).run w).1 = .ok r)
      (At l) := by
  refine Run.prepare_echoes (fun s => Trial.reads (steady_at l s)) ?_ ?_ i
  · intro s hs
    exact (of_at hs).1.source.symm.trans hw.source
  · intro s hs
    exact (of_at hs).1.definitions.symm.trans hw.definitions

/-- A drain moves instances that are there; no record is written. -/
theorem drain_ledger (hw : l.Of w) :
    Triple (At l) (migrator settings pipeline).drain (fun _ => At l) (At l) := by
  apply Migrator.Deals.drain
  constructor
  case giveUp => exact fun _ hs => hs
  case pending => exact fun _ _ hs => hs
  case counted => exact fun _ _ _ _ hs => hs
  case targetKey =>
    intro id
    exact (asksStore_ledger (fun t => Store.targetKey? t id) fun _ =>
      Store.targetKey?_readOnly id).post fun _ _ hs => hs.1
  case find =>
    intro id
    exact (asks_ledger (Workspace.sourceEngine.find? id) (Workspace.onSource_readOnly _)).post
      fun _ _ hs => hs.1
  case prepare => exact fun i => (prepare_ledger hw i).post fun _ _ hs => hs.1
  case modify => exact modify_ledger
  case fetch =>
    refine Run.trial_fetches (steady_at l) (fun _ hs => hs) ?_
    intro s hs
    exact target_ledger hs fun _ => TargetEngine.activateJobs_deploys _ _
  case failed => exact fun _ hs => hs

/-! ## Starting an instance -/

theorem create_ledger (request : CreateRequest) :
    Triple (At l) (Run.engine ((migrator settings pipeline).env.target.createInstance request))
      (fun handle => At { l with started := l.started ++ [(request, handle)] }) (At l) := by
  refine Run.trial_creates (steady_at l) (fun _ hs => hs) ?_ ?_
  · intro s hs
    refine (target_ledger hs fun _ => TargetEngine.createInstance_deploys request).post ?_
    intro handle t ht
    unfold At at ht ⊢
    rw [← ht]
    rfl
  · intro s t hs ht
    obtain ⟨a, keys, _, rfl⟩ := ht
    exact at_withTarget hs rfl

/-- A write that the database accepts is done, or it is lost. -/
theorem write_ledger (x : StoreTables → StoreAction Unit) {database : Database}
    (hx : (x l.tables).run l.database = (.ok (), database)) :
    Triple (At l) (Run.store (write (Workspace.onStore x))) (fun _ => At { l with database })
      (At { l with lostWrites := l.lostWrites + 1 }) := by
  refine Run.trial_writes (steady_at l) ?_ ?_
  · intro s hs
    unfold At at hs ⊢
    rw [← hs]
    rfl
  · intro s hs
    obtain ⟨_, htables, hdatabase⟩ := of_at hs
    intro db hdb
    subst hdb
    rw [htables, hdatabase, hx]
    unfold At at hs ⊢
    rw [← hs]
    rfl

/-- An instance that is started, and whose write the database accepts, is noted as started. If the
run breaks off in between, a write was lost. -/
theorem start_ledger (i : SourceInstance) (prepared : Prepared)
    (x : Int → StoreTables → StoreAction Unit) {database : Int → Database}
    (hx : ∀ key, (x key l.tables).run l.database = (.ok (), database key)) :
    Triple (At l)
      ((migrator settings pipeline).start i prepared fun key => write (Workspace.onStore (x key)))
      (fun _ s => ∃ handle, At { l with
        database := database handle.instanceKey
        started := l.started ++ [(prepared.request, handle)] } s)
      (fun s => l.Halts s.ledger) := by
  unfold Migrator.start
  refine Triple.bind ((create_ledger prepared.request).ends (fun _ _ hs => hs)
    fun _ hs => halts_of_at hs) ?_
  intro handle
  have hwrite : Triple (At { l with started := l.started ++ [(prepared.request, handle)] })
      (Run.store (write (Workspace.onStore (x handle.instanceKey))))
      (fun _ => At { l with
        database := database handle.instanceKey
        started := l.started ++ [(prepared.request, handle)] })
      (At { l with
        lostWrites := l.lostWrites + 1
        started := l.started ++ [(prepared.request, handle)] }) :=
    write_ledger (x handle.instanceKey) (hx handle.instanceKey)
  refine Triple.bind (hwrite.ends (fun _ _ hs => hs)
    fun s hs => Ledger.Halts.of_lost [(prepared.request, handle)] hs) ?_
  intro _
  exact Triple.modify fun s hs => ⟨handle, hs⟩

theorem count_ledger {R : RunState Trial → Prop} (f : Report → Report) (g : Tally → Tally)
    (hf : ∀ r, (f r).tally = g r.tally) :
    Triple (At l) (Run.count f) (fun _ => At (l.counting g)) R := by
  apply Triple.modify
  intro s hs
  unfold At at hs ⊢
  rw [← hs]
  unfold RunState.ledger Ledger.counting
  simp only [hf]

/-- What is looked at is counted first. All that follows is about the ledger with that count, and
breaking off from there is breaking off from here. -/
theorem fetched_ledger (hw : l.Of w) {rows : List Row} (hrows : l.tables.Holds rows l.database)
    {x : Run Trial α} {Q : α → RunState Trial → Prop} {R : RunState Trial → Prop}
    (hx : ∀ l₁, l.counting (fun t => { t with fetched := t.fetched + 1 }) = l₁ → l₁.Of w →
      l₁.tables.Holds rows l₁.database → (∀ l', l₁.Halts l' → l.Halts l') →
      Triple (At l₁) x Q R) :
    Triple (At l) (Run.count (fun r => { r with fetched := r.fetched + 1 }) >>= fun _ => x) Q R :=
  Triple.bind (count_ledger _ (fun t => { t with fetched := t.fetched + 1 }) fun _ => rfl) fun _ =>
    hx _ rfl ⟨hw.source, hw.definitions⟩ hrows fun _ h => h.of_counting

/-! ## One record -/

/-- What became of a record that was tried again: it was carried over, with a new entry for the
instance that was started for it, or it stays as it was. -/
inductive Retries (w : Workspace) (settings : MigrationSettings) (pipeline : Pipeline)
    (id : String) (rows : List Row) (l : Ledger) : Bool → Ledger → Prop where
  | carried (prepared : Prepared) (handle : InstanceHandle) (database : Database)
    (hprepares : w.Prepares settings pipeline id prepared)
    (hrows : l.tables.Holds (Store.flippedRows id handle.instanceKey rows) database) :
    Retries w settings pipeline id rows l true { l with
      database
      started := l.started ++ [(prepared.request, handle)]
      tally := { l.tally with
        fetched := l.tally.fetched + 1
        retried := l.tally.retried + 1 } }
  | vanished (hgone : w.source.find? id = none) :
    Retries w settings pipeline id rows l false { l with
      tally := { l.tally with
        fetched := l.tally.fetched + 1
        vanished := l.tally.vanished + 1 } }
  | stillSkipped (i : SourceInstance) (reason : String) (hfound : w.source.find? id = some i)
    (hskip : (((Workspace.migrator settings pipeline).prepare i).run w).1 = .ok (.skip reason)) :
    Retries w settings pipeline id rows l false { l with
      tally := { l.tally with
        fetched := l.tally.fetched + 1
        stillSkipped := l.tally.stillSkipped + 1 } }

theorem find_ledger (hw : l.Of w) (id : String) :
    Triple (At l) (Run.engine ((migrator settings pipeline).env.source.find? id))
      (fun found s => At l s ∧ w.source.find? id = found) (At l) := by
  refine (asks_ledger (Workspace.sourceEngine.find? id) (Workspace.onSource_readOnly _)).post ?_
  intro found s ⟨hs, hfound⟩
  refine ⟨hs, ?_⟩
  rw [← hw.source, (of_at hs).1.source]
  exact Except.ok.inj hfound

/-- A record whose row is skipped is carried over, or it stays as it was. -/
theorem retryRecord_ledger (hw : l.Of w) {rows : List Row} (hrows : l.tables.Holds rows l.database)
    (record : MappingRecord)
    (hskipped : ∃ r ∈ rows, r.legacyId = record.legacyId ∧ r.isSkipped = true) :
    Triple (At l) ((migrator settings pipeline).retryRecord record)
      (fun carried s => Retries w settings pipeline record.legacyId rows l carried s.ledger)
      (fun s => l.Halts s.ledger) := by
  unfold Migrator.retryRecord
  refine fetched_ledger hw hrows ?_
  intro l₁ hfetched hw₁ hrows₁ hhalts
  refine Triple.bind ((find_ledger hw₁ record.legacyId).ends (fun _ _ hs => hs)
    fun _ hs => hhalts _ (halts_of_at hs)) ?_
  intro found
  apply Triple.of_state
  rintro s₀ ⟨hs₀, hfound⟩
  cases found with
  | none =>
    refine Triple.bind ((count_ledger _ (fun t => { t with vanished := t.vanished + 1 })
      fun _ => rfl).pre fun s hs => hs ▸ hs₀) ?_
    intro _
    apply Triple.pure
    intro s hs
    subst hfetched
    rw [show s.ledger = _ from hs]
    exact .vanished hfound
  | some i =>
    obtain ⟨_, hid⟩ := SnapshotSource.mem_of_find? hfound
    refine Triple.bind ((prepare_ledger hw₁ i).conseq (fun s hs => hs ▸ hs₀) (fun _ _ hs => hs)
      fun _ hs => hhalts _ (halts_of_at hs)) ?_
    intro p
    apply Triple.of_state
    rintro s₁ ⟨hs₁, hprepared⟩
    cases p with
    | ready prepared =>
      have hupdate : ∀ key, (Store.update l₁.tables i.id key).run l₁.database =
          (.ok (), l₁.database.setContent l₁.tables.mapping
            (.mapping (Store.flippedRows i.id key rows))) := by
        intro key
        rw [Store.update_run hrows₁, if_pos (hid ▸ hskipped)]
      refine Triple.bind ((start_ledger i prepared (fun key t => Store.update t i.id key)
        hupdate).conseq (fun s hs => hs ▸ hs₁) (fun _ _ hs => hs) fun _ hs => hhalts _ hs) ?_
      intro _
      apply Triple.of_exists
      intro handle
      refine Triple.bind (count_ledger _ (fun t => { t with retried := t.retried + 1 })
        fun _ => rfl) ?_
      intro _
      apply Triple.pure
      intro s hs
      subst hfetched
      rw [show s.ledger = _ from hs]
      rw [hid]
      exact .carried prepared handle _ ⟨i, hfound, hprepared⟩ (Database.rows_setContent hrows _)
    | skip reason =>
      refine Triple.bind ((count_ledger _ (fun t => { t with stillSkipped := t.stillSkipped + 1 })
        fun _ => rfl).pre fun s hs => hs ▸ hs₁) ?_
      intro _
      apply Triple.pure
      intro s hs
      subst hfetched
      rw [show s.ledger = _ from hs]
      exact .stillSkipped i reason hfound hprepared

/-! ## One instance -/

/-- What became of an instance that was looked at: it had a record, or it has a new one. -/
inductive Migrates (w : Workspace) (settings : MigrationSettings) (pipeline : Pipeline)
    (i : SourceInstance) (rows : List Row) (l : Ledger) : Ledger → Prop where
  | mapped (tally : Tally) : Migrates w settings pipeline i rows l { l with tally }
  | migrated (prepared : Prepared) (handle : InstanceHandle) (database : Database) (tally : Tally)
    (hprepare :
      (((Workspace.migrator settings pipeline).prepare i).run w).1 = .ok (.ready prepared))
    (hnew : ¬∃ r ∈ rows, r.legacyId = i.id)
    (hrows : l.tables.Holds
      (rows ++ [.ofRecord (.migrated i.id handle.instanceKey i.startTime)]) database) :
    Migrates w settings pipeline i rows l { l with
      database
      started := l.started ++ [(prepared.request, handle)]
      tally }
  | skipped (reason : String) (database : Database) (tally : Tally)
    (hnew : ¬∃ r ∈ rows, r.legacyId = i.id)
    (hrows : l.tables.Holds (rows ++ [.ofRecord (.skipped i.id i.startTime reason)]) database) :
    Migrates w settings pipeline i rows l { l with database, tally }

/-- An instance gets a record unless it has one. -/
theorem migrateInstance_ledger (hw : l.Of w) {rows : List Row}
    (hrows : l.tables.Holds rows l.database) (i : SourceInstance) :
    Triple (At l) ((migrator settings pipeline).migrateInstance i)
      (fun _ s => Migrates w settings pipeline i rows l s.ledger)
      (fun s => l.Halts s.ledger) := by
  unfold Migrator.migrateInstance
  refine fetched_ledger hw hrows ?_
  intro l₁ hfetched hw₁ hrows₁ hhalts
  refine Triple.bind ((asksStore_ledger (fun t => Store.exists t i.id) fun _ =>
    Store.exists_readOnly i.id).ends (fun _ _ hs => hs)
    fun _ hs => hhalts _ (halts_of_at hs)) ?_
  intro found
  apply Triple.of_state
  rintro s₀ ⟨hs₀, hfound⟩
  cases found with
  | true =>
    rw [if_pos rfl]
    apply Triple.modify
    intro s hs
    show Migrates w settings pipeline i rows l s.ledger
    subst hs hfetched
    rw [show s.ledger = _ from hs₀]
    exact .mapped _
  | false =>
    rw [if_neg Bool.false_ne_true]
    -- the store was asked first, so the record that follows has a new id and is accepted
    have hnew := Store.not_exists_of_run hrows₁ hfound
    refine Triple.bind ((prepare_ledger hw₁ i).conseq (fun s hs => hs ▸ hs₀) (fun _ _ hs => hs)
      fun _ hs => hhalts _ (halts_of_at hs)) ?_
    intro p
    apply Triple.of_state
    rintro s₁ ⟨hs₁, hprepare⟩
    cases p with
    | ready prepared =>
      refine Triple.bind ((start_ledger i prepared
        (fun key t => Store.insert t (.migrated i.id key i.startTime))
        fun key => Store.insert_new hrows₁ rfl hnew).conseq (fun s hs => hs ▸ hs₁)
        (fun _ _ hs => hs) fun _ hs => hhalts _ hs) ?_
      intro _
      apply Triple.of_exists
      intro handle
      apply Triple.modify
      intro s hs
      show Migrates w settings pipeline i rows l s.ledger
      subst hfetched
      rw [show s.ledger = _ from hs]
      exact .migrated prepared handle _ _ hprepare hnew (Database.rows_setContent hrows _)
    | skip reason =>
      refine Triple.bind ((write_ledger (fun t => Store.insert t (.skipped i.id i.startTime reason))
        (Store.insert_new hrows₁ rfl hnew)).conseq (fun s hs => hs ▸ hs₁)
        (fun _ _ hs => hs) ?_) ?_
      · intro s hs
        refine hhalts _ (Ledger.Halts.of_lost [] ?_)
        rw [List.append_nil]
        exact hs
      · intro _
        apply Triple.modify
        intro s hs
        show Migrates w settings pipeline i rows l s.ledger
        subst hfetched
        rw [show s.ledger = _ from hs]
        exact .skipped reason _ _ hnew (Database.rows_setContent hrows _)

end Trial
end ProcessMigration
