import ProcessMigration.Proofs.Listing
import ProcessMigration.Proofs.Obligations
import ProcessMigration.Proofs.Passes

/-!
# No started instance is left behind

A pass over files that comes to its end has paid what it owed: the instances that it has started, and
those that earlier passes had left behind, have received their activations, and nothing is given up. It
has left everything else alone. Whatever happened before does not matter, and others may start
instances while it runs.

* `Workspace.InOrder` is the invariant of `Orderly` for the state of a run, `Workspace.Done` what holds
  in the end;
* `Workspace.handOver_inOrder`, `Workspace.fetch_inOrder` and `Workspace.drain_inOrder`: a drain pays;
* `Workspace.run_done`: a pass that comes to its end is done;
* `Session.no_instance_is_left_behind` says so for a pass after any events.
-/

namespace ProcessMigration

open ProcessMigration.Action (Triple ReadOnly)

namespace Workspace

/-- The invariant of a pass for the state of a run, which has given up nothing. -/
structure InOrder (o : Outset) (stage : Stage) (s : RunState (Interrupted Workspace)) : Prop where
  orderly : Orderly o stage s.world s.pending
  nothingGivenUp : s.givenUp = []

/-- All jobs of the migrator were handed out. -/
def AllHandedOut (o : Outset) (s : RunState (Interrupted Workspace)) : Prop :=
  ∀ j ∈ s.world.target.state.outstanding, j.jobType = o.settings.jobType →
    j.key ∈ s.world.target.state.handedOut

/-- Where a pass ends. -/
structure Done (o : Outset) (s : RunState (Interrupted Workspace)) : Prop where
  inOrder : InOrder o {} s
  allHandedOut : AllHandedOut o s
  nothingPending : s.pending.entries = []

/-- The migrator of a pass. -/
def migratorOf (o : Outset) : Migrator (Interrupted Workspace) :=
  interruptedMigrator o.settings o.pipeline

/-- Nothing waits for the instance of a key. -/
def NotPending (key : Int) (s : RunState (Interrupted Workspace)) : Prop :=
  ∀ p ∈ s.pending.entries, p.1 ≠ key

variable {o : Outset} {stage : Stage} {id : String} {key : Int} {prepared : Prepared} {job : Job}
  {rest : List Job} {seen : List Int}

theorem stable_inOrder (o : Outset) (stage : Stage) : Run.Stable jobEngine (InOrder o stage) := by
  have hgivenUp : Run.Stable jobEngine fun s : RunState (Interrupted Workspace) => s.givenUp = [] :=
    Run.stable_of_apart (fun _ _ h => h) fun _ _ _ h => h
  have hboth := (Orderly.stable o stage).and hgivenUp
  refine ?_
  intro s
  constructor
  · intro d request hd
    have hnext := (hboth s).startByOther d request ⟨hd.orderly, hd.nothingGivenUp⟩
    exact ⟨hnext.1, hnext.2⟩
  · intro d coming hd
    have hnext := (hboth s).coming d coming ⟨hd.orderly, hd.nothingGivenUp⟩
    exact ⟨hnext.1, hnext.2⟩

theorem stable_notPending (key : Int) : Run.Stable jobEngine (NotPending key) :=
  Run.stable_of_apart (fun _ _ h => h) fun _ _ _ h => h

theorem stable_due (o : Outset) (key : Int) (prepared : Prepared) :
    Run.Stable jobEngine fun s => o.Due s.world.world key prepared :=
  Run.stable_of_apart (fun _ _ h => h) fun _ _ _ h => h

theorem stable_mapsTo (id : String) (key : Int) :
    Run.Stable jobEngine fun s => s.world.world.MapsTo id key :=
  Run.stable_of_apart (fun _ _ h => h) fun _ _ _ h => h

/-- A preparation answers what is owed. -/
theorem prepare_inOrder {P : RunState (Interrupted Workspace) → Prop} (hP : Run.Stable jobEngine P)
    (hinOrder : ∀ s, P s → InOrder o stage s) (i : SourceInstance) :
    Triple P (Run.call ((migratorOf o).prepare i))
      (fun r s => P s ∧ (((migrator o.settings o.pipeline).prepare i).run o.world).1 = .ok r)
      (fun _ => True) :=
  (Run.prepare_echoes (fun s => Workspace.reads (hP s))
    (fun s hs => (hinOrder s hs).orderly.sameSource)
    (fun s hs => (hinOrder s hs).orderly.owned.sameDefinitions) i).orFails

/-! ## Starting an instance -/

theorem create_inOrder {i : SourceInstance} (hvalidation : o.settings.jobTypeValidation = true)
    (hkeys : (o.world.target.definitions.map (·.key)).Nodup)
    (hfits : prepared.Fits o.settings o.world.target.definitions i) :
    Triple (InOrder o {})
      (Run.engine ((migratorOf o).env.target.createInstance prepared.request))
      (fun handle => InOrder o { loose := some (i.id, handle.instanceKey) }) (fun _ => True) := by
  refine Run.target_call (M := InOrder o {}) .createInstance (.send (.create prepared.request))
    (TargetEngine.createInstance prepared.request) (stable_inOrder o {}) ?_
    (fun _ _ => trivial) ?_ fun _ _ _ => trivial
  · intro s hs
    exact ⟨hs.orderly.kept (.send _) (hs.orderly.owned.noted _) rfl rfl, hs.nothingGivenUp⟩
  · intro s hs
    refine (TargetEngine.createInstance_triple hs.orderly.owned.engine prepared.request).ends
      ?_ fun _ _ => trivial
    rintro handle t ⟨ht, e, hkey, hstarts⟩
    refine ⟨?_, hs.nothingGivenUp⟩
    rw [hkey]
    refine hs.orderly.started ht hstarts hfits.carriesId ?_
    obtain ⟨d, hfind, htypes, _⟩ := hstarts.definition
    rw [htypes]
    refine hfits.listens hvalidation hkeys ?_
    rw [← hs.orderly.owned.sameDefinitions]
    exact hfind

/-- The record of a started instance can be written in either way. -/
theorem write_inOrder (hprepares : o.Prepares id prepared)
    (x : StoreTables → StoreAction Unit)
    (hx : ∀ t db, t.IsKept db → Triple (fun db' => db' = db) (x t)
      (fun _ db' => t.IsKept db' ∧ t.Gains db db' id key)
      (fun db' => t.IsKept db' ∧ t.MapsAlike db db')) :
    Triple (InOrder o { loose := some (id, key) })
      (Run.store (Interrupted.storeCall environment (onStore x)))
      (fun _ s => InOrder o {} s ∧ s.world.world.MapsTo id key ∧
        ∃ element, o.Awaits s.world.target.state key element) (fun _ => True) := by
  refine Run.store_call x (stable_inOrder o _) (fun _ _ => trivial) ?_ fun _ _ _ => trivial
  intro s hs
  refine (hx _ _ hs.orderly.owned.records).ends ?_ fun _ _ => trivial
  rintro _ db ⟨hkept, hgains⟩
  exact ⟨⟨hs.orderly.gained hprepares hkept hgains, hs.nothingGivenUp⟩,
    (hgains id key).2 (.inr ⟨rfl, rfl⟩), (hs.orderly.loose id key rfl).awaits⟩

theorem start_inOrder {i : SourceInstance} (hvalidation : o.settings.jobTypeValidation = true)
    (hkeys : (o.world.target.definitions.map (·.key)).Nodup)
    (hfits : prepared.Fits o.settings o.world.target.definitions i)
    (hprepares : o.Prepares i.id prepared) {writeKey : Int → Action _ StoreError Unit}
    (hwrite : ∀ key, Triple (InOrder o { loose := some (i.id, key) }) (Run.store (writeKey key))
      (fun _ s => InOrder o {} s ∧ s.world.world.MapsTo i.id key ∧
        ∃ element, o.Awaits s.world.target.state key element) (fun _ => True)) :
    Triple (InOrder o {}) ((migratorOf o).start i prepared writeKey) (fun _ => InOrder o {})
      (fun _ => True) := by
  unfold Migrator.start
  refine Triple.bind (create_inOrder hvalidation hkeys hfits) ?_
  intro handle
  refine Triple.bind (hwrite handle.instanceKey) ?_
  intro _
  apply Triple.modify
  rintro s ⟨hs, hmaps, element, hawaits⟩
  exact ⟨hs.orderly.notes hmaps hprepares hawaits, hs.nothingGivenUp⟩

/-! ## Handing over -/

/-- An answer says what is owed to the instance of a job, for which nothing waits any more. -/
def IsOwed (o : Outset) (job : Job) (s : RunState (Interrupted Workspace)) :
    Option (List Activation) → Prop
  | none => ∀ p, ¬o.Due s.world.world job.instanceKey p
  | some activations => NotPending job.instanceKey s ∧
    ∃ prepared, o.Due s.world.world job.instanceKey prepared ∧ activations = prepared.activations

/-- What is owed to the instance of a job is owed for the id that the job carries. -/
theorem due_iff_of_handedOut {s : RunState (Interrupted Workspace)} (hs : InOrder o stage s)
    (hjob : job ∈ s.world.handedOut) (hid : job.legacyId? = some id) :
    o.Due s.world.world job.instanceKey prepared ↔
      s.world.world.MapsTo id job.instanceKey ∧ o.Prepares id prepared := by
  constructor
  · rintro ⟨id', hmaps, hprepares⟩
    have hsame := hs.orderly.owned.legacyId?_of_handedOut hjob hmaps
    rw [hid] at hsame
    cases hsame
    exact ⟨hmaps, hprepares⟩
  · rintro ⟨hmaps, hprepares⟩
    exact ⟨id, hmaps, hprepares⟩

/-- The second way into a modification: the migrator resolves again what is owed. -/
theorem resolveAgain_inOrder (hid : job.legacyId? = some id) :
    Triple (fun s => InOrder o { todo := job :: rest, seen } s ∧ NotPending job.instanceKey s)
      ((migratorOf o).resolveAgain id job.instanceKey)
      (fun found s => InOrder o { todo := job :: rest, seen } s ∧ IsOwed o job s found)
      (fun _ => True) := by
  have hinHand : ∀ s, InOrder o { todo := job :: rest, seen } s → job ∈ s.world.handedOut :=
    fun s hs => (hs.orderly.inHand job List.mem_cons_self).1
  have hstable := (stable_inOrder o { todo := job :: rest, seen }).and
    (stable_notPending job.instanceKey)
  unfold Migrator.resolveAgain
  refine Triple.bind (Triple.orFails (Run.store_reads hstable
    (onStore_readOnly fun tables => Store.targetKey?_readOnly id))) ?_
  intro mapped
  split
  · next hmapped =>
    -- what is owed to an instance is owed by its record, and no record names this one
    apply Triple.pure
    rintro s ⟨⟨hs, _⟩, hread⟩
    refine ⟨hs, ?_⟩
    intro p hdue
    apply hmapped
    have hmaps := ((due_iff_of_handedOut hs (hinHand s hs) hid).1 hdue).1
    have hanswer : Except.ok mapped = Except.ok (some job.instanceKey) := hread.symm.trans hmaps
    exact Except.ok.inj hanswer
  · next hmapped =>
    have hmapped : mapped = some job.instanceKey := not_not.1 hmapped
    subst hmapped
    have hstable' := hstable.and (stable_mapsTo id job.instanceKey)
    refine Triple.bind (Triple.conseq (Run.engine_reads hstable'
      (onSource_readOnly fun source => .ok (source.find? id))) (fun s hs => ⟨hs.1, hs.2⟩)
      (fun _ _ h => h) fun _ _ => trivial) ?_
    intro found
    apply Triple.of_state
    intro s₀ h₀
    obtain ⟨⟨⟨hs₀, hnot₀⟩, hmaps₀⟩, hread⟩ := h₀
    have hfound : o.world.source.find? id = found := by
      rw [← hs₀.orderly.sameSource]
      exact Except.ok.inj hread
    cases found with
    | none =>
      -- an instance that is gone from the source has nothing prepared
      apply Triple.pure
      intro s hs
      subst hs
      refine ⟨hs₀, ?_⟩
      intro p hdue
      obtain ⟨_, i, hi, _⟩ := (due_iff_of_handedOut hs₀ (hinHand _ hs₀) hid).1 hdue
      rw [hfound] at hi
      cases hi
    | some i =>
      refine Triple.bind ((prepare_inOrder hstable' (fun _ hs => hs.1.1) i).pre ?_) ?_
      · intro s hs
        subst hs
        exact ⟨⟨hs₀, hnot₀⟩, hmaps₀⟩
      intro p
      cases p with
      | ready prepared =>
        apply Triple.pure
        intro s hs
        obtain ⟨⟨⟨hs, hnot⟩, hmaps⟩, hrun⟩ := hs
        exact ⟨hs, hnot, prepared, ⟨id, hmaps, i, hfound, hrun⟩, rfl⟩
      | skip reason =>
        -- preparing it has one answer, whenever it is asked for
        apply Triple.pure
        intro s hs
        obtain ⟨⟨⟨hs, hnot⟩, hmaps⟩, hrun⟩ := hs
        refine ⟨hs, ?_⟩
        intro p hdue
        obtain ⟨_, i', hi', hrun'⟩ := (due_iff_of_handedOut hs (hinHand s hs) hid).1 hdue
        rw [hfound] at hi'
        cases hi'
        cases hrun.symm.trans hrun'

/-- Both ways into a modification end at what is owed to the instance of the job. -/
theorem activationsFor_inOrder (hid : job.legacyId? = some id) :
    Triple (InOrder o { todo := job :: rest, seen })
      ((migratorOf o).activationsFor id job.instanceKey)
      (fun found s => InOrder o { todo := job :: rest, seen } s ∧ IsOwed o job s found)
      (fun _ => True) := by
  unfold Migrator.activationsFor
  refine Triple.bind (M := fun s₀ s => s₀ = s ∧ InOrder o { todo := job :: rest, seen } s)
    (Triple.get fun s hs => ⟨rfl, hs⟩) ?_
  intro s₀
  split
  · next waits hwaits =>
    refine Triple.bind (M := fun _ s => InOrder o { todo := job :: rest, seen } s ∧
      IsOwed o job s (some waits.activations)) (Triple.modify ?_) fun _ =>
        Triple.pure fun s hs => hs
    rintro s ⟨rfl, hs⟩
    have hentry : (job.instanceKey, waits) ∈ s₀.pending.entries := Pending.mem_of_get? hwaits
    obtain ⟨⟨prepared, hprepares, hactivations⟩, _⟩ := hs.orderly.pending _ hentry
    refine ⟨⟨hs.orderly.forgets fun p hp => (List.mem_filter.1 hp).1, hs.nothingGivenUp⟩,
      fun p hp => by simpa using (List.mem_filter.1 hp).2, prepared, ?_, hactivations⟩
    exact ⟨waits.legacyId, hs.orderly.owned.pending _ hentry, hprepares⟩
  · next hnone =>
    refine (resolveAgain_inOrder hid).pre ?_
    rintro s ⟨rfl, hs⟩
    exact ⟨hs, Pending.ne_of_get? hnone⟩

/-- The instance of a job is moved as is owed to it. -/
theorem modify_inOrder (prepared : Prepared) :
    Triple (fun s => InOrder o { todo := job :: rest, seen } s ∧ NotPending job.instanceKey s ∧
        o.Due s.world.world job.instanceKey prepared)
      (Run.engine ((migratorOf o).env.target.modifyInstance job.instanceKey job.elementInstanceKey
        prepared.activations))
      (fun _ => InOrder o { todo := rest, seen }) (fun _ => True) := by
  refine Run.target_call (M := fun s => (InOrder o { todo := job :: rest, seen } s ∧
      NotPending job.instanceKey s ∧ o.Due s.world.world job.instanceKey prepared) ∧
      ∃ c ∈ s.world.sent.drop o.sent,
        c.command = .modify job.instanceKey job.elementInstanceKey prepared.activations)
    .modifyInstance
    (.send (.modify job.instanceKey job.elementInstanceKey prepared.activations))
    (TargetEngine.modifyInstance job.instanceKey job.elementInstanceKey prepared.activations)
    ((stable_inOrder o _).and ((stable_notPending _).and (stable_due o _ prepared)))
    ?_ (fun _ _ => trivial) ?_ fun _ _ _ => trivial
  · intro s hs
    obtain ⟨hs, hnot, hdue⟩ := hs
    obtain ⟨id, hmaps, hprepares⟩ := hdue
    have howned := hs.orderly.owned
    have hhanded := (hs.orderly.inHand job List.mem_cons_self).1
    have hsent := howned.sentFor hhanded (howned.legacyId?_of_handedOut hhanded hmaps) hmaps
      prepared.activations
    refine ⟨⟨⟨hs.orderly.kept (.send _) hsent rfl rfl, hs.nothingGivenUp⟩, hnot,
      ⟨id, hmaps, hprepares⟩⟩, ⟨_, s.world.world⟩, ?_, rfl⟩
    show _ ∈ (s.world.sent ++ [_]).drop o.sent
    rw [List.drop_append_of_le_length hs.orderly.sentBefore]
    exact List.mem_append_right _ List.mem_cons_self
  · intro s hs
    obtain ⟨⟨hs, hnot, hdue⟩, hsent⟩ := hs
    refine (TargetEngine.modifyInstance_triple hs.orderly.owned.engine
      (job.modification prepared.activations)).ends ?_ fun _ _ => trivial
    rintro _ t ⟨ht, hstate, hdefinitions⟩
    exact ⟨hs.orderly.modified hdue hsent hstate hnot ht hdefinitions, hs.nothingGivenUp⟩

/-- A job is dealt with. -/
theorem handOver_inOrder :
    Triple (InOrder o { todo := job :: rest, seen }) ((migratorOf o).handOver job)
      (fun _ => InOrder o { todo := rest, seen }) (fun _ => True) := by
  unfold Migrator.handOver
  split
  · next hid =>
    apply Triple.modify
    intro s hs
    refine ⟨hs.orderly.passedOver ?_, hs.nothingGivenUp⟩
    -- an instance that something is owed to is mapped, and so its jobs carry an id
    rintro p ⟨id, hmaps, _⟩
    have hcarries := hs.orderly.owned.legacyId?_of_handedOut
      (hs.orderly.inHand job List.mem_cons_self).1 hmaps
    rw [hid] at hcarries
    cases hcarries
  · next id hid =>
    refine Triple.bind (activationsFor_inOrder hid) ?_
    intro found
    cases found with
    | none =>
      exact Triple.modify fun s hs => ⟨hs.1.orderly.passedOver hs.2, hs.1.nothingGivenUp⟩
    | some activations =>
      apply Triple.of_state
      intro s₀ hs₀
      obtain ⟨hs₀, hnot, prepared, hdue, rfl⟩ := hs₀
      refine Triple.bind ((modify_inOrder prepared).pre ?_) fun _ =>
        Triple.modify fun s hs => ⟨hs.orderly, hs.nothingGivenUp⟩
      intro s hs
      subst hs
      exact ⟨hs₀, hnot, hdue⟩

/-- A round brings jobs that have not come up before, or there are none. -/
theorem fetch_inOrder (hmax : 1 ≤ o.settings.maxJobs) (seen : List Int) :
    Triple (InOrder o { seen })
      (Run.engine ((migratorOf o).env.target.activateJobs o.settings.jobType o.settings.maxJobs))
      (fun jobs s => let (fresh, seen') := freshJobs jobs seen
        if fresh = [] then InOrder o {} s ∧ AllHandedOut o s
        else InOrder o { todo := fresh, seen := seen' } s) (fun _ => True) := by
  refine Run.fetch_call o.settings.jobType o.settings.maxJobs (stable_inOrder o { seen })
    (fun s hs => hs.orderly.owned.engine) (fun _ _ => trivial) ?_ fun _ _ _ => trivial
  intro s t jobs hs ht hjobs hstate hdefinitions
  have hkeys := TargetEngine.keys_available hs.orderly.owned.engine.state o.settings.jobType
    o.settings.maxJobs
  rw [← hjobs] at hkeys
  have hfresh := freshJobs_eq_self hkeys seen fun j hj hseen =>
    (TargetEngine.mem_available (hjobs ▸ hj)).2.2 (hs.orderly.seen j.key hseen)
  have harrived : ∀ seen', (∀ key ∈ seen', key ∈ seen ∨ key ∈ jobs.map (·.key)) →
      InOrder o { todo := jobs, seen := seen' }
        { s with world := (s.world.withTarget t).arrived jobs } := by
    intro seen' hseen'
    exact ⟨hs.orderly.arrived ht (fun j hj => (TargetEngine.mem_available (hjobs ▸ hj)).1) hstate
      hdefinitions hseen', hs.nothingGivenUp⟩
  show if (freshJobs jobs seen).1 = [] then _ else _
  rw [hfresh]
  split
  · next hnone =>
    refine ⟨hnone ▸ harrived [] (fun _ h => by cases h), ?_⟩
    intro j hj htype
    have hj' : j ∈ t.state.outstanding := hj
    show j.key ∈ t.state.handedOut
    rw [hstate] at hj' ⊢
    exact List.mem_append_left _
      (TargetEngine.handedOut_of_available_nil hmax (hjobs.symm.trans hnone) hj' htype)
  · exact harrived _ fun key hkey => mem_freshJobs_seen hkey

/-- A drain that comes to its end leaves nothing owed and gives up nothing. -/
theorem drain_inOrder (hmax : 1 ≤ o.settings.maxJobs) :
    Triple (InOrder o {}) (migratorOf o).drain (fun _ => Done o) (fun _ => True) := by
  unfold Migrator.drain
  refine Triple.bind (M := fun _ => InOrder o {}) (Triple.get fun s hs => hs) ?_
  intro s₀
  refine Triple.bind (M := fun _ s => InOrder o {} s ∧ AllHandedOut o s) ?_ ?_
  · exact Migrator.drainRounds_triple (migratorOf o) (L := fun seen => InOrder o { seen })
      (B := fun todo seen => InOrder o { todo, seen }) (fetch_inOrder hmax)
      (fun _ _ _ => handOver_inOrder) (fun _ _ h => h) (fun _ _ _ => trivial) _ _
  · intro _
    apply Triple.modify
    intro s hs
    obtain ⟨hs, hall⟩ := hs
    have hnothing := hs.orderly.nothingPending hall
    refine ⟨⟨hs.orderly.forgets (fun _ h => by cases h), ?_⟩, hall, rfl⟩
    show s.givenUp ++ s.pending.entries.map (·.2.legacyId) = []
    rw [hs.nothingGivenUp, hnothing]
    rfl

/-! ## Passes -/

theorem store_keeps_inOrder {α : Type} (x : StoreTables → StoreAction α)
    (hx : ∀ t, ReadOnly (x t)) :
    Triple (InOrder o {}) (Run.store (Interrupted.storeCall environment (onStore x)))
      (fun _ => InOrder o {}) (fun _ => True) :=
  (Run.store_keeps (stable_inOrder o {}) x hx).orFails

theorem source_reads_inOrder {α : Type} (op : EngineOperation) (f : SnapshotSource → α) :
    Triple (InOrder o {})
      (Run.engine (Interrupted.query environment op (onSource fun s => .ok (f s))))
      (fun a s => InOrder o {} s ∧ a = f o.world.source) (fun _ => True) := by
  refine Triple.conseq (Run.engine_reads (stable_inOrder o {})
    (onSource_readOnly fun s => .ok (f s))) (fun _ h => h) ?_ fun _ _ => trivial
  intro a s ⟨hs, hread⟩
  rw [← hs.orderly.sameSource]
  exact ⟨hs, (Except.ok.inj hread).symm⟩

theorem skip_inOrder (i : SourceInstance) (reason : String) :
    Triple (InOrder o {})
      (Run.store ((migratorOf o).env.store.insert (.skipped i.id i.startTime reason)))
      (fun _ => InOrder o {}) (fun _ => True) := by
  refine Run.store_call (fun tables => Store.insert tables (.skipped i.id i.startTime reason))
    (stable_inOrder o {}) (fun _ _ => trivial) ?_ fun _ _ _ => trivial
  intro s hs
  refine (Store.insertSkipped_triple hs.orderly.owned.records _ _ _).ends ?_ fun _ _ => trivial
  intro _ db hdb
  obtain ⟨hkept, halike⟩ := hdb
  exact ⟨hs.orderly.kept (.stored halike) (hs.orderly.owned.mapsAlike hkept halike) rfl rfl,
    hs.nothingGivenUp⟩

theorem keeps_inOrder (hmax : 1 ≤ o.settings.maxJobs) :
    (migratorOf o).Keeps (InOrder o {}) (Done o) (fun _ => True) where
  report _ _ hs := ⟨hs.orderly, hs.nothingGivenUp⟩
  output _ _ hs := ⟨hs.orderly, hs.nothingGivenUp⟩
  reset _ _ hs := ⟨hs.orderly, rfl⟩
  countSkipped := store_keeps_inOrder (fun t => Store.countSkipped t .processInstance) fun _ =>
    Store.countSkipped_readOnly _
  skipped request :=
    store_keeps_inOrder (fun t => Store.skipped t .processInstance request.offset request.limit)
      fun _ => Store.skipped_readOnly _ _ _
  drain := drain_inOrder hmax
  ended _ hs := hs.inOrder
  failed _ _ := trivial

/-- What is prepared for an instance of the snapshot is owed to it once it is started. -/
theorem prepares_inOrder {i : SourceInstance} (hi : o.world.source.find? i.id = some i) :
    Triple (InOrder o {}) (Run.call ((migratorOf o).prepare i))
      (fun p s => InOrder o {} s ∧ ∀ prepared, p = .ready prepared →
        prepared.Fits o.settings o.world.target.definitions i ∧ o.Prepares i.id prepared)
      (fun _ => True) := by
  have hfits : Triple (InOrder o {}) (Run.call ((migratorOf o).prepare i))
      (fun r s => InOrder o {} s ∧ ∀ prepared, r = .ready prepared →
        prepared.Fits o.settings o.world.target.definitions i) (fun _ => True) :=
    (Run.prepare_triple (stable_inOrder o {}) (fun _ hs => hs.orderly.owned.sameDefinitions) i).orFails
  refine (hfits.and (prepare_inOrder (stable_inOrder o {}) (fun _ hs => hs) i)).conseq
    (fun _ hs => ⟨hs, hs⟩) ?_ fun _ _ => trivial
  rintro p s ⟨⟨hs, hfits⟩, _, hrun⟩
  refine ⟨hs, ?_⟩
  intro prepared hready
  refine ⟨hfits prepared hready, i, hi, ?_⟩
  rw [hrun, hready]

section

variable (hvalidation : o.settings.jobTypeValidation = true) (hmax : 1 ≤ o.settings.maxJobs)
  (hkeys : (o.world.target.definitions.map (·.key)).Nodup)
include hvalidation hmax hkeys

theorem retry_done : Triple (InOrder o {}) ((migratorOf o).run .retrySkipped) (fun _ => Done o)
    (fun _ => True) := by
  refine Migrator.KeepsRetrying.run (F := fun i => o.world.source.find? i.id = some i)
    (A := fun i prepared => prepared.Fits o.settings o.world.target.definitions i ∧
      o.Prepares i.id prepared)
    { keeps_inOrder hmax with
      find := fun id => (source_reads_inOrder .findInstance (·.find? id)).post ?_
      prepare := fun i hi => prepares_inOrder hi
      startAgain := fun i prepared _ hready =>
        start_inOrder hvalidation hkeys hready.1 hready.2 fun key =>
          write_inOrder hready.2 (fun t => Store.update t i.id key) fun _ _ hkept =>
            Store.updateKey_triple hkept _ _ }
  rintro found s ⟨hs, rfl⟩
  refine ⟨hs, ?_⟩
  intro i hi
  rw [(SnapshotSource.mem_of_find? hi).2]
  exact hi

theorem migrate_done (hids : (o.world.source.listing.map (·.id)).Nodup) :
    Triple (InOrder o {}) ((migratorOf o).run .migrate) (fun _ => Done o) (fun _ => True) := by
  refine Migrator.KeepsMigrating.run (F := fun i => o.world.source.find? i.id = some i)
    (N := fun _ => True)
    (A := fun i prepared => prepared.Fits o.settings o.world.target.definitions i ∧
      o.Prepares i.id prepared)
    { keeps_inOrder hmax with
      latest := ?_
      count := (source_reads_inOrder .countInstances (·.count)).post fun _ _ h => h.1
      list := fun after limit =>
        (source_reads_inOrder .listInstances (·.listAfter after limit)).post ?_
      «exists» := fun i _ => ?_
      prepare := fun i hi => prepares_inOrder hi
      startNew := fun i prepared _ _ hready =>
        start_inOrder hvalidation hkeys hready.1 hready.2 fun key =>
          write_inOrder hready.2 (fun t => Store.insert t (.migrated i.id key i.startTime))
            fun _ _ hkept => Store.insertKey_triple hkept _ _ _
      skip := fun i reason _ _ => skip_inOrder i reason }
  · exact store_keeps_inOrder (fun t => Store.latest? t .processInstance) fun _ =>
      Store.latest?_readOnly _
  · rintro page s ⟨hs, rfl⟩
    refine ⟨hs, ?_⟩
    intro i hi
    refine SnapshotSource.find?_of_mem hids ?_
    exact (List.mem_filter.1 (List.mem_of_mem_take hi)).1
  · exact (store_keeps_inOrder (fun t => Store.exists t i.id) fun _ =>
      Store.exists_readOnly i.id).post fun _ _ h => ⟨h, fun _ => trivial⟩

/-- A pass that comes to its end is done. -/
theorem run_done (hids : (o.world.source.listing.map (·.id)).Nodup) {mode : Mode}
    (hmode : mode ≠ .listSkipped) :
    Triple (InOrder o {}) ((migratorOf o).run mode) (fun _ => Done o) (fun _ => True) := by
  cases mode with
  | migrate => exact migrate_done hvalidation hmax hkeys hids
  | retrySkipped => exact retry_done hvalidation hmax hkeys
  | listSkipped => exact absurd rfl hmode

end

/-- At the end of a pass whatever is cared for is served. -/
theorem Done.served {s : RunState (Interrupted Workspace)} {element : Int} (h : Done o s)
    (hcared : o.Cared s.world key element) :
    ∃ prepared, o.Due s.world.world key prepared ∧ o.Served s.world key element prepared := by
  rcases hcared with ⟨prepared, hdue, ⟨j, hj, htype, hkey, _⟩ | hserved⟩
  · -- it cannot wait still: all jobs were handed out, and each was dealt with in its turn
    have hhanded := h.allHandedOut j hj htype
    have hdealt := h.inOrder.orderly.dealtWith j hj htype hhanded List.not_mem_nil prepared
    exact absurd (hkey ▸ hdue) hdealt
  · exact ⟨prepared, hdue, hserved⟩

end Workspace

/-! ## Sessions -/

namespace Session

open Workspace

/-- What a pass sets out from in a session. -/
def outset (s : Session) (p : Pass) : Outset := ⟨p.settings, p.pipeline, s.world, s.state.sent.length⟩

/-- On an engine that was opened again a new migrator finds everything in order. -/
theorem inOrder_reopened {s : Session} {definitions : List Definition} {p : Pass}
    (h : Owned definitions s.state s.pending) (hdefinitions : s.world.target.definitions = definitions)
    (hhanded : s.world.target.state.handedOut = []) (hpending : s.pending = .empty) :
    InOrder (s.outset p) {} (s.runState p) := by
  subst hdefinitions
  refine ⟨?_, rfl⟩
  constructor
  case outset => exact h.engine
  case owned => exact { h with }
  case sameSource => rfl
  case sentBefore => exact Nat.le_refl _
  case mapsOld => exact fun _ _ h => h
  case mapsNew => exact fun _ _ h _ => h
  case stay => exact fun _ h => h
  case untouched => exact fun _ hi _ => hi
  case waiting => exact fun _ hj _ => hj
  case dealtWith =>
    intro j _ _ hkey
    have hkey' : j.key ∈ s.world.target.state.handedOut := hkey
    rw [hhanded] at hkey'
    cases hkey'
  case inHand => exact fun _ h => by cases h
  case seen => exact fun _ h => by cases h
  case loose => exact fun _ _ h => by cases h
  case created => exact fun i hi hunknown => absurd ⟨i, hi, rfl⟩ hunknown
  case left =>
    rintro j hj htype ⟨prepared, hdue⟩
    exact ⟨prepared, hdue, .inl ⟨j, hj, htype, rfl, rfl⟩⟩
  case pending =>
    intro e he
    have he' : e ∈ s.pending.entries := he
    rw [hpending] at he'
    cases he'

/-- A pass over an engine that was opened again, with a new migrator, is done if it comes to its end,
whatever happened before. -/
theorem done_of_ok {w : Workspace} {initial definitions : List Definition} {events : List Event}
    {p : Pass} {report : Report} {target : TargetEngine}
    (hjournal : w.target = ⟨initial, .absent, .start initial⟩)
    (hempty : w.tables.Holds [] w.database)
    (hopen : TargetEngine.open definitions journalName
      ((start w).after events).world.target.journal = .ok target)
    (hids : (((start w).after events).world.source.instances.map (·.inst.id)).Nodup)
    (hkeys : (definitions.map (·.key)).Nodup)
    (hvalidation : p.settings.jobTypeValidation = true) (hmax : 1 ≤ p.settings.maxJobs)
    (hmode : p.mode ≠ .listSkipped)
    (hok : ((((start w).after events).after [.reopen definitions, .rebuild]).perform p).1 =
      .ok report) :
    Done ((((start w).after events).after [.reopen definitions, .rebuild]).outset p)
      ((((start w).after events).after [.reopen definitions, .rebuild]).perform p).2 := by
  obtain ⟨_, hbefore⟩ := after_owned ⟨initial, start_owned hjournal hempty⟩ events
  obtain ⟨_, _, hdefinitions, hhanded⟩ := TargetEngine.open_sound hbefore.engine hopen
  -- the journal opens, so the engine is the opened one; the new migrator waits for nothing
  have hs : ((start w).after events).after [.reopen definitions, .rebuild] =
      { ((start w).after events).mapWorld fun w => { w with target } with pending := .empty } := by
    show (((start w).after events).step (.reopen definitions)).step .rebuild = _
    simp only [step, hopen]
  have hnothing : ∀ p ∈ Pending.empty.entries, p ∈ ((start w).after events).pending.entries := by
    intro p hp
    cases hp
  have howned := (hbefore.reopened hopen).forgets hnothing
  rw [hs] at hok ⊢
  refine (run_done hvalidation hmax ?_ ?_ hmode).ok
    (inOrder_reopened howned hdefinitions hhanded rfl) hok
  · show (target.definitions.map (·.key)).Nodup
    rw [hdefinitions]
    exact hkeys
  · show (List.map (·.id) (SnapshotSource.listing _)).Nodup
    unfold SnapshotSource.listing
    rw [List.map_map]
    exact hids

/-- No started instance is left behind. Whatever happened before: after a pass over an engine that was
opened again, if it comes to its end, each instance that it has started has been moved off its start
event, with what is prepared for it, and so has each instance with a job of the migrator that was left
behind, if its record and its source instance are there and it can still be carried over. No job of
such an instance waits any more. All other jobs of the migrator that were waiting still do, and
their instances are as they were. Nothing waits to be handed over, and nothing was given up. -/
theorem no_instance_is_left_behind (w : Workspace) (initial definitions : List Definition)
    (events : List Event) (p : Pass) (report : Report) (target : TargetEngine)
    (hjournal : w.target = ⟨initial, .absent, .start initial⟩)
    (hempty : w.tables.Holds [] w.database)
    (hopen : TargetEngine.open definitions journalName
      ((start w).after events).world.target.journal = .ok target)
    (hids : (((start w).after events).world.source.instances.map (·.inst.id)).Nodup)
    (hkeys : (definitions.map (·.key)).Nodup)
    (hvalidation : p.settings.jobTypeValidation = true) (hmax : 1 ≤ p.settings.maxJobs)
    (hmode : p.mode ≠ .listSkipped) :
    let s := ((start w).after events).after [.reopen definitions, .rebuild]
    let r := (s.perform p).2
    let before := s.world.target.state
    let after := r.world.target.state
    let Prepares := s.world.Prepares p.settings p.pipeline
    let Served := (s.outset p).Served r.world
    (s.perform p).1 = .ok report →
    (∀ i ∈ after.instances, (∀ i' ∈ before.instances, i'.instanceKey ≠ i.instanceKey) →
      i.instanceKey ∉ r.world.startedByOthers → ∃ id prepared element,
        r.world.world.MapsTo id i.instanceKey ∧ Prepares id prepared ∧
          Served i.instanceKey element prepared) ∧
    (∀ j ∈ before.outstanding, j.jobType = p.settings.jobType → ∀ id prepared,
      s.world.MapsTo id j.instanceKey → Prepares id prepared →
        Served j.instanceKey j.elementInstanceKey prepared) ∧
    (∀ j ∈ before.outstanding, j.jobType = p.settings.jobType →
      (∀ id prepared, s.world.MapsTo id j.instanceKey → ¬Prepares id prepared) →
        j ∈ after.outstanding ∧
          ∀ i ∈ before.instances, i.instanceKey = j.instanceKey → i ∈ after.instances) ∧
    r.pending.entries = [] ∧ r.givenUp = [] := by
  intro s r before after Prepares Served hok
  have hdone : Done (s.outset p) r :=
    done_of_ok hjournal hempty hopen hids hkeys hvalidation hmax hmode hok
  have horderly := hdone.inOrder.orderly
  refine ⟨?_, ?_, ?_, hdone.nothingPending, hdone.inOrder.nothingGivenUp⟩
  · -- an instance that was not there before was started by this pass, since no one else did
    intro i hi hunknown hothers
    have hnew : ¬(s.outset p).Knows i.instanceKey := by
      rintro ⟨i', hi', hkey⟩
      exact hunknown i' hi' hkey
    obtain ⟨element, hcared⟩ := horderly.created i hi hnew hothers (fun _ h => by cases h)
    obtain ⟨prepared, ⟨id, hmaps, hprepares⟩, hserved⟩ := hdone.served hcared
    exact ⟨id, prepared, element, hmaps, hprepares, hserved⟩
  · intro j hj htype id prepared hmaps hprepares
    have hcared := horderly.left j hj htype ⟨prepared, id, hmaps, hprepares⟩
    obtain ⟨prepared', hdue, hserved⟩ := hdone.served hcared
    -- the pass may have resolved the instance again: that gives what was prepared at the beginning
    have hdue' : (s.outset p).Due r.world.world j.instanceKey prepared :=
      ⟨id, horderly.mapsOld id _ hmaps, hprepares⟩
    rw [Outset.Due.unique horderly.owned hdue' hdue]
    exact hserved
  · -- a job whose instance is owed nothing is not touched by the hand-over
    intro j hj _ hnot
    have hnotDue : ∀ p', ¬(s.outset p).Due s.world j.instanceKey p' := by
      rintro p' ⟨id, hmaps, hprepares⟩
      exact hnot id p' hmaps hprepares
    refine ⟨horderly.waiting j hj hnotDue, ?_⟩
    intro i hi hkey
    exact horderly.untouched i hi (hkey ▸ hnotDue)

/-- A pass over one order, before whose first call others start an impostor. -/
def besideImpostor : Pass where
  mode := .migrate
  settings := {}
  pipeline := .empty
  incidents := [{ others := [impostor] }]

/-- The order is started and served, whatever the impostor claims. -/
theorem order_is_not_left_behind :
    let s := ((start oneOrder).after []).after [.reopen [orderProcess], .rebuild]
    let r := (s.perform besideImpostor).2
    let before := s.world.target.state
    let after := r.world.target.state
    (after.instances.any fun i => !r.world.startedByOthers.contains i.instanceKey) = true ∧
      ∀ i ∈ after.instances, (∀ i' ∈ before.instances, i'.instanceKey ≠ i.instanceKey) →
        i.instanceKey ∉ r.world.startedByOthers → ∃ id prepared element,
          r.world.world.MapsTo id i.instanceKey ∧
            s.world.Prepares besideImpostor.settings besideImpostor.pipeline id prepared ∧
            (s.outset besideImpostor).Served r.world i.instanceKey element prepared :=
  ⟨by decide +kernel,
    (no_instance_is_left_behind oneOrder [orderProcess] [orderProcess] [] besideImpostor
      { mode := .migrate, fetched := 1, migrated := 1, jobsActivated := 1, unresolvedJobs := 1 }
      ⟨[orderProcess], .absent, .start [orderProcess]⟩ rfl oneOrder_empty rfl (by decide)
      (by decide) rfl (by decide) (by decide) (by decide +kernel)).1⟩

end Session
end ProcessMigration
