import ProcessMigration.Proofs.StartedInstances
import ProcessMigration.Proofs.Walks

/-!
# Following an instance

A run starts many instances and moves them in an order of its own. This module follows one of them:
the journal says how it was started and where it was moved first, and whatever the run does to the
others leaves that alone.

* `TargetEngine.Follows` is what the target engine says of the instance; the lemmas on
  `createInstance`, `modifyInstance` and `activateJobs` are its steps;
* `Course` is an instance with what is prepared for it, `Workspace.Underway` says that it has been
  moved there, or that it will be once a job of it comes up;
* `Workspace.migrateInstance_underway` and `Workspace.drain_settles`: to deal with other instances
  keeps this, and a drain moves the instance, if a job of it can come up at all.
-/

namespace ProcessMigration

open ProcessMigration.Action (Triple ReadOnly)

/-! ## Entries about one instance -/

namespace JournalEntry

/-- The entry that starts the instance of a key. -/
def startOf? (key : Int) (es : List JournalEntry) : Option StartedInstance :=
  (startedIn es).find? fun e => e.instanceKey == key

/-- What an entry activates in the instance of a key. -/
def activates? (key : Int) : JournalEntry → Option (List Activation)
  | .create _ => none
  | .modify m => if m.instanceKey = key then some m.activations else none

/-- The activations that the instance of a key has received first. -/
def firstMove? (key : Int) (es : List JournalEntry) : Option (List Activation) :=
  es.findSome? (activates? key)

variable {key : Int} {es : List JournalEntry}

theorem startOf?_create (e : StartedInstance) :
    startOf? key (es ++ [.create e]) =
      (startOf? key es).or (if e.instanceKey = key then some e else none) := by
  unfold startOf?
  rw [startedIn_create, List.find?_append, List.find?_singleton]
  simp only [beq_iff_eq]

theorem startOf?_modify (m : ModifiedInstance) :
    startOf? key (es ++ [.modify m]) = startOf? key es := by
  unfold startOf?
  rw [startedIn_modify]

theorem firstMove?_append_singleton (e : JournalEntry) :
    firstMove? key (es ++ [e]) = (firstMove? key es).or (activates? key e) := by
  unfold firstMove?
  rw [List.findSome?_append]
  cases h : activates? key e <;> simp [h]

end JournalEntry

/-! ## The target engine -/

namespace TargetEngine

open JournalEntry (startOf? firstMove? activates?)

variable {definitions : List Definition} {es : List JournalEntry} {t₀ : TargetEngine}

/-- The engine has these definitions and these entries, and what was moved is there. -/
structure Tells (definitions : List Definition) (es : List JournalEntry) (t : TargetEngine) :
    Prop where
  definitions : t.definitions = definitions
  wrote : t.Wrote es
  moved : ∀ key, firstMove? key es ≠ none → ∃ i ∈ t.state.instances, i.instanceKey = key

theorem tells_start (definitions : List Definition) :
    (TargetEngine.mk definitions .absent (.start definitions)).Tells definitions [] where
  definitions := rfl
  wrote := wrote_start definitions
  moved _ h := absurd rfl h

theorem createInstance_tells (h : t₀.Tells definitions es) (request : CreateRequest) :
    Triple (fun t => t = t₀) (createInstance request)
      (fun handle t => ∃ d e,
        definitions.find? (fun d => d.key == request.definitionKey) = some d ∧
        Records request d e ∧ t.Tells definitions (es ++ [.create e]) ∧
        handle.instanceKey = e.instanceKey ∧ Starts request e t₀ t)
      fun _ => True := by
  refine (createInstance_records h.wrote request).orFails.post ?_
  rintro handle t ⟨d, e, hfind, hrecords, hwrote, hkey, hstarts⟩
  refine ⟨d, e, h.definitions ▸ hfind, hrecords, ⟨?_, hwrote, ?_⟩, hkey, hstarts⟩
  · exact hstarts.definitions.trans h.definitions
  · intro key hmoved
    rw [JournalEntry.firstMove?_append_singleton] at hmoved
    obtain ⟨i, hi, hikey⟩ := h.moved key fun hnone => hmoved (by rw [hnone]; rfl)
    rw [hstarts.instances h.wrote.sound]
    exact ⟨i, List.mem_append_left _ hi, hikey⟩

/-- An instance is there before its tokens are moved. -/
theorem modifyInstance_there (key terminated : Int) (activations : List Activation) :
    Triple (fun t => t = t₀) (modifyInstance key terminated activations)
      (fun _ _ => ∃ i ∈ t₀.state.instances, i.instanceKey = key) fun _ => True := by
  unfold modifyInstance
  refine Triple.get_bind ?_
  split
  · next hthere =>
    obtain ⟨i, hi, hkey⟩ := List.find?_isSome.1 hthere
    exact Triple.any (fun _ _ => ⟨i, hi, beq_iff_eq.1 hkey⟩) fun _ => trivial
  · exact Triple.fail fun _ _ => trivial

theorem mem_instances_modify {s : TargetState} {m : ModifiedInstance} {key : Int}
    (h : ∃ i ∈ s.instances, i.instanceKey = key) :
    ∃ i ∈ (s.modify m).instances, i.instanceKey = key := by
  obtain ⟨i, hi, hkey⟩ := h
  refine ⟨_, List.mem_map_of_mem hi, ?_⟩
  split <;> exact hkey

theorem modifyInstance_tells (h : t₀.Tells definitions es) (m : ModifiedInstance) :
    Triple (fun t => t = t₀) (modifyInstance m.instanceKey m.terminatedKey m.activations)
      (fun _ t => t.Tells definitions (es ++ [.modify m]) ∧ t.state = t₀.state.modify m)
      fun _ => True := by
  refine (((modifyInstance_wrote h.wrote m).and (modifyInstance_there _ _ _)).pre
    fun _ ht => ⟨ht, ht⟩).orFails.post ?_
  rintro _ t ⟨⟨hwrote, hstate, hdefinitions⟩, hthere⟩
  refine ⟨⟨hdefinitions.trans h.definitions, hwrote, ?_⟩, hstate⟩
  intro key hmoved
  rw [hstate]
  apply mem_instances_modify
  by_cases hold : firstMove? key es = none
  · rw [JournalEntry.firstMove?_append_singleton, hold, Option.none_or] at hmoved
    by_cases hkey : m.instanceKey = key
    · exact hkey ▸ hthere
    · exact absurd (if_neg hkey) hmoved
  · exact h.moved key hold

theorem activateJobs_tells (h : t₀.Tells definitions es) (jobType : String) (limit : Nat) :
    Triple (fun t => t = t₀) (activateJobs jobType limit)
      (fun jobs t => t.Tells definitions es ∧ jobs = available t₀.state jobType limit ∧
        t.state = t₀.state.handOut jobs)
      fun _ => True := by
  refine (activateJobs_wrote h.wrote jobType limit).ends ?_ fun _ ht => ht.elim
  rintro jobs t ⟨hwrote, hjobs, hstate, hdefinitions⟩
  refine ⟨⟨hdefinitions.trans h.definitions, hwrote, ?_⟩, hjobs, hstate⟩
  intro key hmoved
  rw [hstate]
  exact h.moved key hmoved

/-- The instance that an entry has started is there, it has received these activations first, and
the jobs of its key are its own. -/
structure Follows (definitions : List Definition) (e : StartedInstance)
    (moved : Option (List Activation)) (t : TargetEngine) : Prop where
  told : ∃ es, t.Tells definitions es ∧ startOf? e.instanceKey es = some e ∧
    firstMove? e.instanceKey es = moved
  there : ∃ i ∈ t.state.instances, i.instanceKey = e.instanceKey
  jobs : ∀ j ∈ t.state.outstanding, j.instanceKey = e.instanceKey → j ∈ TargetState.jobsOf e

variable {e : StartedInstance} {moved : Option (List Activation)}

/-- From its start on an instance can be followed. -/
theorem Starts.follows {request : CreateRequest} {t : TargetEngine}
    (h : t₀.Tells definitions es) (ht : t.Tells definitions (es ++ [.create e]))
    (hstarts : Starts request e t₀ t) : t.Follows definitions e none where
  told := by
    obtain ⟨a, hdraws, _⟩ := hstarts.state
    have hfresh := hdraws.fresh h.wrote.state.keys _ (TargetState.instanceKey_mem_keysOf e)
    have hstart : startOf? e.instanceKey es = none := by
      refine List.find?_eq_none.2 ?_
      intro e' he' hkey
      apply hfresh.1
      have hpassed := h.wrote.recorded.passed _ (JournalEntry.instanceKey_mem_keys he')
      rwa [beq_iff_eq.1 hkey] at hpassed
    have hmove : firstMove? e.instanceKey es = none := by
      by_contra hmoved
      obtain ⟨i, hi, hkey⟩ := h.moved _ hmoved
      exact hstarts.newKey h.wrote.sound hi hkey
    refine ⟨_, ht, ?_, ?_⟩
    · rw [JournalEntry.startOf?_create, hstart, if_pos rfl]
      rfl
    · rw [JournalEntry.firstMove?_append_singleton, hmove]
      rfl
  there := by
    rw [hstarts.instances h.wrote.sound]
    exact ⟨_, List.mem_append_right _ List.mem_cons_self, rfl⟩
  jobs j hj hkey := by
    rw [hstarts.outstanding h.wrote.sound] at hj
    rcases List.mem_append.1 hj with hold | hnew
    · -- the instance of an older job has another key
      obtain ⟨i, hi, hwaits⟩ := h.wrote.state.waits j hold
      exact absurd (hwaits.instanceKey.symm.trans hkey) (hstarts.newKey h.wrote.sound hi)
    · exact hnew

theorem createInstance_follows (h : t₀.Follows definitions e moved) (request : CreateRequest) :
    Triple (fun t => t = t₀) (createInstance request)
      (fun handle t => t.Follows definitions e moved ∧ handle.instanceKey ≠ e.instanceKey ∧
        (∀ j ∈ t₀.state.outstanding, j ∈ t.state.outstanding) ∧
        t.state.handedOut = t₀.state.handedOut)
      fun _ => True := by
  obtain ⟨es, htells, hstart, hmove⟩ := h.told
  have hsound := htells.wrote.sound
  refine (createInstance_tells htells request).post ?_
  rintro handle t ⟨d, e', _, _, ht, hkey, hstarts⟩
  obtain ⟨i, hi, hikey⟩ := h.there
  have hother : e'.instanceKey ≠ e.instanceKey := by
    intro heq
    exact hstarts.newKey hsound hi (hikey.trans heq.symm)
  refine ⟨⟨⟨_, ht, ?_, ?_⟩, ?_, ?_⟩, hkey ▸ hother, ?_, hstarts.handedOut hsound⟩
  · rw [JournalEntry.startOf?_create, hstart]
    rfl
  · rw [JournalEntry.firstMove?_append_singleton, hmove]
    exact Option.or_none
  · rw [hstarts.instances hsound]
    exact ⟨i, List.mem_append_left _ hi, hikey⟩
  · intro j hj hjkey
    rw [hstarts.outstanding hsound] at hj
    rcases List.mem_append.1 hj with hold | hnew
    · exact h.jobs j hold hjkey
    · exact absurd ((TargetState.mem_jobsOf hnew).1.instanceKey.symm.trans hjkey) hother
  · intro j hj
    rw [hstarts.outstanding hsound]
    exact List.mem_append_left _ hj

theorem modifyInstance_follows (h : t₀.Follows definitions e moved) (m : ModifiedInstance) :
    Triple (fun t => t = t₀) (modifyInstance m.instanceKey m.terminatedKey m.activations)
      (fun _ t => t.Follows definitions e
          (moved.or (if m.instanceKey = e.instanceKey then some m.activations else none)) ∧
        t.state = t₀.state.modify m)
      fun _ => True := by
  obtain ⟨es, htells, hstart, hmove⟩ := h.told
  refine (modifyInstance_tells htells m).post ?_
  rintro _ t ⟨ht, hstate⟩
  refine ⟨⟨⟨_, ht, ?_, ?_⟩, ?_, ?_⟩, hstate⟩
  · rw [JournalEntry.startOf?_modify, hstart]
  · rw [JournalEntry.firstMove?_append_singleton, hmove]
    rfl
  · rw [hstate]
    exact mem_instances_modify h.there
  · intro j hj hkey
    rw [hstate] at hj
    exact h.jobs j (List.mem_filter.1 hj).1 hkey

theorem activateJobs_follows (h : t₀.Follows definitions e moved) (jobType : String)
    (limit : Nat) :
    Triple (fun t => t = t₀) (activateJobs jobType limit)
      (fun jobs t => t.Follows definitions e moved ∧ jobs = available t₀.state jobType limit ∧
        t.state = t₀.state.handOut jobs)
      fun _ => True := by
  obtain ⟨es, htells, hstart, hmove⟩ := h.told
  refine (activateJobs_tells htells jobType limit).post ?_
  rintro jobs t ⟨ht, hjobs, hstate⟩
  refine ⟨⟨⟨es, ht, hstart, hmove⟩, ?_, ?_⟩, hjobs, hstate⟩
  · rw [hstate]
    exact h.there
  · rw [hstate]
    exact h.jobs

end TargetEngine

/-! ## What waits to be handed over -/

namespace Pending

variable {p : Pending} {key other : Int}

theorem get?_erase (h : key ≠ other) : (p.erase other).get? key = p.get? key := by
  unfold get? erase
  induction p.entries with
  | nil => rfl
  | cons entry rest ih =>
    rw [List.filter_cons]
    split
    · rw [List.lookup_cons, List.lookup_cons, ih]
    · next hgone =>
      have hentry : entry.1 = other := by simpa using hgone
      rw [ih, List.lookup_cons, hentry, beq_eq_false_iff_ne.2 h]

theorem get?_insert_self (p : Pending) (key : Int) (x : HandOver) :
    (p.insert key x).get? key = some x := by
  have hnone : (p.erase key).entries.lookup key = none := by
    apply List.lookup_eq_none_iff.2
    intro entry hentry
    have hkept := (List.mem_filter.1 hentry).2
    rwa [bne_comm] at hkept
  unfold get? insert
  rw [List.lookup_append, hnone]
  simp

theorem get?_insert (h : key ≠ other) (x : HandOver) :
    (p.insert other x).get? key = p.get? key := by
  have herase : (p.erase other).entries.lookup key = p.get? key := get?_erase h
  unfold insert
  show ((p.erase other).entries ++ [(other, x)]).lookup key = p.get? key
  rw [List.lookup_append, herase]
  simp [beq_eq_false_iff_ne.2 h, List.lookup_cons]

end Pending

/-! ## The course of an instance -/

/-- An instance that was started for an id, and the activations that are prepared for it. -/
structure Course where
  id : String
  started : StartedInstance
  activations : List Activation
  carriesId : started.vars.get? legacyIdVariable = some (.string id)

namespace Course

variable {c : Course} {settings : MigrationSettings}

/-- A job of the instance comes up with these settings. -/
def Served (c : Course) (settings : MigrationSettings) : Prop :=
  1 ≤ settings.maxJobs ∧ settings.jobType ∈ c.started.jobs.map (·.jobType)

instance (c : Course) (settings : MigrationSettings) : Decidable (c.Served settings) :=
  inferInstanceAs (Decidable (_ ∧ _))

/-- The activations that the instance receives first. -/
def moves (c : Course) (settings : MigrationSettings) : Option (List Activation) :=
  if c.Served settings then some c.activations else none

theorem legacyId?_of_mem {j : Job} (hj : j ∈ TargetState.jobsOf c.started) :
    j.legacyId? = some c.id := by
  obtain ⟨job, _, rfl⟩ := List.mem_map.1 hj
  show (c.started.vars.get? legacyIdVariable).bind Json.text? = some c.id
  rw [c.carriesId]
  rfl

theorem jobType_mem {j : Job} (hj : j ∈ TargetState.jobsOf c.started) :
    j.jobType ∈ c.started.jobs.map (·.jobType) := by
  obtain ⟨job, hjob, rfl⟩ := List.mem_map.1 hj
  exact List.mem_map_of_mem hjob

end Course

namespace Workspace

open TargetEngine (Follows)

variable {settings : MigrationSettings} {pipeline : Pipeline} {definitions : List Definition}
  {c : Course} {todo : List Job} {seen : List Int} {job : Job}

/-- The engine says this of the instance, and has handed out the jobs of the keys that were seen. -/
def Stands (definitions : List Definition) (c : Course) (moved : Option (List Activation))
    (seen : List Int) (t : TargetEngine) : Prop :=
  t.Follows definitions c.started moved ∧ ∀ key ∈ seen, key ∈ t.state.handedOut

/-- A job of the instance waits; if it was handed out, it is at hand. -/
def HasWaiting (settings : MigrationSettings) (c : Course) (todo : List Job) (t : TargetState) :
    Prop :=
  ∃ j ∈ t.outstanding, j.instanceKey = c.started.instanceKey ∧ j.jobType = settings.jobType ∧
    (j.key ∈ t.handedOut → j ∈ todo)

/-- A job of another instance is not needed any more. -/
theorem HasWaiting.passed {t : TargetState} (h : HasWaiting settings c (job :: todo) t)
    (hother : job.instanceKey ≠ c.started.instanceKey) : HasWaiting settings c todo t := by
  obtain ⟨j, hj, hkey, htype, hhanded⟩ := h
  refine ⟨j, hj, hkey, htype, ?_⟩
  intro h
  rcases List.mem_cons.1 (hhanded h) with rfl | hmem
  · exact absurd hkey hother
  · exact hmem

/-- The instance has received what it is to receive, or it waits for that. -/
inductive Underway (settings : MigrationSettings) (definitions : List Definition) (c : Course)
    (todo : List Job) (seen : List Int) (s : RunState Workspace) : Prop where
  | settled (stands : Stands definitions c (c.moves settings) seen s.world.target)
  | waits (stands : Stands definitions c none seen s.world.target)
    (job : HasWaiting settings c todo s.world.target.state)
    (pending : s.pending.get? c.started.instanceKey = some ⟨c.id, c.activations⟩)

/-- These jobs can be at hand: they are of the type that is asked for, and those of the instance are
its own. -/
def AtHand (settings : MigrationSettings) (c : Course) (todo : List Job) : Prop :=
  ∀ j ∈ todo, 1 ≤ settings.maxJobs ∧ j.jobType = settings.jobType ∧
    (j.instanceKey = c.started.instanceKey → j ∈ TargetState.jobsOf c.started)

/-- A job of the instance is at hand only where its jobs come up. -/
theorem AtHand.served (h : AtHand settings c (job :: todo))
    (hown : job.instanceKey = c.started.instanceKey) : c.Served settings := by
  obtain ⟨hmax, htype, hjobs⟩ := h job List.mem_cons_self
  exact ⟨hmax, htype ▸ Course.jobType_mem (hjobs hown)⟩

theorem Underway.of_eq {s s' : RunState Workspace}
    (h : Underway settings definitions c todo seen s)
    (htarget : s'.world.target = s.world.target) (hpending : s'.pending = s.pending) :
    Underway settings definitions c todo seen s' := by
  cases h with
  | settled hstands => exact .settled (htarget ▸ hstands)
  | waits hstands hjob hentry =>
    exact .waits (htarget ▸ hstands) (htarget ▸ hjob) (hpending ▸ hentry)

/-! ## Steps of a run -/

/-- A job is dealt with; the property may speak about the target engine and about what waits. -/
theorem handOver_keeps {I : RunState Workspace → Prop}
    (hframe : ∀ s s', s'.world.target = s.world.target → s'.pending = s.pending → I s → I s')
    (herase : ∀ s, I s → I { s with pending := s.pending.erase job.instanceKey })
    (hmodify : ∀ activations, Triple I
      (Run.engine (onTarget (TargetEngine.modifyInstance job.instanceKey job.elementInstanceKey
        activations))) (fun _ => I) fun _ => True) :
    Triple I ((migrator settings pipeline).handOver job) (fun _ => I) fun _ => True := by
  -- to resolve again is only to ask, so it keeps any property
  have hagain : ∀ id, Triple I
      ((migrator settings pipeline).resolveAgain id job.instanceKey) (fun _ => I)
      fun _ => True := by
    intro id
    unfold Migrator.resolveAgain
    refine Triple.bind ((Run.asks_store (fun t => Store.targetKey? t id) fun _ =>
      Store.targetKey?_readOnly id).post fun _ _ h => h.1).orFails ?_
    intro mapped
    split
    · exact Triple.pure fun s hs => hs
    · refine Triple.bind
        ((Run.asks_source fun s => .ok (s.find? id)).post fun _ _ h => h.1).orFails ?_
      intro found
      cases found with
      | none => exact Triple.pure fun s hs => hs
      | some i =>
        refine Triple.bind
          ((Run.prepares (migrator_onFiles settings pipeline) i).post fun _ _ h => h.1).orFails ?_
        intro p
        cases p <;> exact Triple.pure fun s hs => hs
  unfold Migrator.handOver
  split
  · exact Triple.modify fun s hs => hframe s _ rfl rfl hs
  · next id _ =>
    refine Triple.bind (M := fun _ => I) ?_ ?_
    · unfold Migrator.activationsFor
      refine Triple.bind (M := fun _ => I) (Triple.get fun s hs => hs) ?_
      intro s₀
      split
      · exact Triple.bind (M := fun _ => I) (Triple.modify herase) fun _ =>
          Triple.pure fun s hs => hs
      · exact hagain id
    · intro found
      cases found with
      | none => exact Triple.modify fun s hs => hframe s _ rfl rfl hs
      | some activations =>
        exact Triple.bind (hmodify activations) fun _ =>
          Triple.modify fun s hs => hframe s _ rfl rfl hs

/-- An instance is dealt with; the property may speak about the target engine and about what
waits. -/
theorem migrateInstance_keeps {I : RunState Workspace → Prop}
    (hframe : ∀ s s', s'.world.target = s.world.target → s'.pending = s.pending → I s → I s')
    (hcreate : ∀ request, Triple I (Run.engine (onTarget (TargetEngine.createInstance request)))
      (fun handle s => ∀ h, I { s with pending := s.pending.insert handle.instanceKey h })
      fun _ => True) (i : SourceInstance) :
    Triple I ((migrator settings pipeline).migrateInstance i) (fun _ => I) fun _ => True := by
  refine migrateInstance_rule
    (N := fun handle s => ∀ h, I { s with pending := s.pending.insert handle.instanceKey h })
    (fun s _ hs => hframe s _ rfl rfl hs) hcreate ?_ (fun _ _ h hs => hs h) ?_
  · intro handle
    refine Run.changes_store (fun t =>
      Store.insert t (.migrated i.id handle.instanceKey i.startTime)) ?_
    intro s hs
    exact Triple.any (fun _ db h => hframe { s with pending := s.pending.insert _ h } _ rfl rfl
      (hs h)) fun _ => trivial
  · intro reason
    refine Run.changes_store (fun t => Store.insert t (.skipped i.id i.startTime reason)) ?_
    intro s hs
    exact Triple.any (fun _ db => hframe s _ rfl rfl hs) fun _ => trivial

/-! ## Following through a run -/

theorem create_underway (request : CreateRequest) :
    Triple (Underway settings definitions c todo seen)
      (Run.engine (onTarget (TargetEngine.createInstance request)))
      (fun handle s => ∀ h, Underway settings definitions c todo seen
        { s with pending := s.pending.insert handle.instanceKey h }) fun _ => True := by
  refine Run.changes_target (TargetEngine.createInstance request) ?_
  intro s hs
  cases hs with
  | settled hstands =>
    refine (TargetEngine.createInstance_follows hstands.1 request).post ?_
    rintro handle t ⟨hfollows, _, _, hhandedOut⟩ h
    exact .settled ⟨hfollows, hhandedOut ▸ hstands.2⟩
  | waits hstands hjob hpending =>
    obtain ⟨j, hj, hkey, htype, hhanded⟩ := hjob
    refine (TargetEngine.createInstance_follows hstands.1 request).post ?_
    rintro handle t ⟨hfollows, hother, houtstanding, hhandedOut⟩ h
    refine .waits ⟨hfollows, hhandedOut ▸ hstands.2⟩ ⟨j, houtstanding j hj, hkey, htype, ?_⟩ ?_
    · intro hmem
      apply hhanded
      rw [← hhandedOut]
      exact hmem
    · exact (Pending.get?_insert hother.symm h).trans hpending

/-- To deal with another instance does not disturb the one that is followed. -/
theorem migrateInstance_underway (i : SourceInstance) :
    Triple (Underway settings definitions c todo seen)
      ((migrator settings pipeline).migrateInstance i)
      (fun _ => Underway settings definitions c todo seen) fun _ => True :=
  migrateInstance_keeps (fun _ _ htarget hpending hs => hs.of_eq htarget hpending)
    create_underway i

theorem modify_stands {moved : Option (List Activation)} {t₀ : TargetEngine}
    (h : Stands definitions c moved seen t₀) (activations : List Activation) :
    Triple (fun t => t = t₀)
      (TargetEngine.modifyInstance job.instanceKey job.elementInstanceKey activations)
      (fun _ t => Stands definitions c (moved.or
          (if job.instanceKey = c.started.instanceKey then some activations else none)) seen t ∧
        t.state = t₀.state.modify (job.modification activations)) fun _ => True := by
  refine (TargetEngine.modifyInstance_follows h.1 (job.modification activations)).post ?_
  rintro _ t ⟨hfollows, hstate⟩
  refine ⟨⟨hfollows, ?_⟩, hstate⟩
  rw [hstate]
  exact h.2

variable (definitions seen) in
/-- What an instance that is settled receives later does not come first. -/
theorem handOver_settled (hserved : job.instanceKey = c.started.instanceKey → c.Served settings) :
    Triple (fun s => Stands definitions c (c.moves settings) seen s.world.target)
      ((migrator settings pipeline).handOver job)
      (fun _ s => Stands definitions c (c.moves settings) seen s.world.target) fun _ => True := by
  refine handOver_keeps (fun s s' htarget _ hs => htarget ▸ hs) (fun _ hs => hs) ?_
  intro activations
  refine Run.changes_target (TargetEngine.modifyInstance job.instanceKey job.elementInstanceKey
    activations) ?_
  intro s hs
  refine (modify_stands hs activations).post ?_
  rintro _ t ⟨ht, _⟩
  -- an instance of which a job came up has received something before
  have hsame : (c.moves settings).or
      (if job.instanceKey = c.started.instanceKey then some activations else none) =
        c.moves settings := by
    split
    · next hown =>
      unfold Course.moves
      rw [if_pos (hserved hown)]
      rfl
    · exact Option.or_none
  exact hsame ▸ ht

variable (definitions seen) in
/-- A hand-over to another instance leaves the job that waits. -/
theorem handOver_other (hother : job.instanceKey ≠ c.started.instanceKey) :
    Triple
      (fun s => Stands definitions c none seen s.world.target ∧
        HasWaiting settings c todo s.world.target.state ∧
        s.pending.get? c.started.instanceKey = some ⟨c.id, c.activations⟩)
      ((migrator settings pipeline).handOver job)
      (fun _ s => Stands definitions c none seen s.world.target ∧
        HasWaiting settings c todo s.world.target.state ∧
        s.pending.get? c.started.instanceKey = some ⟨c.id, c.activations⟩) fun _ => True := by
  refine handOver_keeps ?_ ?_ ?_
  · rintro s s' htarget hpending hs
    rw [htarget, hpending]
    exact hs
  · rintro s ⟨hstands, hjob, hpending⟩
    exact ⟨hstands, hjob, (Pending.get?_erase hother.symm).trans hpending⟩
  · intro activations
    refine Run.changes_target (TargetEngine.modifyInstance job.instanceKey job.elementInstanceKey
      activations) ?_
    rintro s ⟨hstands, ⟨j, hj, hkey, htype, hhanded⟩, hpending⟩
    refine (modify_stands hstands activations).post ?_
    rintro _ t ⟨ht, hstate⟩
    rw [if_neg hother] at ht
    refine ⟨ht, ?_, hpending⟩
    show HasWaiting settings c todo t.state
    rw [hstate]
    refine ⟨j, List.mem_filter.2 ⟨hj, ?_⟩, hkey, htype, hhanded⟩
    -- a modification takes away jobs of its own instance only
    have hneq : (j.instanceKey == job.instanceKey) = false :=
      beq_eq_false_iff_ne.2 fun heq => hother (heq.symm.trans hkey)
    show (!(j.instanceKey == job.instanceKey && _)) = true
    rw [hneq]
    rfl

variable (definitions seen) in
/-- The instance that waits is moved as prepared, once a job of it is at hand. -/
theorem handOver_own (hserved : c.Served settings) (hid : job.legacyId? = some c.id)
    (hown : job.instanceKey = c.started.instanceKey) :
    Triple
      (fun s => Stands definitions c none seen s.world.target ∧
        s.pending.get? c.started.instanceKey = some ⟨c.id, c.activations⟩)
      ((migrator settings pipeline).handOver job)
      (fun _ s => Stands definitions c (c.moves settings) seen s.world.target)
      fun _ => True := by
  unfold Migrator.handOver
  rw [hid]
  refine Triple.bind (M := fun found s => found = some c.activations ∧
    Stands definitions c none seen s.world.target) ?_ ?_
  · -- the instance is found among what waits, so nothing is resolved again
    unfold Migrator.activationsFor
    refine Triple.bind (M := fun s₀ s => Stands definitions c none seen s.world.target ∧
      s₀.pending.get? job.instanceKey = some ⟨c.id, c.activations⟩)
      (Triple.get fun s ⟨hstands, hpending⟩ => ⟨hstands, hown ▸ hpending⟩) ?_
    intro s₀
    apply Triple.of_state
    rintro s₁ ⟨hstands, hpending⟩
    rw [hpending]
    refine Triple.bind (M := fun _ s => Stands definitions c none seen s.world.target)
      (Triple.modify ?_) fun _ => Triple.pure fun s hs => ⟨rfl, hs⟩
    rintro s rfl
    exact hstands
  · intro found
    apply Triple.of_state
    rintro s₁ ⟨hfound, hstands⟩
    subst hfound
    refine Triple.bind (M := fun _ s => Stands definitions c (c.moves settings) seen s.world.target)
      ?_ fun _ => Triple.modify fun s hs => hs
    refine Run.changes_target (TargetEngine.modifyInstance job.instanceKey job.elementInstanceKey
      c.activations) ?_
    rintro s rfl
    refine (modify_stands hstands c.activations).post ?_
    rintro _ t ⟨ht, _⟩
    have hmoves : c.moves settings = some c.activations := if_pos hserved
    rw [if_pos hown] at ht
    rw [hmoves]
    exact ht

/-- A job is dealt with, whosoever it is. -/
theorem handOver_underway (hjobs : AtHand settings c (job :: todo)) :
    Triple (Underway settings definitions c (job :: todo) seen)
      ((migrator settings pipeline).handOver job)
      (fun _ => Underway settings definitions c todo seen) fun _ => True := by
  apply Triple.of_state
  intro s₀ hs₀
  cases hs₀ with
  | settled hstands =>
    refine (handOver_settled definitions seen hjobs.served).conseq ?_ (fun _ _ hs => .settled hs)
      fun _ h => h
    rintro s rfl
    exact hstands
  | waits hstands hjob hpending =>
    by_cases hown : job.instanceKey = c.started.instanceKey
    · have hid := Course.legacyId?_of_mem ((hjobs job List.mem_cons_self).2.2 hown)
      refine (handOver_own definitions seen (hjobs.served hown) hid hown).conseq ?_
        (fun _ _ hs => .settled hs) fun _ h => h
      rintro s rfl
      exact ⟨hstands, hpending⟩
    · refine (handOver_other definitions seen hown).conseq ?_
        (fun _ _ ⟨hstands', hjob', hpending'⟩ => .waits hstands' hjob' hpending') fun _ h => h
      rintro s rfl
      exact ⟨hstands, hjob.passed hown, hpending⟩

/-- All jobs of a round are new, and they can be at hand. -/
theorem fetch_stands {moved : Option (List Activation)} {t₀ : TargetEngine}
    (h : Stands definitions c moved seen t₀) :
    Triple (fun t => t = t₀) (TargetEngine.activateJobs settings.jobType settings.maxJobs)
      (fun jobs t => (freshJobs jobs seen).1 = jobs ∧ AtHand settings c jobs ∧
        Stands definitions c moved (freshJobs jobs seen).2 t ∧
        jobs = TargetEngine.available t₀.state settings.jobType settings.maxJobs ∧
        t.state = t₀.state.handOut jobs) fun _ => True := by
  obtain ⟨hfollows, hseen⟩ := h
  obtain ⟨es, htells, _⟩ := hfollows.told
  refine (TargetEngine.activateJobs_follows hfollows settings.jobType settings.maxJobs).post ?_
  rintro jobs t ⟨hfollows', rfl, hstate⟩
  refine ⟨?_, ?_, ⟨hfollows', ?_⟩, rfl, hstate⟩
  · exact freshJobs_eq_self (TargetEngine.keys_available htells.wrote.state _ _) seen
      fun j hj hmem => (TargetEngine.mem_available hj).2.2 (hseen j.key hmem)
  · intro j hj
    obtain ⟨hout, htype, _⟩ := TargetEngine.mem_available hj
    exact ⟨TargetEngine.one_le_of_available hj, htype, hfollows.jobs j hout⟩
  · intro key hkey
    rw [hstate]
    rcases mem_freshJobs_seen hkey with hold | hnew
    · exact List.mem_append_left _ (hseen key hold)
    · exact List.mem_append_right _ hnew

/-- Where a round brings no jobs, those of the instance do not come up at all. -/
theorem HasWaiting.moves_eq_none {t : TargetState} (h : HasWaiting settings c [] t)
    (hnone : TargetEngine.available t settings.jobType settings.maxJobs = []) :
    c.moves settings = none := by
  obtain ⟨j, hj, hkey, htype, hhanded⟩ := h
  apply if_neg
  intro hserved
  refine List.not_mem_nil (hhanded ?_)
  exact TargetEngine.handedOut_of_available_nil hserved.1 hnone hj htype

/-- A job that is handed out is at hand. -/
theorem HasWaiting.handOut {t : TargetState} (ht : t.Sound) (h : HasWaiting settings c [] t)
    {jobs : List Job} (hjobs : ∀ j ∈ jobs, j ∈ t.outstanding) :
    HasWaiting settings c jobs (t.handOut jobs) := by
  obtain ⟨j, hj, hkey, htype, hhanded⟩ := h
  refine ⟨j, hj, hkey, htype, ?_⟩
  intro hmem
  rcases List.mem_append.1 hmem with hold | hnew
  · exact absurd (hhanded hold) List.not_mem_nil
  · -- jobs have keys of their own
    obtain ⟨j', hj', hkey'⟩ := List.mem_map.1 hnew
    rwa [← List.inj_on_of_nodup_map ht.jobKeys (hjobs j' hj') hj hkey']

/-- A round brings jobs that have not come up before; if it brings none, the instance is settled. -/
theorem fetch_underway (seen : List Int) :
    Triple (Underway settings definitions c [] seen)
      (Run.engine (onTarget (TargetEngine.activateJobs settings.jobType settings.maxJobs)))
      (fun jobs s => let (fresh, seen') := freshJobs jobs seen
        if fresh = [] then Stands definitions c (c.moves settings) [] s.world.target
        else AtHand settings c fresh ∧ Underway settings definitions c fresh seen' s)
      fun _ => True := by
  refine Run.changes_target (TargetEngine.activateJobs settings.jobType settings.maxJobs) ?_
  intro s hs
  cases hs with
  | settled hstands =>
    refine (fetch_stands hstands).post ?_
    rintro jobs t ⟨hfresh, hjobs, hstands', _⟩
    show if (freshJobs jobs seen).1 = [] then _ else _
    rw [hfresh]
    split
    · exact ⟨hstands'.1, fun _ h => by cases h⟩
    · exact ⟨hjobs, .settled hstands'⟩
  | waits hstands hjob hpending =>
    obtain ⟨es, htells, _⟩ := hstands.1.told
    refine (fetch_stands hstands).post ?_
    rintro jobs t ⟨hfresh, hjobs, hstands', havailable, hstate⟩
    show if (freshJobs jobs seen).1 = [] then _ else _
    rw [hfresh]
    split
    · next hnone =>
      -- a job waits and none comes up: this type is not asked for
      rw [hjob.moves_eq_none (havailable.symm.trans hnone)]
      exact ⟨hstands'.1, fun _ h => by cases h⟩
    · refine ⟨hjobs, .waits hstands' ?_ hpending⟩
      show HasWaiting settings c jobs t.state
      rw [hstate]
      exact hjob.handOut htells.wrote.state fun j hj =>
        (TargetEngine.mem_available (havailable ▸ hj)).1

/-- A drain settles the instance. -/
theorem drain_settles :
    Triple (Underway settings definitions c [] []) (migrator settings pipeline).drain
      (fun _ s => Stands definitions c (c.moves settings) [] s.world.target) fun _ => True := by
  unfold Migrator.drain
  refine Triple.bind (M := fun _ => Underway settings definitions c [] [])
    (Triple.get fun s hs => hs) ?_
  intro s₀
  refine Triple.bind (M := fun _ s => Stands definitions c (c.moves settings) [] s.world.target) ?_
    fun _ => Triple.modify fun s hs => hs
  exact Migrator.drainRounds_triple (migrator settings pipeline)
    (L := fun seen => Underway settings definitions c [] seen)
    (B := fun todo seen s => AtHand settings c todo ∧ Underway settings definitions c todo seen s)
    fetch_underway
    (fun job rest seen => Triple.of_and fun hjobs => (handOver_underway hjobs).post fun _ _ hs =>
      ⟨fun j hj => hjobs j (List.mem_cons_of_mem _ hj), hs⟩)
    (fun _ _ hs => hs.2) (fun _ _ _ => trivial) _ _

end Workspace
end ProcessMigration
