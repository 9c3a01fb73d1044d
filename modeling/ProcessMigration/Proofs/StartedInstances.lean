import ProcessMigration.Proofs.Trials

/-!
# Answers and entries

The target engine answers a request for a new instance after it has written an entry. So in a trial
the answers that came back stand beside the entries in the journal, one by one and in the same order,
however the calls in between have failed.

* `Trial.Journaled` says so, and that no two entries start an instance with the same key;
* `Trial.create_journaled` is the step lemma for a creation; every other step leaves the answers and
  the entries that start instances alone;
* `Trial.run_journaled`: a run keeps this, whatever its mode and however it ends.
-/

namespace ProcessMigration

open ProcessMigration.Action (Triple ReadOnly)

/-- The instance that an entry starts. -/
def JournalEntry.started? : JournalEntry → Option StartedInstance
  | .create e => some e
  | .modify _ => none

/-- The instances that the entries of a journal start. -/
def JournalEntry.startedIn (es : List JournalEntry) : List StartedInstance :=
  es.filterMap JournalEntry.started?

namespace JournalEntry

theorem startedIn_create (es : List JournalEntry) (e : StartedInstance) :
    startedIn (es ++ [.create e]) = startedIn es ++ [e] := by
  unfold startedIn
  rw [List.filterMap_append]
  rfl

theorem startedIn_modify (es : List JournalEntry) (m : ModifiedInstance) :
    startedIn (es ++ [.modify m]) = startedIn es := by
  unfold startedIn
  rw [List.filterMap_append]
  exact List.append_nil _

/-- The keys of started instances are among the keys of the entries. -/
theorem instanceKey_mem_keys {es : List JournalEntry} {e : StartedInstance} (h : e ∈ startedIn es) :
    e.instanceKey ∈ es.flatMap JournalEntry.keys := by
  obtain ⟨entry, hentry, hstarted⟩ := List.mem_filterMap.1 h
  refine List.mem_flatMap.2 ⟨entry, hentry, ?_⟩
  cases entry with
  | create e' =>
    cases hstarted
    exact TargetState.instanceKey_mem_keysOf e
  | modify m => cases hstarted

end JournalEntry

namespace Trial

/-- The answers that came back are those of the entries, and the entries start different
instances. -/
structure Journaled (es : List JournalEntry) (d : Trial) : Prop where
  wrote : d.world.target.Wrote es
  answers : List.Forall₂
    (fun (c : CreateRequest × InstanceHandle) (e : StartedInstance) =>
      e.instanceKey = c.2.instanceKey ∧ e.vars = c.1.vars)
    d.started (JournalEntry.startedIn es)
  keys : ((JournalEntry.startedIn es).map (·.instanceKey)).Nodup

/-- The journal has entries for the answers. -/
def IsJournaled (d : Trial) : Prop := ∃ es, d.Journaled es

variable {es : List JournalEntry} {d d' : Trial}

/-- Only the engine and the answers matter. -/
theorem Journaled.of_eq (h : d.Journaled es) (htarget : d'.world.target = d.world.target)
    (hstarted : d'.started = d.started) : d'.Journaled es := by
  obtain ⟨hwrote, hanswers, hkeys⟩ := h
  refine ⟨?_, ?_, hkeys⟩
  · rw [htarget]
    exact hwrote
  · rw [hstarted]
    exact hanswers

theorem IsJournaled.of_eq (h : d.IsJournaled) (htarget : d'.world.target = d.world.target)
    (hstarted : d'.started = d.started) : d'.IsJournaled := by
  obtain ⟨es, hes⟩ := h
  exact ⟨es, hes.of_eq htarget hstarted⟩

/-- An engine whose entries start no further instance. -/
theorem Journaled.withTarget (h : d.Journaled es) {es' : List JournalEntry} {t : TargetEngine}
    (ht : t.Wrote es') (hstarted : JournalEntry.startedIn es' = JournalEntry.startedIn es) :
    (d.withTarget t).Journaled es' := by
  obtain ⟨_, hanswers, hkeys⟩ := h
  constructor
  · exact ht
  · rw [hstarted]
    exact hanswers
  · rw [hstarted]
    exact hkeys

/-- A new instance has an entry and an answer. -/
theorem Journaled.create (h : d.Journaled es) {request : CreateRequest} {handle : InstanceHandle}
    {e : StartedInstance} {t : TargetEngine} (ht : t.Wrote (es ++ [.create e]))
    (hkey : handle.instanceKey = e.instanceKey)
    (hstarts : TargetEngine.Starts request e d.world.target t) :
    ({ d.withTarget t with started := d.started ++ [(request, handle)] } : Trial).Journaled
      (es ++ [.create e]) := by
  obtain ⟨hwrote, hanswers, hkeys⟩ := h
  constructor
  · exact ht
  · rw [JournalEntry.startedIn_create]
    exact List.rel_append hanswers (.cons ⟨hkey.symm, hstarts.vars⟩ .nil)
  · rw [JournalEntry.startedIn_create, List.map_append]
    refine List.nodup_append.2 ⟨hkeys, List.nodup_singleton _, ?_⟩
    intro key hold key' hnew heq
    subst heq
    -- a key that an entry has is passed, and a new one is not
    obtain ⟨a, hdraws, _⟩ := hstarts.state
    have hfresh := hdraws.fresh hwrote.state.keys _ (TargetState.instanceKey_mem_keysOf e)
    obtain ⟨e', he', rfl⟩ := List.mem_map.1 hold
    have hpassed := hwrote.recorded.passed _ (JournalEntry.instanceKey_mem_keys he')
    rw [List.mem_singleton.1 hnew] at hpassed
    exact hfresh.1 hpassed

/-! ## The steps of a run -/

/-- A run whose journal has entries for the answers. -/
def RunJournaled (s : RunState Trial) : Prop := s.world.IsJournaled

variable {settings : MigrationSettings} {pipeline : Pipeline}

theorem steady_journaled : Run.Steady RunJournaled := fun _ _ _ hd => hd.of_eq rfl rfl

theorem ask_journaled {α : Type} {op : EngineOperation} (x : Action Workspace ConnectorError α)
    (hx : ReadOnly x) :
    Triple RunJournaled (Run.engine (ask op x)) (fun _ => RunJournaled) RunJournaled :=
  (Run.trial_asks steady_journaled hx).post fun _ _ hs => hs.1

theorem askStore_journaled {α : Type} (x : StoreTables → StoreAction α)
    (hx : ∀ t, ReadOnly (x t)) :
    Triple RunJournaled (Run.store (askStore (Workspace.onStore x))) (fun _ => RunJournaled)
      RunJournaled :=
  (Run.trial_asksStore steady_journaled hx).post fun _ _ hs => hs.1

/-- Whatever becomes of a write, it is not about the target engine. -/
theorem write_journaled (x : StoreTables → StoreAction Unit) :
    Triple RunJournaled (Run.store (write (Workspace.onStore x))) (fun _ => RunJournaled)
      RunJournaled := by
  refine Run.trial_writes steady_journaled ?_ ?_
  · intro s hs
    exact hs.of_eq rfl rfl
  · intro s hs
    refine Triple.any ?_ ?_
    · intro _ db
      exact hs.of_eq rfl rfl
    · intro db e
      exact hs.of_eq rfl rfl

theorem prepare_journaled (i : SourceInstance) :
    Triple RunJournaled (Run.call ((migrator settings pipeline).prepare i)) (fun _ => RunJournaled)
      RunJournaled := by
  apply Triple.of_state
  intro s₀ hs₀
  -- in the course of a preparation snapshot and definitions stay
  have hprepares : Triple
      (fun s : RunState Trial => RunJournaled s ∧ s.world.world.source = s₀.world.world.source ∧
        s.world.world.target.definitions = s₀.world.world.target.definitions)
      (Run.call ((migrator settings pipeline).prepare i)) _ _ :=
    Run.prepare_echoes
      (fun s => Trial.reads fun d coming hd => ⟨steady_journaled s d coming hd.1, hd.2⟩)
      (fun _ hs => hs.2.1) (fun _ hs => hs.2.2) i
  refine hprepares.conseq ?_ (fun _ _ hs => hs.1.1) fun _ hs => hs.1
  intro s hs
  subst hs
  exact ⟨hs₀, rfl, rfl⟩

theorem create_journaled (request : CreateRequest) :
    Triple RunJournaled (Run.engine ((migrator settings pipeline).env.target.createInstance request))
      (fun _ => RunJournaled) RunJournaled := by
  refine Run.trial_creates steady_journaled (fun _ hs => hs) ?_ ?_
  · intro s hs
    obtain ⟨es, hes⟩ := hs
    refine (TargetEngine.createInstance_wrote hes.wrote request).ends ?_ ?_
    · intro handle t ⟨e, hwrote, hkey, hstarts⟩
      exact ⟨_, hes.create hwrote hkey hstarts⟩
    · intro t hidle
      exact ⟨es, hes.withTarget (hidle.wrote hes.wrote) rfl⟩
  · intro s t hs hidle
    obtain ⟨es, hes⟩ := hs
    exact ⟨es, hes.withTarget (hidle.wrote hes.wrote) rfl⟩

theorem modify_journaled (key terminated : Int) (activations : List Activation) :
    Triple RunJournaled (Run.engine ((migrator settings pipeline).env.target.modifyInstance key
      terminated activations)) (fun _ => RunJournaled) RunJournaled := by
  refine Run.trial_commands steady_journaled (fun _ hs => hs) ?_ ?_
  · intro s hs
    obtain ⟨es, hes⟩ := hs
    refine (TargetEngine.modifyInstance_wrote hes.wrote ⟨key, terminated, activations⟩).ends ?_ ?_
    · intro _ t ⟨hwrote, _⟩
      exact ⟨_, hes.withTarget hwrote (JournalEntry.startedIn_modify es _)⟩
    · rintro t rfl
      exact ⟨es, hes.withTarget hes.wrote rfl⟩
  · intro s cause hs
    refine (TargetEngine.modifyInstance_jammed cause key terminated activations).ends
      (fun _ _ ht => ht.elim) ?_
    rintro t rfl
    exact hs.of_eq rfl rfl

theorem fetch_journaled (jobType : String) (limit : Nat) :
    Triple RunJournaled (Run.engine ((migrator settings pipeline).env.target.activateJobs jobType
      limit)) (fun _ => RunJournaled) RunJournaled := by
  refine Run.trial_fetches steady_journaled (fun _ hs => hs) ?_
  intro s hs
  obtain ⟨es, hes⟩ := hs
  refine (TargetEngine.activateJobs_wrote hes.wrote jobType limit).ends ?_ fun _ ht => ht.elim
  intro jobs t ⟨hwrote, _⟩
  exact ⟨es, hes.withTarget hwrote rfl⟩

theorem find_journaled (id : String) :
    Triple RunJournaled (Run.engine ((migrator settings pipeline).env.source.find? id))
      (fun _ => RunJournaled) RunJournaled :=
  ask_journaled (Workspace.sourceEngine.find? id) (Workspace.onSource_readOnly _)

theorem start_journaled (i : SourceInstance) (prepared : Prepared)
    (x : Int → StoreTables → StoreAction Unit) :
    Triple RunJournaled
      ((migrator settings pipeline).start i prepared fun key => write (Workspace.onStore (x key)))
      (fun _ => RunJournaled) RunJournaled := by
  unfold Migrator.start
  refine Triple.bind (create_journaled prepared.request) ?_
  intro handle
  refine Triple.bind (write_journaled (x handle.instanceKey)) ?_
  intro _
  exact Triple.modify fun _ hs => hs

theorem keeps_journaled :
    (migrator settings pipeline).Keeps RunJournaled RunJournaled RunJournaled := by
  constructor
  case report => exact fun _ _ hs => hs
  case output => exact fun _ _ hs => hs
  case reset => exact fun _ _ hs => hs
  case countSkipped =>
    exact askStore_journaled (fun t => Store.countSkipped t .processInstance)
      fun _ => Store.countSkipped_readOnly _
  case skipped =>
    intro request
    exact askStore_journaled
      (fun t => Store.skipped t .processInstance request.offset request.limit)
      fun _ => Store.skipped_readOnly _ _ _
  case ended => exact fun _ hs => hs
  case failed => exact fun _ hs => hs
  case drain =>
    apply Migrator.Deals.drain
    constructor
    case giveUp => exact fun _ hs => hs
    case pending => exact fun _ _ hs => hs
    case counted => exact fun _ _ _ _ hs => hs
    case targetKey =>
      intro id
      exact askStore_journaled (fun t => Store.targetKey? t id) fun _ => Store.targetKey?_readOnly id
    case find => exact find_journaled
    case prepare => exact prepare_journaled
    case modify => exact modify_journaled
    case fetch => exact fetch_journaled _ _
    case failed => exact fun _ hs => hs

/-- A run keeps the answers and the entries together, however it ends. -/
theorem run_journaled (mode : Mode) :
    Triple RunJournaled ((migrator settings pipeline).run mode) (fun _ => RunJournaled)
      RunJournaled := by
  have hretrying : (migrator settings pipeline).KeepsRetrying RunJournaled RunJournaled RunJournaled
      (fun _ => True) fun _ _ => True := by
    refine { keeps_journaled with find := ?_, prepare := ?_, startAgain := ?_ }
    · intro id
      exact (find_journaled id).post fun _ _ hs => ⟨hs, fun _ _ => trivial⟩
    · intro i _
      exact (prepare_journaled i).post fun _ _ hs => ⟨hs, fun _ _ => trivial⟩
    · intro i prepared _ _
      exact start_journaled i prepared fun key t => Store.update t i.id key
  have hmigrating : (migrator settings pipeline).KeepsMigrating RunJournaled RunJournaled
      RunJournaled (fun _ => True) (fun _ => True) fun _ _ => True := by
    -- calls that are questions keep it, and writes of rows leave the journal alone
    refine { keeps_journaled with
      latest := ?latest, count := ?count, list := ?list, «exists» := ?recorded, prepare := ?prepare,
      startNew := ?startNew, skip := ?skip }
    case latest =>
      exact askStore_journaled (fun t => Store.latest? t .processInstance)
        fun _ => Store.latest?_readOnly _
    case count => exact ask_journaled Workspace.sourceEngine.count (Workspace.onSource_readOnly _)
    case list =>
      intro after limit
      exact (ask_journaled (Workspace.sourceEngine.listAfter after limit)
        (Workspace.onSource_readOnly _)).post fun _ _ hs => ⟨hs, fun _ _ => trivial⟩
    case recorded =>
      intro i _
      exact (askStore_journaled (fun t => Store.exists t i.id)
        fun _ => Store.exists_readOnly i.id).post fun _ _ hs => ⟨hs, fun _ => trivial⟩
    case prepare =>
      intro i _
      exact (prepare_journaled i).post fun _ _ hs => ⟨hs, fun _ _ => trivial⟩
    case startNew =>
      intro i prepared _ _ _
      exact start_journaled i prepared fun key t => Store.insert t (.migrated i.id key i.startTime)
    case skip =>
      intro i reason _ _
      exact write_journaled fun t => Store.insert t (.skipped i.id i.startTime reason)
  exact Migrator.run_keeps hretrying hmigrating mode

end Trial
end ProcessMigration
