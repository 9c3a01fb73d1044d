import ProcessMigration.Proofs.Ownership

/-!
# An instance is moved once

A hand-over terminates the element instance on which the jobs of an instance wait, and takes all
these jobs away from the target engine. Jobs that were handed out before stay in the batch, though, so
an instance with two jobs of the migrator could be moved twice. It has two jobs only where the start
event of its definition lists the job type twice.

* `Definition.Startable`: the migrator can have an instance of this definition started;
* `OneJobEach`: no such definition lists a job type twice;
* `MovedOnce` is the invariant: an instance that was moved has been moved once and has no job, and an
  instance of the migrator has one job of such a type at most;
* `MovedOnce.started`, `MovedOnce.joined`, `MovedOnce.modified` and `MovedOnce.reopened` are its steps;
* `Workspace.InTurn` is the invariant of a batch, whose jobs still wait and do not meet;
* `Session.moved_once` puts it together over all sessions.
-/

namespace ProcessMigration

open ProcessMigration.Action (Triple ReadOnly)

/-! ## Definitions that instances are started of -/

namespace Definition

/-- The job types that the start event lists. -/
def listeners (d : Definition) : List String := (d.startEvent.map (·.listenerJobTypes)).getD []

/-- No other definition takes its place for the instances of its process and tenant. -/
def Current (definitions : List Definition) (d : Definition) : Prop :=
  Validator.newest? (definitions.filter fun e =>
    e.businessId == d.businessId && e.tenant == d.tenant) = some d

/-- The migrator can have an instance of this definition started: it is the first of its key, the key
is that of a definition which is current and has a start event and a flow node, and behind the keys of
the definitions there are enough for the instance, its start event and its jobs. -/
structure Startable (definitions : List Definition) (d : Definition) : Prop where
  current : ∃ d', Current definitions d' ∧ d'.key = d.key ∧ d'.startEvent.isSome = true ∧
    d'.flowNodeIds ≠ []
  first : definitions.find? (fun e => e.key == d.key) = some d
  room : (TargetState.start definitions).keys.nextLocal + (2 + d.listeners.length : Nat) ≤ Key.span

/-- What was deployed for the process and the tenant of an instance. -/
theorem filter_ofBusiness (i : SourceInstance) (definitions : List Definition) :
    (ofBusiness definitions i.processKey).filter (Validator.fits i) =
      definitions.filter fun e => e.businessId == i.processKey && e.tenant == i.tenant := by
  unfold ofBusiness
  rw [List.filter_filter]
  apply List.filter_congr
  intro e _
  show (e.businessId == i.processKey && e.tenant == i.tenant && e.businessId == i.processKey) = _
  cases e.businessId == i.processKey <;> simp

theorem current_of_select {i : SourceInstance} {definitions : List Definition} {d : Definition}
    (h : Validator.select i (ofBusiness definitions i.processKey) = .ok d) :
    Current definitions d := by
  have hfits := (Validator.fits_of_select h).2
  unfold Validator.fits at hfits
  obtain ⟨hbusiness, htenant⟩ := Bool.and_eq_true_iff.1 hfits
  unfold Current
  rw [beq_iff_eq.1 hbusiness, beq_iff_eq.1 htenant]
  unfold Validator.select at h
  rw [filter_ofBusiness] at h
  split at h
  · next d' hd' =>
    cases h
    exact hd'
  · cases h

theorem select_of_current {i : SourceInstance} {definitions : List Definition} {d : Definition}
    (hbusiness : d.businessId = i.processKey) (htenant : d.tenant = i.tenant)
    (h : Current definitions d) :
    Validator.select i (ofBusiness definitions i.processKey) = .ok d := by
  unfold Current at h
  rw [hbusiness, htenant] at h
  unfold Validator.select
  rw [filter_ofBusiness, h]

end Definition

/-- No instance that the migrator has started can have two jobs of this type. -/
def OneJobEach (definitions : List Definition) (jobType : String) : Prop :=
  ∀ d, Definition.Startable definitions d → d.listeners.count jobType ≤ 1

/-- What is prepared starts an instance of a definition that can be started. -/
theorem Prepared.Fits.startable {settings : MigrationSettings} {definitions : List Definition}
    {i : SourceInstance} {p : Prepared} (h : p.Fits settings definitions i) {d : Definition}
    (hfind : definitions.find? (fun d => d.key == p.request.definitionKey) = some d)
    (hroom : (TargetState.start definitions).keys.nextLocal + (2 + d.listeners.length : Nat) ≤
      Key.span) : Definition.Startable definitions d := by
  obtain ⟨d', nodes, hselect, hkey, hnodes, hcheck⟩ := h.isFor
  have hfound : d.key = p.request.definitionKey := by simpa using List.find?_some hfind
  refine ⟨⟨d', Definition.current_of_select hselect, (hfound.trans hkey).symm, ?_, ?_⟩, ?_, hroom⟩
  · unfold Validator.checkDefinition at hcheck
    split at hcheck
    · cases hcheck
    · next event hevent =>
      rw [hevent]
      rfl
  · intro hnone
    -- a definition without flow nodes does not have the one that is to be activated
    unfold Validator.checkDefinition at hcheck
    split at hcheck
    · cases hcheck
    · split at hcheck
      · cases hcheck
      · split at hcheck
        · cases hcheck
        · next hall =>
          obtain ⟨node, hnode⟩ := List.exists_mem_of_ne_nil nodes.values (by
            unfold SortedMap.values
            simpa [List.isEmpty_iff] using hnodes)
          have hmissing := List.find?_eq_none.1 hall node hnode
          rw [Definition.hasFlowNode, hnone] at hmissing
          exact hmissing rfl
  · rw [hfound]
    exact hfind

/-! ## The invariant -/

/-- What has been moved was moved once, and what is still to be moved has one job. -/
structure MovedOnce (definitions : List Definition) (d : Interrupted Workspace) : Prop where
  engine : d.target.Sound
  sameDefinitions : d.target.definitions = definitions
  keys : (TargetState.start definitions).keys.nextLocal ≤ d.target.state.keys.nextLocal
  once : ∀ i ∈ d.target.state.instances, i.terminated.length ≤ 1
  atRest : ∀ i ∈ d.target.state.instances, i.terminated ≠ [] →
    ∀ j ∈ d.target.state.outstanding, j.instanceKey ≠ i.instanceKey
  oneJob : ∀ j ∈ d.target.state.outstanding, ∀ j' ∈ d.target.state.outstanding,
    j.instanceKey = j'.instanceKey → j.jobType = j'.jobType → j.instanceKey ∉ d.startedByOthers →
      OneJobEach definitions j.jobType → j.key = j'.key

/-- Of the jobs of a started instance only one has a type that is listed once. -/
theorem TargetState.eq_of_count_le_one {e : StartedInstance} {j j' : Job} (hj : j ∈ jobsOf e)
    (hj' : j' ∈ jobsOf e) (htype : j.jobType = j'.jobType)
    (hcount : (e.jobs.map (·.jobType)).count j.jobType ≤ 1) : j = j' := by
  have htypes : (jobsOf e).map (·.jobType) = e.jobs.map (·.jobType) := by
    unfold jobsOf
    rw [List.map_map]
    rfl
  rw [← htypes, List.count_eq_countP, List.countP_map, List.countP_eq_length_filter] at hcount
  have hmem : j ∈ (jobsOf e).filter ((· == j.jobType) ∘ (·.jobType)) :=
    List.mem_filter.2 ⟨hj, by simp⟩
  have hmem' : j' ∈ (jobsOf e).filter ((· == j.jobType) ∘ (·.jobType)) :=
    List.mem_filter.2 ⟨hj', by simp [htype]⟩
  rcases Nat.le_one_iff_eq_zero_or_eq_one.1 hcount with hzero | hone
  · rw [List.length_eq_zero_iff.1 hzero] at hmem
    cases hmem
  · obtain ⟨job, hsingle⟩ := List.length_eq_one_iff.1 hone
    rw [hsingle] at hmem hmem'
    exact (List.mem_singleton.1 hmem).trans (List.mem_singleton.1 hmem').symm

namespace MovedOnce

variable {definitions : List Definition} {d : Interrupted Workspace} {t : TargetEngine}
  {request : CreateRequest} {e : StartedInstance}

/-! ## Steps -/

theorem idle (h : MovedOnce definitions d) (ht : d.target.Idle t) :
    MovedOnce definitions (d.withTarget t) := by
  have hsound := ht.sound h.engine
  obtain ⟨a, keys, hdraws, rfl⟩ := ht
  refine { h with engine := hsound, keys := Int.le_trans h.keys ?_ }
  show d.target.state.keys.nextLocal ≤ a.nextLocal
  rw [hdraws.nextLocal]
  omega

/-- One more instance has not been moved, and its jobs are its own. -/
theorem grown (h : MovedOnce definitions d) (ht : t.Sound)
    (hstarts : TargetEngine.Starts request e d.target t) {startedByOthers : List Int}
    (hothers : ∀ key ∈ d.startedByOthers, key ∈ startedByOthers)
    (hcount : e.instanceKey ∉ startedByOthers → ∀ jobType, OneJobEach definitions jobType →
      (e.jobs.map (·.jobType)).count jobType ≤ 1) :
    MovedOnce definitions { d.withTarget t with startedByOthers } := by
  have hd := h.engine
  have hinstances : t.state.instances = _ := hstarts.instances hd
  have hjobs : t.state.outstanding = _ := hstarts.outstanding hd
  -- a job that waited before belongs to another instance
  have hother : ∀ j ∈ d.target.state.outstanding, j.instanceKey ≠ e.instanceKey := by
    intro j hj heq
    obtain ⟨i, hi, hwaits⟩ := hd.state.waits j hj
    exact hstarts.newKey hd hi (hwaits.instanceKey.symm.trans heq)
  have hnew : ∀ j ∈ TargetState.jobsOf e, j.instanceKey = e.instanceKey := by
    intro j hj
    exact (TargetState.mem_jobsOf hj).1.instanceKey
  constructor
  case engine => exact ht
  case sameDefinitions => exact hstarts.definitions.trans h.sameDefinitions
  case keys =>
    obtain ⟨a, hdraws, hstate⟩ := hstarts.state_eq hd
    refine Int.le_trans h.keys ?_
    show d.target.state.keys.nextLocal ≤ t.state.keys.nextLocal
    rw [hstate]
    show d.target.state.keys.nextLocal ≤ a.nextLocal
    rw [hdraws.nextLocal]
    omega
  case once =>
    intro i hi
    have hi' : i ∈ t.state.instances := hi
    rw [hinstances] at hi'
    rcases List.mem_append.1 hi' with hi' | hi'
    · exact h.once i hi'
    · rw [List.mem_singleton.1 hi']
      exact Nat.zero_le 1
  case atRest =>
    intro i hi hmoved j hj
    have hi' : i ∈ t.state.instances := hi
    have hj' : j ∈ t.state.outstanding := hj
    rw [hinstances] at hi'
    rw [hjobs] at hj'
    rcases List.mem_append.1 hi' with hi' | hi'
    · rcases List.mem_append.1 hj' with hj' | hj'
      · exact h.atRest i hi' hmoved j hj'
      · rw [hnew j hj']
        exact (hstarts.newKey hd hi').symm
    · rw [List.mem_singleton.1 hi'] at hmoved
      exact absurd rfl hmoved
  case oneJob =>
    intro j hj j' hj' hkey htype hown hone
    have hj₁ : j ∈ t.state.outstanding := hj
    have hj₂ : j' ∈ t.state.outstanding := hj'
    rw [hjobs] at hj₁ hj₂
    rcases List.mem_append.1 hj₁ with hj₁ | hj₁ <;> rcases List.mem_append.1 hj₂ with hj₂ | hj₂
    · exact h.oneJob j hj₁ j' hj₂ hkey htype (fun hmem => hown (hothers _ hmem)) hone
    · exact absurd (hkey.trans (hnew j' hj₂)) (hother j hj₁)
    · exact absurd (hkey.symm.trans (hnew j hj₁)) (hother j' hj₂)
    · rw [hnew j hj₁] at hown
      exact congrArg _ (TargetState.eq_of_count_le_one hj₁ hj₂ htype (hcount hown _ hone))

/-- Others start an instance. -/
theorem joined (h : MovedOnce definitions d) (ht : t.Sound)
    (hstarts : TargetEngine.Starts request e d.target t) :
    MovedOnce definitions (d.joinedBy t e.instanceKey) :=
  h.grown ht hstarts (fun _ hkey => List.mem_append_left _ hkey) fun hown =>
    absurd (List.mem_append_right _ List.mem_cons_self) hown

/-- The migrator starts an instance. -/
theorem started (h : MovedOnce definitions d) (ht : t.Sound)
    (hstarts : TargetEngine.Starts request e d.target t)
    (hstartable : ∀ d', definitions.find? (fun d => d.key == request.definitionKey) = some d' →
      (TargetState.start definitions).keys.nextLocal + (2 + d'.listeners.length : Nat) ≤ Key.span →
        Definition.Startable definitions d') : MovedOnce definitions (d.withTarget t) := by
  refine h.grown ht hstarts (fun _ hkey => hkey) ?_
  intro _ jobType hone
  obtain ⟨d', hfind, htypes, helement⟩ := hstarts.definition
  rw [h.sameDefinitions] at hfind
  rw [htypes]
  cases hevent : d'.startEvent with
  | none => exact Nat.zero_le 1
  | some event =>
    have hlisteners : d'.listeners = event.listenerJobTypes := by
      unfold Definition.listeners
      rw [hevent]
      rfl
    suffices hroom : (TargetState.start definitions).keys.nextLocal +
        (2 + d'.listeners.length : Nat) ≤ Key.span by
      have hcount := hone d' (hstartable d' hfind hroom)
      rwa [hlisteners] at hcount
    -- the keys of the instance were drawn behind those of the definitions
    obtain ⟨a, hdraws, _⟩ := hstarts.state
    have hlast := (hdraws.within h.engine.state.keys).last
    have hlength : (TargetState.keysOf e).length = 2 + d'.listeners.length := by
      rw [hevent] at helement htypes
      obtain ⟨key, hkey⟩ := Option.isSome_iff_exists.1 (helement.trans rfl)
      have hjobs : e.jobs.length = d'.listeners.length := by
        rw [hlisteners, ← List.length_map (f := fun j : JournalJob => j.jobType), htypes]
        rfl
      simp only [TargetState.keysOf, hkey, Option.toList, List.cons_append, List.nil_append,
        List.length_cons, List.length_map, hjobs]
      omega
    rw [hdraws.nextLocal, hlength] at hlast
    have hkeys := h.keys
    omega

/-- The instance of a job that waits is moved: it has not been before, and all its jobs go. -/
theorem modified (h : MovedOnce definitions d) (ht : t.Sound) {job : Job}
    (hjob : job ∈ d.target.state.outstanding) {activations : List Activation}
    (hstate : t.state = d.target.state.modify (job.modification activations))
    (hdefinitions : t.definitions = d.target.definitions) :
    MovedOnce definitions (d.withTarget t) := by
  obtain ⟨definitions', journal, state⟩ := t
  obtain rfl : state = _ := hstate
  -- a move removes the jobs of the element, and an instance waits at one element only
  have hgone : ∀ j ∈ (d.target.state.modify (job.modification activations)).outstanding,
      j ∈ d.target.state.outstanding ∧ j.instanceKey ≠ job.instanceKey := by
    intro j hj
    obtain ⟨hold, hleft⟩ := TargetState.mem_outstanding_modify.1 hj
    refine ⟨hold, ?_⟩
    intro hkey
    exact TargetState.waitsOn_eq_false.1 hleft hkey
      (h.engine.state.oneElement j hold job hjob hkey)
  constructor
  case engine => exact ht
  case sameDefinitions => exact hdefinitions.trans h.sameDefinitions
  case keys => exact h.keys
  case once =>
    intro i hi
    obtain ⟨i', hold, rfl⟩ := TargetState.exists_of_mem_modify hi
    by_cases hkey : i'.instanceKey = job.instanceKey
    · have hfirst : i'.terminated = [] := by
        by_contra hmoved
        exact h.atRest i' hold hmoved job hjob hkey.symm
      have hafter : TargetState.afterModify (job.modification activations) i' =
          TargetState.moved (job.modification activations) i' := if_pos (beq_iff_eq.2 hkey)
      rw [hafter]
      show (i'.terminated ++ [_]).length ≤ 1
      rw [hfirst]
      exact Nat.le_refl 1
    · rw [TargetState.afterModify_of_ne hkey]
      exact h.once i' hold
  case atRest =>
    intro i hi hmoved j hj
    obtain ⟨hold, hother⟩ := hgone j hj
    obtain ⟨i', hi', rfl⟩ := TargetState.exists_of_mem_modify hi
    rw [TargetState.instanceKey_afterModify]
    by_cases hkey : i'.instanceKey = job.instanceKey
    · rw [hkey]
      exact hother
    · rw [TargetState.afterModify_of_ne hkey] at hmoved
      exact h.atRest i' hi' hmoved j hold
  case oneJob => exact fun j hj j' hj' => h.oneJob j (hgone j hj).1 j' (hgone j' hj').1

/-- Handing out jobs changes nothing. -/
theorem arrived (h : MovedOnce definitions d) (ht : t.Sound) {jobs : List Job}
    (hstate : t.state = d.target.state.handOut jobs)
    (hdefinitions : t.definitions = d.target.definitions) :
    MovedOnce definitions ((d.withTarget t).arrived jobs) := by
  obtain ⟨definitions', journal, state⟩ := t
  obtain rfl : state = _ := hstate
  exact ⟨ht, hdefinitions.trans h.sameDefinitions, h.keys, h.once, h.atRest, h.oneJob⟩

/-- Opening the engine again on the same definitions changes nothing. -/
theorem reopened (h : MovedOnce definitions d) {path : String}
    (hopen : TargetEngine.open definitions path d.target.journal = .ok t) :
    MovedOnce definitions (d.withTarget t) := by
  obtain ⟨hsound, halike, hdefinitions, _⟩ := TargetEngine.open_sound h.engine hopen
  constructor
  case engine => exact hsound
  case sameDefinitions => exact hdefinitions
  case keys => exact TargetEngine.nextLocal_le_open hopen
  case once =>
    intro i hi
    obtain ⟨i', hi', _, _, hterminated, _⟩ := halike.exists_instance hi
    rw [← hterminated]
    exact h.once i' hi'
  case atRest =>
    intro i hi hmoved j hj
    obtain ⟨i', hi', hkey, _, hterminated, _⟩ := halike.exists_instance hi
    obtain ⟨j', hj', _, _, hinstance, _⟩ := halike.exists_job hj
    rw [← hkey, ← hinstance]
    exact h.atRest i' hi' (hterminated ▸ hmoved) j' hj'
  case oneJob =>
    intro j hj j' hj' hkey htype hown hone
    obtain ⟨k, hk, hkkey, hktype, hkinstance, _⟩ := halike.exists_job hj
    obtain ⟨k', hk', hkkey', hktype', hkinstance', _⟩ := halike.exists_job hj'
    rw [← hkkey, ← hkkey']
    rw [← hkinstance] at hown
    rw [← hktype] at hone
    exact h.oneJob k hk k' hk' (by rw [hkinstance, hkinstance', hkey])
      (by rw [hktype, hktype', htype]) hown hone

end MovedOnce

/-! ## Steps of a run -/

namespace Workspace

/-- The invariant of a run over these definitions. -/
def MovedOnceRun (definitions : List Definition) (s : RunState (Interrupted Workspace)) : Prop :=
  MovedOnce definitions s.world

variable {definitions : List Definition} {settings : MigrationSettings} {pipeline : Pipeline}
  {job : Job} {jobs : List Job}

theorem stable_movedOnce (definitions : List Definition) :
    Run.Stable jobEngine (MovedOnceRun definitions) :=
  Run.stable_of_starts (fun _ h => h.engine) (fun _ _ h => { h with }) (fun _ _ h ht => h.idle ht)
    fun _ _ _ _ h ht hstarts => h.joined ht hstarts

theorem create_movedOnce {i : SourceInstance} {prepared : Prepared}
    (hfits : prepared.Fits settings definitions i) :
    Triple (MovedOnceRun definitions)
      (Run.engine ((interruptedMigrator settings pipeline).env.target.createInstance
        prepared.request))
      (fun _ => MovedOnceRun definitions) (MovedOnceRun definitions) := by
  refine Run.target_call (M := MovedOnceRun definitions) .createInstance
    (.send (.create prepared.request)) (TargetEngine.createInstance prepared.request)
    (stable_movedOnce definitions) (fun s hs => { (show MovedOnce _ _ from hs) with })
    (fun _ hs => hs) ?_ fun _ _ h => h
  intro s hs
  refine (TargetEngine.createInstance_triple hs.engine prepared.request).ends
    ?_ fun t ht => hs.idle ht
  rintro handle t ⟨hsound, e, _, hstarts⟩
  exact hs.started hsound hstarts fun d hfind hroom => hfits.startable hfind hroom

/-- The mapping store has no part in it. -/
theorem store_keeps_movedOnce {α : Type} (x : StoreTables → StoreAction α) :
    Triple (MovedOnceRun definitions)
      (Run.store (Interrupted.storeCall environment (onStore x)))
      (fun _ => MovedOnceRun definitions) (MovedOnceRun definitions) := by
  refine Run.store_call x (stable_movedOnce definitions) (fun _ h => h) ?_ fun _ _ h => h
  intro s hs
  have hnow : ∀ db, MovedOnceRun definitions (s.withDatabase db) := by
    intro db
    exact { (show MovedOnce _ _ from hs) with }
  intro db _
  split
  · exact hnow _
  · exact hnow _

theorem start_movedOnce {i : SourceInstance} {prepared : Prepared}
    (hfits : prepared.Fits settings definitions i) (writeKey : Int → StoreTables → StoreAction Unit) :
    Triple (MovedOnceRun definitions)
      ((interruptedMigrator settings pipeline).start i prepared fun key =>
        Interrupted.storeCall environment (onStore (writeKey key)))
      (fun _ => MovedOnceRun definitions) (MovedOnceRun definitions) := by
  unfold Migrator.start
  refine Triple.bind (create_movedOnce hfits) ?_
  intro handle
  exact Triple.bind (store_keeps_movedOnce _) fun _ => Triple.modify fun s hs => hs

/-! ## Handing over -/

/-- The invariant of a batch: its jobs still wait, and no two of them belong to one instance of the
migrator. -/
structure InTurn (definitions : List Definition) (jobs : List Job)
    (s : RunState (Interrupted Workspace)) : Prop where
  inHand : InHand definitions jobs s
  movedOnce : MovedOnceRun definitions s
  waiting : ∀ j ∈ jobs, j ∈ s.world.target.state.outstanding
  apart : jobs.Pairwise fun j j' => j.instanceKey = j'.instanceKey →
    j.instanceKey ∈ s.world.startedByOthers

theorem InTurn.fewer {s : RunState (Interrupted Workspace)} (h : InTurn definitions jobs s)
    {jobs' : List Job} (hsub : jobs'.Sublist jobs) : InTurn definitions jobs' s where
  inHand := ⟨h.inHand.owned, fun j hj => h.inHand.handedOut j (hsub.subset hj)⟩
  movedOnce := h.movedOnce
  waiting j hj := h.waiting j (hsub.subset hj)
  apart := h.apart.sublist hsub

theorem InTurn.failed {s : RunState (Interrupted Workspace)} (h : InTurn definitions jobs s) :
    OwnedRun definitions s ∧ MovedOnceRun definitions s :=
  ⟨h.inHand.owned, h.movedOnce⟩

theorem stable_inTurn (definitions : List Definition) (jobs : List Job) :
    Run.Stable jobEngine (InTurn definitions jobs) := by
  have hinHand := stable_inHand definitions jobs
  have hmovedOnce := stable_movedOnce definitions
  refine Run.stable_of_starts (fun _ h => h.movedOnce.engine) ?_ ?_ ?_
  · intro s coming h
    exact ⟨((hinHand s).coming _ coming h.inHand), ((hmovedOnce s).coming _ coming h.movedOnce),
      h.waiting, h.apart⟩
  · intro s t h ht
    refine ⟨⟨h.inHand.owned.idle ht, h.inHand.handedOut⟩, h.movedOnce.idle ht, ?_, h.apart⟩
    obtain ⟨a, keys, _, rfl⟩ := ht
    exact h.waiting
  · intro s t request e h ht hstarts
    refine ⟨⟨h.inHand.owned.joined ht hstarts, h.inHand.handedOut⟩, h.movedOnce.joined ht hstarts,
      ?_, h.apart.imp fun hmem hkey => List.mem_append_left _ (hmem hkey)⟩
    intro j hj
    show j ∈ t.state.outstanding
    rw [hstarts.outstanding h.movedOnce.engine]
    exact List.mem_append_left _ (h.waiting j hj)

theorem activationsFor_inTurn {id : String} (hid : job.legacyId? = some id) :
    Triple (InTurn definitions (job :: jobs))
      ((interruptedMigrator settings pipeline).activationsFor id job.instanceKey)
      (fun found s => InTurn definitions (job :: jobs) s ∧
        (found.isSome = true → s.world.world.MapsTo id job.instanceKey))
      (fun s => OwnedRun definitions s ∧ MovedOnceRun definitions s) := by
  have herase : ∀ s key, InTurn definitions (job :: jobs) s →
      InTurn definitions (job :: jobs) { s with pending := s.pending.erase key } := by
    intro s key hs
    refine ⟨⟨?_, hs.inHand.handedOut⟩, hs.movedOnce, hs.waiting, hs.apart⟩
    exact Owned.forgets hs.inHand.owned fun p hp => (List.mem_filter.1 hp).1
  have hkeeps : Triple (InTurn definitions (job :: jobs))
      ((interruptedMigrator settings pipeline).activationsFor id job.instanceKey)
      (fun _ => InTurn definitions (job :: jobs)) (InTurn definitions (job :: jobs)) :=
    activationsFor_keeps (stable_inTurn definitions (job :: jobs))
      (fun _ hs => hs.movedOnce.sameDefinitions) herase id job.instanceKey
  have hmaps : Triple (InHand definitions (job :: jobs))
      ((interruptedMigrator settings pipeline).activationsFor id job.instanceKey)
      (fun found s => InHand definitions (job :: jobs) s ∧
        (found.isSome = true → s.world.world.MapsTo id job.instanceKey))
      (InHand definitions (job :: jobs)) :=
    activationsFor_owned List.mem_cons_self hid
  exact (hkeeps.and hmaps).conseq (fun s hs => ⟨hs, hs.inHand⟩) (fun _ _ hs => ⟨hs.1, hs.2.2⟩)
    fun s hs => hs.1.failed

theorem modify_inTurn {id : String} (hid : job.legacyId? = some id)
    (activations : List Activation) :
    Triple (fun s => InTurn definitions (job :: jobs) s ∧
        s.world.world.MapsTo id job.instanceKey)
      (Run.engine ((interruptedMigrator settings pipeline).env.target.modifyInstance
        job.instanceKey job.elementInstanceKey activations))
      (fun _ => InTurn definitions jobs)
      (fun s => OwnedRun definitions s ∧ MovedOnceRun definitions s) := by
  refine Run.target_call
    (M := fun s => InTurn definitions (job :: jobs) s ∧ s.world.world.MapsTo id job.instanceKey)
    .modifyInstance (.send (.modify job.instanceKey job.elementInstanceKey activations))
    (TargetEngine.modifyInstance job.instanceKey job.elementInstanceKey activations)
    ((stable_inTurn definitions (job :: jobs)).and (Run.stable_of_apart (fun _ _ h => h)
      fun _ _ _ h => h)) ?_ (fun _ h => h.1.failed) ?_ fun _ _ h => h.failed
  · intro s ⟨hs, hmaps⟩
    have howned : Owned definitions s.world s.pending := hs.inHand.owned
    have hmoved : MovedOnce definitions s.world := hs.movedOnce
    have hhanded := hs.inHand.handedOut
    exact ⟨⟨⟨howned.sentFor (hhanded job List.mem_cons_self) hid hmaps activations, hhanded⟩,
      { hmoved with }, hs.waiting, hs.apart⟩, hmaps⟩
  · intro s ⟨hs, hmaps⟩
    have howned : Owned definitions s.world s.pending := hs.inHand.owned
    refine (TargetEngine.modifyInstance_triple howned.engine
      (job.modification activations)).ends ?_ ?_
    · intro _ t ⟨ht, hstate, hdefinitions⟩
      refine ⟨⟨howned.modified ht hstate hdefinitions hmaps, ?_⟩,
        hs.movedOnce.modified ht (hs.waiting job List.mem_cons_self) hstate hdefinitions,
        ?_, (List.pairwise_cons.1 hs.apart).2⟩
      · intro j hj
        exact hs.inHand.handedOut j (List.mem_cons_of_mem _ hj)
      · intro j hj
        show j ∈ t.state.outstanding
        rw [hstate]
        refine TargetState.mem_outstanding_modify.2 ⟨hs.waiting j (List.mem_cons_of_mem _ hj),
          TargetState.waitsOn_eq_false.2 ?_⟩
        intro hkey
        -- the instance of the job is the migrator's own, so the others belong to other instances
        have hothers := (List.pairwise_cons.1 hs.apart).1 j hj hkey.symm
        exact absurd hothers (howned.mapped id _ hmaps).2
    · intro t ht
      rw [ht]
      exact hs.failed

theorem handOver_inTurn :
    Triple (InTurn definitions (job :: jobs)) ((interruptedMigrator settings pipeline).handOver job)
      (fun _ => InTurn definitions jobs)
      (fun s => OwnedRun definitions s ∧ MovedOnceRun definitions s) := by
  have hdone : ∀ s, InTurn definitions (job :: jobs) s → InTurn definitions jobs s :=
    fun s hs => hs.fewer (List.sublist_cons_self job jobs)
  unfold Migrator.handOver
  split
  · exact Triple.modify fun s hs => { hdone s hs with inHand := { (hdone s hs).inHand with } }
  · next legacyId hid =>
    refine Triple.bind (activationsFor_inTurn hid) ?_
    intro found
    cases found with
    | none =>
      exact Triple.modify fun s hs =>
        { hdone s hs.1 with inHand := { (hdone s hs.1).inHand with } }
    | some activations =>
      refine Triple.bind ((modify_inTurn hid activations).pre fun s hs => ⟨hs.1, hs.2 rfl⟩) ?_
      intro _
      exact Triple.modify fun s hs => { hs with inHand := { hs.inHand with } }

/-- Jobs come one at a time, or one for each instance of the migrator. -/
theorem fetch_inTurn (hsettings : settings.maxJobs ≤ 1 ∨ OneJobEach definitions settings.jobType) :
    Triple (fun s => OwnedRun definitions s ∧ MovedOnceRun definitions s)
      (Run.engine ((interruptedMigrator settings pipeline).env.target.activateJobs
        settings.jobType settings.maxJobs))
      (fun jobs => InTurn definitions jobs)
      (fun s => OwnedRun definitions s ∧ MovedOnceRun definitions s) := by
  refine Run.fetch_call settings.jobType settings.maxJobs
    ((stable_owned definitions).and (stable_movedOnce definitions)) (fun s hs => hs.2.engine)
    (fun s hs => hs) ?_ fun _ _ h => h.failed
  intro s t jobs ⟨howned, hmoved⟩ ht hjobs hstate hdefinitions
  have hfrom : ∀ j ∈ jobs, j ∈ s.world.target.state.outstanding ∧
      j.jobType = settings.jobType := by
    intro j hj
    rw [hjobs] at hj
    obtain ⟨hout, hfilter⟩ := List.mem_filter.1 (List.mem_of_mem_take hj)
    exact ⟨hout, by simpa using (Bool.and_eq_true_iff.1 hfilter).1⟩
  refine ⟨⟨Owned.arrived howned ht (fun j hj => (hfrom j hj).1) hstate hdefinitions,
    fun j hj => List.mem_append_right _ hj⟩, hmoved.arrived ht hstate hdefinitions, ?_, ?_⟩
  · intro j hj
    show j ∈ t.state.outstanding
    rw [hstate]
    exact (hfrom j hj).1
  · -- one job in a batch, or one job of the type in an instance: no two wait in it for one instance
    rcases hsettings with hmax | hone
    · have hlength : jobs.length ≤ 1 := by
        rw [hjobs]
        exact Nat.le_trans (List.length_take_le _ _) hmax
      match jobs, hlength with
      | [], _ => exact .nil
      | [j], _ => exact List.pairwise_singleton _ j
    · have hdistinct : jobs.Pairwise fun j j' => j.key ≠ j'.key := by
        rw [hjobs]
        have hsub := (List.take_sublist settings.maxJobs _).trans (List.filter_sublist
          (p := fun j : Job => j.jobType == settings.jobType &&
            !s.world.target.state.handedOut.contains j.key) (l := s.world.target.state.outstanding))
        exact List.pairwise_map.1 ((hsub.map _).nodup hmoved.engine.state.jobKeys)
      apply hdistinct.imp_of_mem
      intro j j' hj hj' hne hkey
      obtain ⟨hout, htype⟩ := hfrom j hj
      obtain ⟨hout', htype'⟩ := hfrom j' hj'
      by_contra hown
      exact hne (hmoved.oneJob j hout j' hout' hkey (htype.trans htype'.symm) hown
        (htype.symm ▸ hone))

theorem drain_movedOnce
    (hsettings : settings.maxJobs ≤ 1 ∨ OneJobEach definitions settings.jobType) :
    Triple (fun s => OwnedRun definitions s ∧ MovedOnceRun definitions s)
      (interruptedMigrator settings pipeline).drain
      (fun _ s => OwnedRun definitions s ∧ MovedOnceRun definitions s)
      (fun s => OwnedRun definitions s ∧ MovedOnceRun definitions s) :=
  Migrator.HandsOver.drain (B := InTurn definitions)
    { giveUp := fun _ hs => ⟨Owned.forgets hs.1 fun _ hp => (by cases hp), hs.2⟩
      fetch := fetch_inTurn hsettings
      fewer := fun _ _ _ hsub hs => hs.fewer hsub
      noJobs := fun _ hs => hs.failed
      handOver := fun _ _ => handOver_inTurn
      failed := fun _ hs => hs }

/-! ## Runs -/

/-- A run moves no instance again, wherever it is broken off. -/
theorem run_movedOnce
    (hsettings : settings.maxJobs ≤ 1 ∨ OneJobEach definitions settings.jobType) (mode : Mode) :
    Triple (fun s => OwnedRun definitions s ∧ MovedOnceRun definitions s)
      ((interruptedMigrator settings pipeline).run mode)
      (fun _ s => OwnedRun definitions s ∧ MovedOnceRun definitions s)
      (fun s => OwnedRun definitions s ∧ MovedOnceRun definitions s) :=
  run_keeps ((stable_owned definitions).and (stable_movedOnce definitions))
    (fun _ hs => hs.2.sameDefinitions) (fun _ _ _ _ hs => hs) (fun _ hs => hs)
    (drain_movedOnce hsettings)
    (fun i _ hfits => (start_owned hfits fun _ => insertKey_owned _).and
      (start_movedOnce hfits fun key t => Store.insert t (.migrated i.id key i.startTime)))
    (fun i _ hfits => (start_owned hfits fun _ => update_owned).and
      (start_movedOnce hfits fun key t => Store.update t i.id key))
    (fun i reason => (insertSkipped_owned _ _).and
      (store_keeps_movedOnce fun t => Store.insert t (.skipped i.id i.startTime reason))) mode

end Workspace

/-! ## Sessions -/

/-- A pass asks for jobs of a type with a limit that are among these, and the target engine is opened
again on the same definitions. -/
def Event.Uses (definitions : List Definition) (used : String → Nat → Prop) : Event → Prop
  | .pass p => used p.settings.jobType p.settings.maxJobs
  | .reopen definitions' => definitions' = definitions
  | _ => True

namespace Session

open Workspace

/-- A session over a list of definitions, from an absent journal and an empty store on, whose passes
ask for jobs in these ways only. -/
def Over (definitions : List Definition) (used : String → Nat → Prop) (s : Session) : Prop :=
  ∃ w events, w.target = ⟨definitions, .absent, .start definitions⟩ ∧
    w.tables.Holds [] w.database ∧ (∀ e ∈ events, Event.Uses definitions used e) ∧
    s = (start w).after events

variable {definitions : List Definition} {used : String → Nat → Prop}

theorem start_movedOnce {w : Workspace}
    (hjournal : w.target = ⟨definitions, .absent, .start definitions⟩) :
    MovedOnce definitions (start w).state := by
  have hstate : w.target.state = .start definitions := by rw [hjournal]
  constructor
  case engine =>
    show w.target.Sound
    rw [hjournal]
    exact TargetEngine.sound_start definitions
  case sameDefinitions =>
    show w.target.definitions = definitions
    rw [hjournal]
  case keys =>
    show _ ≤ w.target.state.keys.nextLocal
    exact Int.le_of_eq (congrArg (fun t : TargetState => t.keys.nextLocal) hstate.symm)
  case once =>
    intro i hi
    have hi' : i ∈ w.target.state.instances := hi
    rw [hstate] at hi'
    cases hi'
  case atRest =>
    intro i hi
    have hi' : i ∈ w.target.state.instances := hi
    rw [hstate] at hi'
    cases hi'
  case oneJob =>
    intro j hj
    have hj' : j ∈ w.target.state.outstanding := hj
    rw [hstate] at hj'
    cases hj'

theorem step_movedOnce {s : Session} {e : Event} (he : Event.Uses definitions used e)
    (hused : ∀ jobType maxJobs, used jobType maxJobs →
      maxJobs ≤ 1 ∨ OneJobEach definitions jobType)
    (h : Owned definitions s.state s.pending ∧ MovedOnce definitions s.state) :
    Owned definitions (s.step e).state (s.step e).pending ∧
      MovedOnce definitions (s.step e).state := by
  obtain ⟨howned, hmoved⟩ := h
  cases e with
  | pass p =>
    refine step_pass (P := fun s => Owned definitions s.state s.pending ∧
      MovedOnce definitions s.state) (run_movedOnce (hused _ _ he) p.mode) ?_ ?_
    · exact ⟨{ howned with }, { hmoved with }⟩
    · intro r hr
      obtain ⟨hr, hr'⟩ := hr
      exact ⟨{ (show Owned definitions r.world r.pending from hr) with },
        { (show MovedOnce definitions r.world from hr') with }⟩
  | rebuild => exact ⟨howned.forgets fun _ hp => (by cases hp), hmoved⟩
  | reopen definitions' =>
    obtain rfl : definitions' = definitions := he
    refine step_reopen (P := fun s => Owned definitions' s.state s.pending ∧
      MovedOnce definitions' s.state) ⟨howned, hmoved⟩ ?_
    intro target hopen
    exact ⟨howned.reopened hopen, hmoved.reopened hopen⟩
  | reload source => exact ⟨{ howned with }, { hmoved with }⟩
  | startByOther request =>
    have hstable := (stable_owned definitions).and (stable_movedOnce definitions)
    exact (hstable { world := s.state, pending := s.pending }).startByOther s.state request
      ⟨howned, hmoved⟩

/-- No instance is moved twice where jobs come one at a time, or no definition that the migrator can
have an instance started of lists their type twice. -/
theorem moved_once (hused : ∀ jobType maxJobs, used jobType maxJobs →
      maxJobs ≤ 1 ∨ OneJobEach definitions jobType) {s : Session} (h : s.Over definitions used) :
    ∀ i ∈ s.world.target.state.instances, i.terminated.length ≤ 1 := by
  obtain ⟨w, events, hjournal, hempty, hevents, rfl⟩ := h
  have hall := after_keeps (P := fun s => Owned definitions s.state s.pending ∧
    MovedOnce definitions s.state) (fun e he _ hs => step_movedOnce (hevents e he) hused hs)
    (s := start w) ⟨start_owned hjournal hempty, start_movedOnce hjournal⟩
  exact hall.2.once

end Session
end ProcessMigration
