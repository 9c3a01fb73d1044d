import Mathlib.Tactic.TFAE
import ProcessMigration.Proofs.HandOverOnce
import ProcessMigration.Proofs.Undisturbed

/-!
# An instance is moved twice

An instance whose start event lists a job type twice has two jobs of it. Where both come in one
batch, the first moves the instance; the second was taken away from the target engine by that, but it
still is in the batch, what it stands for is resolved again, and the instance is moved a second time.

* `TwiceListed.waitingAt` is a source instance of any definition that can be started;
* `TwiceListed.handOver_waiting`: each job of a mapped instance moves it, whatever has become of it;
* `TwiceListed.run_waiting`: a pass that nothing disturbs moves the instance twice;
* `Session.moved_once_tfae` puts this together with the invariant of `MovedOnce`: they say exactly when
  no instance is moved twice.
-/

namespace ProcessMigration

open ProcessMigration.Action (Triple)

namespace TwiceListed

variable {α : Type}

/-! ## An instance that waits -/

/-- A source instance of the process of a definition, with a token before a flow node. -/
def waitingAt (d : Definition) (node : String) : SnapshotInstance :=
  ⟨⟨"a", d.businessId, "", d.tenant, none⟩,
    ⟨"a", "", "process", none, [], [⟨"t", node, "userTask", none⟩]⟩, [], .empty⟩

/-- The settings of a pass that asks for so many jobs of a type at once. -/
def asksFor (jobType : String) (maxJobs : Nat) : MigrationSettings :=
  { jobType, maxJobs, jobTypeValidation := false }

/-- What is prepared for it. -/
def preparedFor (d : Definition) (node : String) : Prepared :=
  ⟨⟨d.key, d.businessId, d.tenant, Migrator.withLegacyId "a" .empty⟩, [⟨node, .empty⟩]⟩

/-- The migrator that asks so. -/
def migratorFor (jobType : String) (maxJobs : Nat) : Migrator (Interrupted Workspace) :=
  Workspace.interruptedMigrator (asksFor jobType maxJobs) .empty

/-- The snapshot is that instance, and the definitions are these. -/
structure Shows (definitions : List Definition) (d : Definition) (node : String) (w : Workspace) :
    Prop where
  source : w.source = ⟨[waitingAt d node]⟩
  definitions : w.target.definitions = definitions

variable {definitions : List Definition} {d : Definition} {node jobType : String} {maxJobs : Nat}

theorem search_waitingAt {type : String} (htype : type ≠ "process") :
    (waitingAt d node).tree.search type = [] := by
  have hroot : (waitingAt d node).tree.isOf type = false := beq_eq_false_iff_ne.2 htype.symm
  unfold Activity.search Activity.searchAll
  rw [hroot]
  exact Activity.searchAll.eq_1 type

theorem check_answers {P R : Interrupted Workspace → Prop} {r : Except ValidationError α} {a : α}
    (hr : r = .ok a) : Triple P (Migrator.check r) (fun b d => b = a ∧ P d) R := by
  subst hr
  intro d hd
  exact ⟨rfl, hd⟩

/-- It has no variables. -/
theorem transformed_waiting {P : Workspace → Prop} (hP : ∀ w, P w → Shows definitions d node w)
    (scopeId : String) :
    Triple (Interrupted.Quiet P) ((migratorFor jobType maxJobs).transformed scopeId)
      (fun vs d => vs = .empty ∧ Interrupted.Quiet P d) (fun _ => False) := by
  refine Triple.bind_eq (a := []) (Triple.mapError (Interrupted.query_answers ?_))
    fun d hd => ⟨rfl, hd⟩
  intro w hw
  show (Except.ok (w.source.variablesOf scopeId), w) = _
  rw [(hP w hw).source]
  rfl

/-- The one flow node where it waits is one of the definition. -/
theorem checkDefinition_waiting (hevent : d.startEvent.isSome = true) (hnode : node ∈ d.flowNodeIds) :
    (asksFor jobType maxJobs).validator.checkDefinition d
      (FlowNode.resolve (asksFor jobType maxJobs).strategy .empty (waitingAt d node).tree) =
        .ok () := by
  obtain ⟨event, hevent⟩ := Option.isSome_iff_exists.1 hevent
  have hfound : d.hasFlowNode node = true := by
    unfold Definition.hasFlowNode
    simpa using hnode
  have hknown : ([(⟨node, none, none, .transition⟩ : FlowNode)].find? fun n =>
      !d.hasFlowNode n.activityId) = none := by
    rw [List.find?_cons_of_neg (by simp [hfound]), List.find?_nil]
  unfold Validator.checkDefinition
  rw [hevent]
  dsimp only
  split
  · next htype => cases htype
  · split
    · next n hunknown => cases hknown.symm.trans hunknown
    · rfl

/-- The questions and checks of a preparation, in their order, all come out well. -/
theorem resolveAll_waiting (hcurrent : d.Current definitions) (hevent : d.startEvent.isSome = true)
    (hnode : node ∈ d.flowNodeIds) {P : Workspace → Prop}
    (hP : ∀ w, P w → Shows definitions d node w) :
    Triple (Interrupted.Quiet P) ((migratorFor jobType maxJobs).resolveAll (waitingAt d node).inst)
      (fun r s => r = preparedFor d node ∧ Interrupted.Quiet P s) (fun _ => False) := by
  unfold Migrator.resolveAll
  refine Triple.bind_eq (a := (waitingAt d node).tree) (Triple.mapError
    (Interrupted.query_answers ?_)) ?_
  · intro w hw
    show (w.source.activityTree "a", w) = _
    rw [(hP w hw).source]
    rfl
  refine Triple.bind_eq (check_answers (a := ()) ?_) ?_
  · unfold Validator.checkTree
    rw [search_waitingAt (by decide), search_waitingAt (by decide)]
    rfl
  refine Triple.bind_eq (a := .empty) (M := Interrupted.Quiet P) (fun d hd => ⟨rfl, hd⟩) ?_
  refine Triple.bind_eq (check_answers (a := ()) rfl) ?_
  refine Triple.bind_eq (a := Definition.ofBusiness definitions d.businessId) (Triple.mapError
    (Interrupted.query_answers ?_)) ?_
  · intro w hw
    rw [← (hP w hw).definitions]
    rfl
  refine Triple.bind_eq (check_answers (Definition.select_of_current rfl rfl hcurrent)) ?_
  refine Triple.bind_eq (check_answers (checkDefinition_waiting hevent hnode)) ?_
  refine Triple.bind_eq (transformed_waiting hP _) ?_
  refine Triple.bind_eq (a := [⟨node, .empty⟩]) (M := Interrupted.Quiet P) ?_ ?_
  · show Triple _ ((migratorFor jobType maxJobs).activations
      [("t", ⟨node, none, none, .transition⟩)]) _ _
    unfold Migrator.activations
    refine Triple.bind_eq (transformed_waiting hP _) ?_
    refine Triple.bind_eq (a := []) (M := Interrupted.Quiet P) (fun d hd => ⟨rfl, hd⟩) ?_
    exact Triple.pure fun d hd => ⟨rfl, hd⟩
  · exact Triple.pure fun d hd => ⟨rfl, hd⟩

/-- The instance can be carried over. -/
theorem prepare_waiting (hcurrent : d.Current definitions) (hevent : d.startEvent.isSome = true)
    (hnode : node ∈ d.flowNodeIds) {P : Workspace → Prop}
    (hP : ∀ w, P w → Shows definitions d node w) :
    Triple (Run.Quiet P) (Run.call ((migratorFor jobType maxJobs).prepare (waitingAt d node).inst))
      (fun r s => r = .ready (preparedFor d node) ∧ Run.Quiet P s) (fun _ => False) := by
  apply Run.call_triple
  intro s c hc
  have hresolves : Triple (Interrupted.Quiet P)
      ((migratorFor jobType maxJobs).resolveAll (waitingAt d node).inst)
      (fun r s => r = preparedFor d node ∧ Interrupted.Quiet P s) (fun _ => False) :=
    resolveAll_waiting hcurrent hevent hnode hP
  have hrun := hresolves c hc
  unfold Action.run at hrun
  unfold Action.run Migrator.prepare
  rcases hresolve : (migratorFor jobType maxJobs).resolveAll (waitingAt d node).inst c with ⟨r, c'⟩
  rw [hresolve] at hrun
  cases r with
  | ok prepared =>
    obtain ⟨rfl, hc'⟩ := hrun
    exact ⟨rfl, hc'⟩
  | error e => exact hrun.elim

/-! ## Starting it -/

/-- Nothing has been carried over yet. -/
structure Untouched (definitions : List Definition) (d : Definition) (node : String)
    (w : Workspace) : Prop where
  source : w.source = ⟨[waitingAt d node]⟩
  target : w.target = ⟨definitions, .absent, .start definitions⟩
  records : w.tables.Holds [] w.database

/-- The instance of this key is mapped, and these element instances of it were terminated. -/
structure MovedOff (definitions : List Definition) (d : Definition) (node : String) (key : Int)
    (terminated : List Int) (w : Workspace) : Prop where
  shown : Shows definitions d node w
  engine : w.target.Sound
  mapped : w.MapsTo "a" key
  there : ∃ i ∈ w.target.state.instances, i.instanceKey = key ∧ i.terminated = terminated

/-- The instance was started by this entry. -/
structure Begun (definitions : List Definition) (d d' : Definition) (node : String)
    (e : StartedInstance) (w : Workspace) : Prop where
  movedOff : MovedOff definitions d node e.instanceKey [] w
  jobs : e.jobs.map (·.jobType) = d'.listeners
  carriesId : legacyIdOf e.vars = some "a"
  outstanding : w.target.state.outstanding = TargetState.jobsOf e
  handedOut : w.target.state.handedOut = []

theorem Untouched.shown {w : Workspace} (h : Untouched definitions d node w) :
    Shows definitions d node w :=
  ⟨h.source, by rw [h.target]⟩

/-- The instance as it was created, before its record is written. -/
structure Created (definitions : List Definition) (d d' : Definition) (node : String)
    (e : StartedInstance) (w : Workspace) : Prop where
  shown : Shows definitions d node w
  engine : w.target.Sound
  records : w.tables.Holds [] w.database
  jobs : e.jobs.map (·.jobType) = d'.listeners
  carriesId : legacyIdOf e.vars = some "a"
  instances : w.target.state.instances = [TargetState.instanceOf e]
  outstanding : w.target.state.outstanding = TargetState.jobsOf e
  handedOut : w.target.state.handedOut = []

variable {d' : Definition} {event : StartEvent}

theorem create_waiting (hfirst : definitions.find? (fun e => e.key == d.key) = some d')
    (hevent : d'.startEvent = some event)
    (hroom : (TargetState.start definitions).keys.nextLocal +
      (2 + event.listenerJobTypes.length : Nat) ≤ Key.span) :
    Triple (Run.Quiet (Untouched definitions d node))
      (Run.engine ((migratorFor jobType maxJobs).env.target.createInstance
        (preparedFor d node).request))
      (fun handle => Run.Quiet fun w => ∃ e, handle.instanceKey = e.instanceKey ∧
        Created definitions d d' node e w) (fun _ => False) := by
  refine Run.target_quiet (x := TargetEngine.createInstance (preparedFor d node).request) ?_
  intro w hw
  have htarget := hw.target
  have hsound : w.target.Sound := by
    rw [htarget]
    exact TargetEngine.sound_start definitions
  have hserves : w.target.Serves (2 + event.listenerJobTypes.length) := by
    rw [htarget]
    exact ⟨hroom, [], .inl ⟨rfl, rfl⟩⟩
  have hfind : w.target.definitions.find? (fun e => e.key == (preparedFor d node).request.definitionKey) =
      some d' := by
    rw [htarget]
    exact hfirst
  refine ((TargetEngine.createInstance_triple hsound _).and
    (TargetEngine.createInstance_succeeds hfind hevent hserves)).conseq (fun _ h => ⟨h, h⟩) ?_
    fun _ h => h.2
  rintro handle t ⟨⟨ht, e, hkey, hstarts⟩, _⟩
  obtain ⟨d₁, hfind₁, hjobs, _⟩ := hstarts.definition
  -- the instance has the jobs of the definition that was found first
  rw [hfind] at hfind₁
  cases hfind₁
  have hstate : w.target.state = .start definitions := by rw [htarget]
  refine ⟨e, hkey, ⟨hw.source, ?_⟩, ht, hw.records, hjobs, ?_, ?_, ?_, ?_⟩
  · show t.definitions = definitions
    rw [hstarts.definitions, htarget]
  · rw [hstarts.vars]
    rfl
  · show t.state.instances = _
    rw [hstarts.instances hsound, hstate]
    rfl
  · show t.state.outstanding = _
    rw [hstarts.outstanding hsound, hstate]
    rfl
  · show t.state.handedOut = _
    rw [hstarts.handedOut hsound, hstate]
    rfl

theorem record_waiting (e : StartedInstance) :
    Triple (Run.Quiet (Created definitions d d' node e))
      (Run.store ((migratorFor jobType maxJobs).env.store.insert
        (.migrated "a" e.instanceKey none)))
      (fun _ => Run.Quiet (Begun definitions d d' node e)) (fun _ => False) := by
  refine Run.store_quiet (x := fun t => Store.insert t (.migrated "a" e.instanceKey none)) ?_
  intro w hw
  refine (Store.insert_nil _ _ _ _).conseq (fun db hdb => hdb ▸ hw.records) ?_ fun _ h => h
  intro _ db hdb
  refine ⟨⟨⟨hw.shown.source, hw.shown.definitions⟩, hw.engine, ?_, ?_⟩, hw.jobs, hw.carriesId,
    hw.outstanding, hw.handedOut⟩
  · show ((Store.targetKey? w.tables "a").run db).1 = .ok (some e.instanceKey)
    rw [Store.targetKey?_run hdb]
    rfl
  · refine ⟨TargetState.instanceOf e, ?_, rfl, rfl⟩
    show _ ∈ w.target.state.instances
    rw [hw.instances]
    exact List.mem_cons_self

/-- The instance is started. -/
theorem start_waiting (hfirst : definitions.find? (fun e => e.key == d.key) = some d')
    (hevent : d'.startEvent = some event)
    (hroom : (TargetState.start definitions).keys.nextLocal +
      (2 + event.listenerJobTypes.length : Nat) ≤ Key.span) :
    Triple (Run.Quiet (Untouched definitions d node))
      ((migratorFor jobType maxJobs).start (waitingAt d node).inst (preparedFor d node)
        fun key => (migratorFor jobType maxJobs).env.store.insert
          (.migrated (waitingAt d node).inst.id key (waitingAt d node).inst.startTime))
      (fun _ s => ∃ e, Run.Quiet (Begun definitions d d' node e) s) (fun _ => False) := by
  unfold Migrator.start
  refine Triple.bind (create_waiting hfirst hevent hroom) ?_
  intro handle
  have hcreated : ∀ s, Run.Quiet (fun w => ∃ e : StartedInstance, handle.instanceKey = e.instanceKey ∧
      Created definitions d d' node e w) s → ∃ e : StartedInstance, handle.instanceKey = e.instanceKey ∧
        Run.Quiet (Created definitions d d' node e) s := by
    rintro s ⟨hcoming, e, hkey, hs⟩
    exact ⟨e, hkey, hcoming, hs⟩
  refine (Triple.of_exists ?_).pre hcreated
  intro e
  apply Triple.of_and
  intro hkey
  rw [hkey]
  refine Triple.bind (record_waiting e) ?_
  intro _
  exact Triple.modify fun s hs => ⟨e, hs⟩

/-! ## Handing over -/

section

variable (hcurrent : d.Current definitions) (hstart : d.startEvent.isSome = true)
  (hnode : node ∈ d.flowNodeIds) {key : Int} {terminated : List Int} {job : Job}
include hcurrent hstart hnode

/-- What is mapped and can still be carried over is found again, whatever has become of its jobs. -/
theorem activationsFor_waiting :
    Triple (Run.Quiet (MovedOff definitions d node key terminated))
      ((migratorFor jobType maxJobs).activationsFor "a" key)
      (fun found s => (∃ activations, found = some activations) ∧
        Run.Quiet (MovedOff definitions d node key terminated) s) (fun _ => False) := by
  unfold Migrator.activationsFor
  refine Triple.bind (M := fun _ => Run.Quiet (MovedOff definitions d node key terminated))
    (Triple.get fun s hs => hs) ?_
  intro s₀
  split
  · refine Triple.bind (M := fun _ => Run.Quiet (MovedOff definitions d node key terminated))
      (Triple.modify fun s hs => hs) fun _ => Triple.pure fun s hs => ⟨⟨_, rfl⟩, hs⟩
  · unfold Migrator.resolveAgain
    refine Triple.bind_eq (a := some key) (Run.store_answers (x := fun t => Store.targetKey? t "a")
      ?_) ?_
    · intro w hw
      exact Prod.ext hw.mapped (Store.targetKey?_readOnly "a" w.database)
    rw [if_neg (not_not.2 rfl)]
    refine Triple.bind_eq (a := some (waitingAt d node).inst) (Run.query_answers ?_) ?_
    · intro w hw
      show (Except.ok (w.source.find? "a"), w) = _
      rw [hw.shown.source]
      rfl
    refine Triple.bind_eq (prepare_waiting hcurrent hstart hnode fun w hw => hw.shown) ?_
    exact Triple.pure fun s hs => ⟨⟨_, rfl⟩, hs⟩

omit hcurrent hstart hnode in
theorem modify_waiting (activations : List Activation) :
    Triple (Run.Quiet (MovedOff definitions d node job.instanceKey terminated))
      (Run.engine ((migratorFor jobType maxJobs).env.target.modifyInstance job.instanceKey
        job.elementInstanceKey activations))
      (fun _ => Run.Quiet (MovedOff definitions d node job.instanceKey
        (terminated ++ [job.elementInstanceKey]))) (fun _ => False) := by
  refine Run.target_quiet (x := TargetEngine.modifyInstance job.instanceKey job.elementInstanceKey
    activations) ?_
  intro w hw
  obtain ⟨i, hi, hkey, hterminated⟩ := hw.there
  refine ((TargetEngine.modifyInstance_triple hw.engine (job.modification activations)).and
    (TargetEngine.modifyInstance_succeeds hw.engine ⟨i, hi, hkey⟩)).conseq (fun _ h => ⟨h, h⟩) ?_
    fun _ h => h.2
  rintro _ t ⟨⟨ht, hstate, hdefinitions⟩, _⟩
  refine ⟨⟨hw.shown.source, hdefinitions.trans hw.shown.definitions⟩, ht, hw.mapped, ?_⟩
  have hmem := TargetState.mem_modify (m := job.modification activations) hi
  have hafter : TargetState.afterModify (job.modification activations) i =
      TargetState.moved (job.modification activations) i := if_pos (beq_iff_eq.2 hkey)
  rw [hafter] at hmem
  refine ⟨TargetState.moved (job.modification activations) i, ?_, hkey, ?_⟩
  · show _ ∈ t.state.instances
    rw [hstate]
    exact hmem
  · show i.terminated ++ [_] = _
    rw [hterminated]
    rfl

/-- Each job of the instance moves it, also if its tokens have been moved before. -/
theorem handOver_waiting (hid : job.legacyId? = some "a") :
    Triple (Run.Quiet (MovedOff definitions d node job.instanceKey terminated))
      ((migratorFor jobType maxJobs).handOver job)
      (fun _ => Run.Quiet (MovedOff definitions d node job.instanceKey
        (terminated ++ [job.elementInstanceKey]))) (fun _ => False) := by
  unfold Migrator.handOver
  rw [hid]
  refine Triple.bind (activationsFor_waiting hcurrent hstart hnode) ?_
  intro found
  apply Triple.of_and
  intro hfound
  rcases hfound with ⟨activations, rfl⟩
  refine Triple.bind (modify_waiting activations) ?_
  intro _
  exact Triple.modify fun s hs => hs

end

/-! ## What was moved twice stays so -/

/-- An element instance was terminated twice. -/
structure MovedTwice (definitions : List Definition) (s : RunState (Interrupted Workspace)) :
    Prop where
  engine : s.world.target.Sound
  sameDefinitions : s.world.target.definitions = definitions
  twice : ∃ i ∈ s.world.target.state.instances, ¬i.terminated.Nodup

theorem stable_movedTwice (definitions : List Definition) :
    Run.Stable Workspace.jobEngine (MovedTwice definitions) := by
  refine Run.stable_of_starts (fun _ h => h.engine)
    (fun _ _ h => ⟨h.engine, h.sameDefinitions, h.twice⟩) ?_ ?_
  · intro s t h ht
    have hsound := ht.sound h.engine
    obtain ⟨a, keys, _, rfl⟩ := ht
    exact ⟨hsound, h.sameDefinitions, h.twice⟩
  · intro s t request e h ht hstarts
    obtain ⟨i, hi, htwice⟩ := h.twice
    refine ⟨ht, hstarts.definitions.trans h.sameDefinitions, i, ?_, htwice⟩
    show i ∈ t.state.instances
    rw [hstarts.instances h.engine]
    exact List.mem_append_left _ hi

theorem handOver_movedTwice (job : Job) :
    Triple (MovedTwice definitions) ((migratorFor jobType maxJobs).handOver job)
      (fun _ => MovedTwice definitions) (MovedTwice definitions) := by
  unfold Migrator.handOver
  split
  · exact Triple.modify fun s hs => ⟨hs.engine, hs.sameDefinitions, hs.twice⟩
  · next id _ =>
    refine Triple.bind (Workspace.activationsFor_keeps (stable_movedTwice definitions)
      (fun _ hs => hs.sameDefinitions)
      (fun _ _ hs => ⟨hs.engine, hs.sameDefinitions, hs.twice⟩) id job.instanceKey) ?_
    intro found
    cases found with
    | none => exact Triple.modify fun s hs => ⟨hs.engine, hs.sameDefinitions, hs.twice⟩
    | some activations =>
      refine Triple.bind (M := fun _ => MovedTwice definitions) ?_ fun _ =>
        Triple.modify fun s hs => ⟨hs.engine, hs.sameDefinitions, hs.twice⟩
      refine Run.target_call (M := MovedTwice definitions) .modifyInstance
        (.send (.modify job.instanceKey job.elementInstanceKey activations))
        (TargetEngine.modifyInstance job.instanceKey job.elementInstanceKey activations)
        (stable_movedTwice definitions)
        (fun s hs => ⟨hs.engine, hs.sameDefinitions, hs.twice⟩) (fun _ h => h) ?_
        fun _ _ h => h
      intro s hs
      refine (TargetEngine.modifyInstance_triple hs.engine (job.modification activations)).ends
        ?_ fun t ht => ht ▸ hs
      rintro _ t ⟨ht, hstate, hdefinitions⟩
      obtain ⟨i, hi, htwice⟩ := hs.twice
      have hmem := TargetState.mem_modify (m := job.modification activations) hi
      rw [← hstate] at hmem
      refine ⟨ht, hdefinitions.trans hs.sameDefinitions, _, hmem, ?_⟩
      intro hnodup
      apply htwice
      unfold TargetState.afterModify at hnodup
      split at hnodup
      · exact (List.nodup_append.1 hnodup).1
      · exact hnodup

theorem drainRounds_movedTwice (rounds : Nat) (seen : List Int) :
    Triple (MovedTwice definitions) ((migratorFor jobType maxJobs).drainRounds rounds seen)
      (fun _ => MovedTwice definitions) (MovedTwice definitions) := by
  refine Migrator.drainRounds_triple _ (L := fun _ => MovedTwice definitions)
    (B := fun _ _ => MovedTwice definitions) ?_ (fun job _ _ => handOver_movedTwice job)
    (fun _ _ hs => hs) (fun _ _ hs => hs) rounds seen
  intro seen
  refine Run.fetch_call jobType maxJobs (stable_movedTwice definitions) (fun _ hs => hs.engine)
    (fun _ hs => hs) ?_ ?_
  · intro s t jobs hs ht hjobs hstate hdefinitions
    have hnow : MovedTwice definitions { s with world := (s.world.withTarget t).arrived jobs } := by
      obtain ⟨i, hi, htwice⟩ := hs.twice
      refine ⟨ht, hdefinitions.trans hs.sameDefinitions, i, ?_, htwice⟩
      show i ∈ t.state.instances
      rw [hstate]
      exact hi
    show if _ then _ else _
    split
    · exact hnow
    · exact hnow
  · intro jobs s hs
    dsimp only at hs
    split at hs
    · exact hs
    · exact hs

theorem drain_movedTwice :
    Triple (MovedTwice definitions) (migratorFor jobType maxJobs).drain
      (fun _ => MovedTwice definitions) (MovedTwice definitions) := by
  unfold Migrator.drain
  refine Triple.bind (M := fun _ => MovedTwice definitions) (Triple.get fun s hs => hs) ?_
  intro s₀
  refine Triple.bind (drainRounds_movedTwice _ []) ?_
  intro _
  apply Triple.modify
  intro s hs
  exact ⟨hs.engine, hs.sameDefinitions, hs.twice⟩

/-! ## A drain -/

/-- Two jobs of the instance come in one batch. -/
def TwoAtOnce (definitions : List Definition) (d : Definition) (node : String)
    (jobs : List Job) (w : Workspace) : Prop :=
  ∃ j j' rest, jobs = j :: j' :: rest ∧ (jobs.map (·.key)).Nodup ∧ j.legacyId? = some "a" ∧
    j'.legacyId? = some "a" ∧ j'.instanceKey = j.instanceKey ∧
    j'.elementInstanceKey = j.elementInstanceKey ∧ MovedOff definitions d node j.instanceKey [] w

/-- A limit of two jobs is enough for an instance with two jobs of the type. -/
theorem two_available {e : StartedInstance} {w : Workspace} (h : Begun definitions d d' node e w)
    (hmax : 2 ≤ maxJobs) (hcount : 2 ≤ d'.listeners.count jobType) :
    ∃ j j' rest, TargetEngine.available w.target.state jobType maxJobs = j :: j' :: rest := by
  have htypes : (TargetState.jobsOf e).map (·.jobType) = d'.listeners := by
    rw [← h.jobs]
    unfold TargetState.jobsOf
    rw [List.map_map]
    rfl
  rw [← htypes, List.count_eq_countP, List.countP_map, List.countP_eq_length_filter] at hcount
  have hlength : 2 ≤ (TargetEngine.available w.target.state jobType maxJobs).length := by
    unfold TargetEngine.available
    rw [h.outstanding, h.handedOut, List.length_take]
    refine Nat.le_min.2 ⟨hmax, ?_⟩
    refine Nat.le_trans hcount (Nat.le_of_eq (congrArg List.length (List.filter_congr ?_)))
    intro j _
    simp
  rcases hjobs : TargetEngine.available w.target.state jobType maxJobs with _ | ⟨j, _ | ⟨j', rest⟩⟩
  · rw [hjobs] at hlength
    cases hlength
  · rw [hjobs] at hlength
    exact absurd hlength (by simp)
  · exact ⟨j, j', rest, rfl⟩

theorem fetch_waiting {e : StartedInstance} (hmax : 2 ≤ maxJobs)
    (hcount : 2 ≤ d'.listeners.count jobType) :
    Triple (Run.Quiet (Begun definitions d d' node e))
      (Run.engine ((migratorFor jobType maxJobs).env.target.activateJobs jobType maxJobs))
      (fun jobs => Run.Quiet (TwoAtOnce definitions d node jobs)) (fun _ => False) := by
  have hfetch : Triple (Interrupted.Quiet (Begun definitions d d' node e))
      (Interrupted.fetchJobs Workspace.environment jobType maxJobs)
      (fun jobs => Interrupted.Quiet (TwoAtOnce definitions d node jobs)) (fun _ => False) := by
    refine Triple.bind (M := fun jobs => Interrupted.Quiet (TwoAtOnce definitions d node jobs)) ?_
      fun jobs => Triple.bind (M := fun _ => Interrupted.Quiet (TwoAtOnce definitions d node jobs))
        (Triple.modify fun d hd => hd) fun _ => Triple.pure fun d hd => hd
    show Triple _ (Interrupted.inside
      (Workspace.onTarget (TargetEngine.activateJobs jobType maxJobs))) _ _
    refine Interrupted.inside_quiet (Triple.onPart ?_)
    intro w hw
    have hengine := hw.movedOff.engine
    refine (TargetEngine.activateJobs_triple hengine jobType maxJobs).ends ?_ fun _ h => h
    rintro jobs t ⟨ht, hjobs, hstate, hdefinitions⟩
    have hfrom : ∀ j ∈ jobs, j ∈ TargetState.jobsOf e := by
      intro j hj
      rw [← hw.outstanding]
      exact (TargetEngine.mem_available (hjobs ▸ hj)).1
    have hkeys : (jobs.map (·.key)).Nodup := by
      rw [hjobs]
      exact TargetEngine.keys_available hengine.state jobType maxJobs
    obtain ⟨j, j', rest, htwo⟩ := two_available hw hmax hcount
    obtain rfl := hjobs.trans htwo
    -- both jobs are of the one instance that was started
    obtain ⟨hwaits, helement, _⟩ := TargetState.mem_jobsOf (hfrom j List.mem_cons_self)
    obtain ⟨hwaits', helement', _⟩ :=
      TargetState.mem_jobsOf (hfrom j' (List.mem_cons_of_mem _ List.mem_cons_self))
    refine ⟨j, j', rest, rfl, hkeys, hwaits.legacyId?.trans hw.carriesId,
      hwaits'.legacyId?.trans hw.carriesId, hwaits'.instanceKey.trans hwaits.instanceKey.symm,
      helement'.trans helement.symm, ⟨hw.movedOff.shown.source, ?_⟩, ht, ?_, ?_⟩
    · exact hdefinitions.trans hw.movedOff.shown.definitions
    · rw [hwaits.instanceKey]
      exact hw.movedOff.mapped
    · rw [hwaits.instanceKey]
      obtain ⟨i, hi, hkey⟩ := hw.movedOff.there
      refine ⟨i, ?_, hkey⟩
      show i ∈ t.state.instances
      rw [hstate]
      exact hi
  exact Run.call_quiet (Triple.mapError (Interrupted.call_quiet (fun _ hd => hd) hfetch))

/-- The jobs of the batch move the instance one after the other. -/
theorem drain_waiting (hcurrent : d.Current definitions) (hstart : d.startEvent.isSome = true)
    (hnode : node ∈ d.flowNodeIds) {e : StartedInstance} (hmax : 2 ≤ maxJobs)
    (hcount : 2 ≤ d'.listeners.count jobType) :
    Triple (Run.Quiet (Begun definitions d d' node e)) (migratorFor jobType maxJobs).drain
      (fun _ => MovedTwice definitions) (MovedTwice definitions) := by
  unfold Migrator.drain
  refine Triple.bind (M := fun _ => Run.Quiet (Begun definitions d d' node e))
    (Triple.get fun s hs => hs) ?_
  intro s₀
  refine Triple.bind (M := fun _ => MovedTwice definitions) ?_ fun _ =>
    Triple.modify fun s hs => ⟨hs.engine, hs.sameDefinitions, hs.twice⟩
  unfold Migrator.drainRounds
  refine Triple.bind (fetch_waiting hmax hcount).succeeds ?_
  intro jobs
  rintro s ⟨hcoming, j, j', rest, rfl, hkeys, hid, hid', hinstance, helement, hs⟩
  have hfresh := freshJobs_eq_self hkeys [] fun _ _ => List.not_mem_nil
  rcases hjobs : freshJobs (j :: j' :: rest) [] with ⟨fresh, seen⟩
  rw [hjobs] at hfresh
  obtain rfl : fresh = _ := hfresh
  -- the second job is of the same element instance as the first
  have hsecond : Triple (Run.Quiet (MovedOff definitions d node j'.instanceKey [j.elementInstanceKey]))
      ((migratorFor jobType maxJobs).handOver j')
      (fun _ => Run.Quiet (MovedOff definitions d node j'.instanceKey
        ([j.elementInstanceKey] ++ [j'.elementInstanceKey]))) (fun _ => False) :=
    handOver_waiting hcurrent hstart hnode hid'
  rw [hinstance, helement] at hsecond
  have hbatch : Triple (Run.Quiet (MovedOff definitions d node j.instanceKey []))
      (do
        Action.forAll (j :: j' :: rest) (migratorFor jobType maxJobs).handOver
        (migratorFor jobType maxJobs).drainRounds
          ((migratorFor jobType maxJobs).env.target.jobBound s₀.world) seen)
      (fun _ => MovedTwice definitions) (MovedTwice definitions) := by
    refine Triple.bind (M := fun _ => MovedTwice definitions) ?_ fun _ =>
      drainRounds_movedTwice _ seen
    refine Triple.bind (handOver_waiting hcurrent hstart hnode hid).succeeds ?_
    intro _
    refine Triple.bind hsecond.succeeds ?_
    intro _
    refine (Triple.forAll_keeps fun j _ => handOver_movedTwice j).pre ?_
    intro s hs
    obtain ⟨i, hi, _, hterminated⟩ := hs.2.there
    refine ⟨hs.2.engine, hs.2.shown.definitions, i, hi, ?_⟩
    rw [hterminated]
    simp
  exact hbatch s ⟨hcoming, hs⟩

/-! ## The pass -/

/-- The first page holds the one instance. -/
theorem instancePage_waiting :
    Triple (Run.Quiet (Untouched definitions d node))
      ((migratorFor jobType maxJobs).instancePage none ⟨0, 100, none⟩)
      (fun page s => page = [(waitingAt d node).inst] ∧
        Run.Quiet (Untouched definitions d node) s) (fun _ => False) := by
  apply Run.query_answers
  intro w hw
  show (Except.ok (w.source.listAfter none 100), w) = _
  rw [hw.source]
  rfl

section

variable (hcurrent : d.Current definitions) (hstart : d.startEvent.isSome = true)
  (hnode : node ∈ d.flowNodeIds)
  (hfirst : definitions.find? (fun e => e.key == d.key) = some d')
  (hevent : d'.startEvent = some event)
  (hroom : (TargetState.start definitions).keys.nextLocal +
    (2 + event.listenerJobTypes.length : Nat) ≤ Key.span)
include hcurrent hstart hnode hfirst hevent hroom

theorem migrateInstance_waiting :
    Triple (Run.Quiet (Untouched definitions d node))
      ((migratorFor jobType maxJobs).migrateInstance (waitingAt d node).inst)
      (fun _ s => ∃ e, Run.Quiet (Begun definitions d d' node e) s) (fun _ => False) := by
  unfold Migrator.migrateInstance
  refine Triple.bind (M := fun _ => Run.Quiet (Untouched definitions d node))
    (Triple.modify fun s hs => hs) ?_
  intro _
  refine Triple.bind_eq (a := false) (Run.store_answers (x := fun t => Store.exists t "a")
    fun w hw => Store.exists_run hw.records "a") ?_
  rw [if_neg Bool.false_ne_true]
  refine Triple.bind_eq (prepare_waiting hcurrent hstart hnode fun w hw => hw.shown) ?_
  refine Triple.bind (start_waiting hfirst hevent hroom) ?_
  intro _
  exact Triple.modify fun s hs => hs

/-- The instance is started, and if that fills a page it is moved twice at once. -/
theorem body_waiting (hmax : 2 ≤ maxJobs) (hcount : 2 ≤ d'.listeners.count jobType)
    (p : Paging SourceInstance) :
    Triple (Run.Quiet (Untouched definitions d node))
      (do
        Action.forAll [(waitingAt d node).inst] (migratorFor jobType maxJobs).migrateInstance
        (migratorFor jobType maxJobs).drainWhenFull
        return p)
      (fun p' s => p' = p ∧
        ((∃ e, Run.Quiet (Begun definitions d d' node e) s) ∨ MovedTwice definitions s))
      (MovedTwice definitions) := by
  refine Triple.bind (M := fun _ s => ∃ e, Run.Quiet (Begun definitions d d' node e) s) ?_ ?_
  · refine Triple.bind
      (migrateInstance_waiting hcurrent hstart hnode hfirst hevent hroom).succeeds ?_
    intro _
    exact Triple.pure fun s hs => hs
  · intro _
    refine Triple.bind (M := fun _ s =>
      (∃ e, Run.Quiet (Begun definitions d d' node e) s) ∨ MovedTwice definitions s) ?_ fun _ =>
        Triple.pure fun s hs => ⟨rfl, hs⟩
    unfold Migrator.drainWhenFull
    refine Triple.bind (M := fun _ s => ∃ e, Run.Quiet (Begun definitions d d' node e) s)
      (Triple.get fun s hs => hs) ?_
    intro s₀
    split
    · rintro s ⟨e, hs⟩
      exact ((drain_waiting hcurrent hstart hnode hmax hcount).post fun _ _ hs => .inr hs) s hs
    · exact Triple.pure fun s hs => .inl hs

theorem migratePass_waiting (hmax : 2 ≤ maxJobs) (hcount : 2 ≤ d'.listeners.count jobType) :
    Triple (Run.Quiet (Untouched definitions d node)) (migratorFor jobType maxJobs).migratePass
      (fun _ => MovedTwice definitions) (MovedTwice definitions) := by
  unfold Migrator.migratePass
  refine Triple.bind_eq (a := none) (Run.store_answers
    (x := fun t => Store.latest? t .processInstance) fun w hw =>
      Store.latest?_nil hw.records _).succeeds ?_
  refine Triple.bind_eq (a := 1) (Run.query_answers ?_).succeeds ?_
  · intro w hw
    show (Except.ok w.source.count, w) = _
    rw [hw.source]
    rfl
  refine Triple.bind (M := fun _ s =>
    (∃ e, Run.Quiet (Begun definitions d d' node e) s) ∨ MovedTwice definitions s) ?_ ?_
  · -- there is one page, with one instance
    let first : Paging SourceInstance := Paging.start .after 100 (some 1)
    have hbody := body_waiting hcurrent hstart hnode hfirst hevent hroom hmax hcount
    refine (Triple.forPages (I := fun p s => (p = first ∧ Run.Quiet (Untouched definitions d node) s) ∨
        (p.totalReached = true ∧
          ((∃ e, Run.Quiet (Begun definitions d d' node e) s) ∨ MovedTwice definitions s)))
      (M := fun p page s => p.totalReached = true ∧ page = [(waitingAt d node).inst] ∧
        Run.Quiet (Untouched definitions d node) s) ?_ ?_ _ first (Paging.fueled_start _ _ _)).conseq
      (fun s hs => .inl ⟨rfl, hs⟩) ?_ fun _ hs => hs
    · rintro p request hrequest s (⟨rfl, hs⟩ | ⟨hreached, _⟩)
      · cases hrequest
        refine Triple.conseq instancePage_waiting (fun _ hs => hs) ?_ (fun _ h => h.elim) s hs
        intro page s hs
        obtain ⟨rfl, hs⟩ := hs
        exact ⟨rfl, rfl, hs⟩
      · rw [Paging.request?_eq_none.2 (.inr hreached)] at hrequest
        cases hrequest
    · rintro p page s ⟨hreached, rfl, hs⟩
      refine (hbody p).post ?_ s hs
      intro p' s hs
      obtain ⟨rfl, hs⟩ := hs
      exact ⟨.inr ⟨hreached, hs⟩, rfl, rfl⟩
    · rintro p s ⟨p₀, ⟨rfl, _⟩ | ⟨_, hs⟩, hnone⟩
      · cases hnone
      · exact hs
  · rintro _ s (⟨e, hs⟩ | hs)
    · exact drain_waiting hcurrent hstart hnode hmax hcount s hs
    · exact drain_movedTwice s hs

theorem run_waiting (hmax : 2 ≤ maxJobs) (hcount : 2 ≤ d'.listeners.count jobType) :
    Triple (Run.Quiet (Untouched definitions d node)) ((migratorFor jobType maxJobs).run .migrate)
      (fun _ => MovedTwice definitions) (MovedTwice definitions) := by
  unfold Migrator.run
  refine Triple.bind (M := fun _ => Run.Quiet (Untouched definitions d node))
    (Triple.modify fun s hs => hs) ?_
  intro _
  refine Triple.bind (migratePass_waiting hcurrent hstart hnode hfirst hevent hroom hmax hcount) ?_
  intro _
  exact Triple.bind (M := fun _ => MovedTwice definitions) (Triple.get fun s hs => hs) fun _ =>
    Triple.pure fun s hs => hs

end

/-- A pass that asks so. -/
def pass (jobType : String) (maxJobs : Nat) : Pass where
  mode := .migrate
  settings := asksFor jobType maxJobs
  pipeline := .empty

/-- The workspace with that instance. -/
def workspace (definitions : List Definition) (d : Definition) (node : String) : Workspace :=
  ⟨⟨[waitingAt d node]⟩, ⟨definitions, .absent, .start definitions⟩, ⟨""⟩,
    ⟨[⟨"migration_mapping", .mapping []⟩], []⟩⟩

theorem workspace_untouched (definitions : List Definition) (d : Definition) (node : String) :
    Untouched definitions d node (workspace definitions d node) := by
  refine ⟨rfl, rfl, ?_⟩
  simp [StoreTables.Holds, Database.rows, Database.table?, Database.sameName, StoreTables.mapping,
    workspace]

end TwiceListed

/-! ## Sessions -/

namespace Session

open TwiceListed

/-- Where a job type is listed twice and two jobs come at once, there is a session in which an
instance is moved twice. -/
theorem exists_moved_twice {definitions : List Definition} {used : String → Nat → Prop}
    {jobType : String} {maxJobs : Nat} (hused : used jobType maxJobs) (hmax : 2 ≤ maxJobs)
    {d : Definition} (hd : Definition.Startable definitions d)
    (hcount : 2 ≤ d.listeners.count jobType) :
    ∃ s : Session, s.Over definitions used ∧
      ∃ i ∈ s.world.target.state.instances, ¬i.terminated.Nodup := by
  obtain ⟨d₀, hcurrent, hkey, hstart, hnodes⟩ := hd.current
  obtain ⟨node, hnode⟩ := List.exists_mem_of_ne_nil _ hnodes
  obtain ⟨event, hevent⟩ : ∃ event, d.startEvent = some event := by
    cases hevent : d.startEvent with
    | some event => exact ⟨event, rfl⟩
    | none =>
      unfold Definition.listeners at hcount
      rw [hevent] at hcount
      exact absurd hcount (Nat.not_succ_le_zero 1)
  have hlisteners : d.listeners = event.listenerJobTypes := by
    unfold Definition.listeners
    rw [hevent]
    rfl
  have hroom := hd.room
  rw [hlisteners] at hroom
  have hfirst : definitions.find? (fun e => e.key == d₀.key) = some d := by
    rw [hkey]
    exact hd.first
  have hempty := workspace_untouched definitions d₀ node
  refine ⟨_, ⟨workspace definitions d₀ node, [.pass (pass jobType maxJobs)], hempty.target,
    hempty.records, ?_, rfl⟩, ?_⟩
  · intro e he
    rw [List.mem_singleton.1 he]
    exact hused
  · refine step_pass (P := fun s => ∃ i ∈ s.world.target.state.instances, ¬i.terminated.Nodup)
      (p := pass jobType maxJobs) (J := MovedTwice definitions)
      (run_waiting hcurrent hstart hnode hfirst hevent hroom hmax hcount) ⟨rfl, hempty⟩ ?_
    intro r hr
    exact hr.twice

/-- When instances are moved once. From an absent journal and an empty store on, over a fixed list of
definitions, whatever happens in the passes and between them, no element instance is terminated
twice, and so no instance receives activations twice, exactly if for each way in which passes ask for
jobs the limit is one or no definition that the migrator can have an instance started of lists the
job type twice. -/
theorem moved_once_tfae (definitions : List Definition) (used : String → Nat → Prop) :
    List.TFAE [
      ∀ s : Session, s.Over definitions used →
        ∀ i ∈ s.world.target.state.instances, i.terminated.Nodup,
      ∀ s : Session, s.Over definitions used →
        ∀ i ∈ s.world.target.state.instances, i.terminated.length ≤ 1,
      ∀ jobType maxJobs, used jobType maxJobs →
        maxJobs ≤ 1 ∨ OneJobEach definitions jobType] := by
  tfae_have 3 → 2 := fun hused s h => moved_once hused h
  tfae_have 2 → 1 := by
    intro h s hs i hi
    match i.terminated, h s hs i hi with
    | [], _ => exact .nil
    | [key], _ => exact List.nodup_singleton key
  tfae_have 1 → 3 := by
    intro h jobType maxJobs hused
    by_contra hnot
    obtain ⟨hmax, hone⟩ := not_or.1 hnot
    unfold OneJobEach at hone
    -- a definition whose instances have two jobs of the type, and batches with room for both
    push Not at hone
    obtain ⟨d, hd, hcount⟩ := hone
    obtain ⟨s, hs, i, hi, htwice⟩ := exists_moved_twice hused (by omega) hd (by omega)
    exact htwice (h s hs i hi)
  tfae_finish

/-- A process whose start event lists the migrator twice. -/
def orderListedTwice : Definition :=
  ⟨2251799813685249, "order", 1, none, ["start", "T1"], some ⟨"start", ["migrator", "migrator"]⟩⟩

/-- The default settings ask for more than one job at once: one pass moves its instance twice. -/
theorem order_is_moved_twice :
    let s := (start (workspace [orderListedTwice] orderListedTwice "T1")).after
      [.pass { mode := .migrate, settings := {}, pipeline := .empty }]
    s.Over [orderListedTwice] (fun _ _ => True) ∧
      ∃ i ∈ s.world.target.state.instances, ¬i.terminated.Nodup := by
  have hempty := workspace_untouched [orderListedTwice] orderListedTwice "T1"
  refine ⟨⟨_, _, hempty.target, hempty.records, ?_, rfl⟩, by decide +kernel⟩
  intro e he
  rw [List.mem_singleton.1 he]
  trivial

end Session
end ProcessMigration
