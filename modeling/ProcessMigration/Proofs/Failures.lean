import ProcessMigration.Migration.Trial
import ProcessMigration.Proofs.Triple

/-!
# Where failures come from

A run fails when a call fails. So a failure of the mapping store that ends a run is the answer of the
mapping store to one of its calls, and what is known of such answers is known of the run.

* `Action.Fails`: how an action fails, and in which states;
* `RecordStore.Refuses` says it of each operation of a mapping store;
* `Migrator.prepare_fails`: a preparation does not come near the mapping store;
* `Migrator.run_fails`: a run fails as one of its calls does;
* `Trial.recordStore_refuses`: in a trial the mapping store fails because of its database, unless it
  has rejected a write.
-/

namespace ProcessMigration

namespace Action

variable {σ τ ε ε' α β : Type}

/-- If the action fails, then in this way, leaving such a state. -/
def Fails (x : Action σ ε α) (E : ε → σ → Prop) : Prop :=
  ∀ s, match x.run s with
    | (.ok _, _) => True
    | (.error e, s') => E e s'

namespace Fails

variable {x : Action σ ε α} {E E' : ε → σ → Prop}

theorem mono (h : Fails x E) (hE : ∀ e s, E e s → E' e s) : Fails x E' := by
  intro s
  have hx := h s
  split at hx
  · trivial
  · exact hE _ _ hx

/-- What is known of a failure when it has happened. -/
theorem error (h : Fails x E) {s : σ} {e : ε} (hrun : (x.run s).1 = .error e) :
    E e (x.run s).2 := by
  have hx := h s
  rcases hr : x.run s with ⟨r, s'⟩
  rw [hr] at hx hrun
  simp only at hrun
  subst hrun
  exact hx

theorem pure (a : α) : Fails (Pure.pure a : Action σ ε α) E := fun _ => trivial

theorem get : Fails (Action.get : Action σ ε σ) E := fun _ => trivial

theorem modify (f : σ → σ) : Fails (Action.modify f : Action σ ε Unit) E := fun _ => trivial

theorem fail {e : ε} (h : ∀ s, E e s) : Fails (Action.fail e : Action σ ε α) E := fun s => h s

theorem ofExcept {r : Except ε α} (h : ∀ e s, r = .error e → E e s) :
    Fails (Action.ofExcept r) E := by
  intro s
  cases r with
  | ok a => trivial
  | error e => exact h e s rfl

theorem bind {f : α → Action σ ε β} (hx : Fails x E) (hf : ∀ a, Fails (f a) E) :
    Fails (x >>= f) E := by
  intro s
  have h := hx s
  rw [Action.run_bind]
  rcases hrun : x.run s with ⟨r, s'⟩
  rw [hrun] at h
  cases r with
  | ok a => exact hf a s'
  | error e => exact h

theorem mapError {f : ε → ε'} {E' : ε' → σ → Prop} (h : Fails x fun e s => E' (f e) s) :
    Fails (x.mapError f) E' := by
  intro s
  have hx := h s
  unfold Action.run Action.mapError at *
  split at hx <;> simp_all

theorem onPart {part : τ → σ} {put : σ → τ → τ} {E : ε → τ → Prop}
    (h : ∀ t, Fails x fun e s => E e (put s t)) : Fails (x.onPart part put) E := by
  intro t
  have hx := h t (part t)
  unfold Action.run Action.onPart at *
  split at hx <;> simp_all

theorem forAll {xs : List α} {f : α → Action σ ε Unit} (h : ∀ x ∈ xs, Fails (f x) E) :
    Fails (Action.forAll xs f) E := by
  induction xs with
  | nil => exact pure ()
  | cons x rest ih =>
    unfold Action.forAll
    refine bind (h x List.mem_cons_self) ?_
    intro _
    apply ih
    intro y hy
    exact h y (List.mem_cons_of_mem x hy)

theorem forPages {fetch : PageRequest α → Action σ ε (List α)}
    {body : Paging α → List α → Action σ ε (Paging α)} (hfetch : ∀ request, Fails (fetch request) E)
    (hbody : ∀ p page, Fails (body p page) E) (fetches : Nat) (p : Paging α) :
    Fails (Paging.forPages fetch body fetches p) E := by
  induction fetches generalizing p with
  | zero => exact pure p
  | succ fetches ih =>
    unfold Paging.forPages Paging.next
    refine bind ?_ ?_
    · cases p.request? with
      | none => exact pure _
      | some request => exact bind (hfetch request) fun page => pure _
    · intro r
      obtain ⟨page, p'⟩ := r
      cases page with
      | none => exact pure p'
      | some page => exact bind (hbody p' page) fun p'' => ih p''

end Fails
end Action

open ProcessMigration.Action (Fails)

variable {σ α : Type}

/-- The operations of a mapping store fail in this way. -/
structure RecordStore.Refuses (store : RecordStore σ) (Φ : StoreError → σ → Prop) : Prop where
  latest : Fails store.latest? Φ
  «exists» : ∀ id, Fails (store.exists id) Φ
  targetKey : ∀ id, Fails (store.targetKey? id) Φ
  insert : ∀ record, Fails (store.insert record) Φ
  update : ∀ id key, Fails (store.update id key) Φ
  countSkipped : Fails store.countSkipped Φ
  skipped : ∀ offset limit, Fails (store.skipped offset limit) Φ

/-- If the failure of a run is one of the mapping store, it is such a one. -/
def Run.Blames (Φ : StoreError → σ → Prop) (e : MigrationError) (s : RunState σ) : Prop :=
  ∀ cause, e = .store cause → Φ cause s.world

namespace Run

variable {Φ : StoreError → σ → Prop}

theorem engine_fails (x : Action σ ConnectorError α) : Fails (Run.engine x) (Run.Blames Φ) := by
  unfold Run.engine Run.call
  apply Fails.onPart
  intro t
  apply Fails.mapError
  intro s
  split
  · trivial
  · intro cause hcause
    cases hcause

theorem store_fails {x : Action σ StoreError α} (h : Fails x Φ) :
    Fails (Run.store x) (Run.Blames Φ) := by
  unfold Run.store Run.call
  apply Fails.onPart
  intro t
  refine Fails.mapError (h.mono ?_)
  intro e s he cause hcause
  cases hcause
  exact he

theorem count_fails (f : Report → Report) : Fails (Run.count f : Run σ Unit) (Run.Blames Φ) :=
  Fails.modify _

theorem print_fails (text : String) : Fails (Run.print text : Run σ Unit) (Run.Blames Φ) := by
  apply Fails.mapError
  intro s
  split
  · trivial
  · intro cause hcause
    cases hcause

end Run

namespace Migrator

variable (m : Migrator σ)

/-! ## Preparations -/

/-- What a preparation of an instance can come upon. -/
structure Hinders (m : Migrator σ) (i : SourceInstance) (E : Obstacle → σ → Prop) : Prop where
  skip : ∀ reason s, E (.skip reason) s
  crashed : ∀ message s, E (.halt (.crashed message)) s
  activityTree : Fails (ask (m.env.source.activityTree i.id)) E
  variablesOf : ∀ scopeId, Fails (ask (m.env.source.variablesOf scopeId)) E
  completedBefore : ∀ gateway, Fails (ask (m.env.source.completedBefore i.id gateway)) E
  searchDefinitions : Fails (ask (m.env.target.searchDefinitions i.processKey)) E

namespace Hinders

variable {m : Migrator σ} {i : SourceInstance} {E : Obstacle → σ → Prop} (h : m.Hinders i E)
include h

theorem check (r : Except ValidationError α) : Fails (check r : Action σ Obstacle α) E := by
  apply Fails.ofExcept
  intro o s hr
  cases r with
  | ok a => cases hr
  | error e =>
    cases hr
    exact h.skip _ s

theorem transformed (scopeId : String) : Fails (m.transformed scopeId) E := by
  unfold Migrator.transformed
  refine Fails.bind (h.variablesOf scopeId) ?_
  intro vs
  apply Fails.ofExcept
  intro o s hr
  cases htransform : m.pipeline.transform vs with
  | ok vs' =>
    rw [htransform] at hr
    cases hr
  | error e =>
    rw [htransform] at hr
    cases e with
    | refused interceptor variableName message =>
      cases hr
      exact h.skip _ s
    | crashed message =>
      cases hr
      exact h.crashed message s

theorem noteHistory (gateways : List Activity) (history : BranchHistory) :
    Fails (m.noteHistory i.id gateways history) E := by
  induction gateways generalizing history with
  | nil => exact Fails.pure history
  | cons gateway rest ih =>
    unfold Migrator.noteHistory
    exact Fails.bind (h.completedBefore gateway.activityId) fun completed => ih _

theorem activations (nodes : List (String × FlowNode)) : Fails (m.activations nodes) E := by
  induction nodes with
  | nil => exact Fails.pure []
  | cons node rest ih =>
    obtain ⟨scopeId, node⟩ := node
    unfold Migrator.activations
    exact Fails.bind (h.transformed scopeId) fun vs => Fails.bind ih fun others => Fails.pure _

theorem resolveAll : Fails (m.resolveAll i) E := by
  have hhistory : ∀ tree, Fails (m.history i.id tree) E := by
    intro tree
    unfold Migrator.history
    split
    · exact h.noteHistory _ _
    · exact Fails.pure _
  unfold Migrator.resolveAll
  refine Fails.bind h.activityTree ?_
  intro tree
  refine Fails.bind (h.check _) ?_
  intro _
  refine Fails.bind (hhistory tree) ?_
  intro history
  refine Fails.bind (h.check _) ?_
  intro _
  refine Fails.bind h.searchDefinitions ?_
  intro definitions
  refine Fails.bind (h.check _) ?_
  intro _
  refine Fails.bind (h.check _) ?_
  intro _
  refine Fails.bind (h.transformed _) ?_
  intro vs
  exact Fails.bind (h.activations _) fun activations => Fails.pure _

/-- What hinders a preparation and is no reason to skip ends the run. -/
theorem prepare {E' : MigrationError → σ → Prop} (hE : ∀ cause s, E (.halt cause) s → E' cause s) :
    Fails (m.prepare i) E' := by
  intro s
  have hresolve := h.resolveAll s
  unfold Action.run at hresolve ⊢
  unfold Migrator.prepare
  split at hresolve
  · next prepared s' hrun =>
    rw [hrun]
    trivial
  · next o s' hrun =>
    rw [hrun]
    cases o with
    | skip reason => trivial
    | halt cause => exact hE cause s' hresolve

end Hinders

/-- Nothing that a preparation comes upon is about the mapping store. -/
theorem hinders_apartFromStore (i : SourceInstance) :
    m.Hinders i fun o _ => ∀ cause, o ≠ .halt (.store cause) := by
  have hasks : ∀ {β : Type} (x : Action σ ConnectorError β),
      Fails (ask x) fun o _ => ∀ cause, o ≠ .halt (.store cause) := by
    intro β x
    apply Fails.mapError
    intro s
    split
    · trivial
    · intro cause hcause
      cases hcause
  constructor
  case skip => exact fun _ _ _ hcause => nomatch hcause
  case crashed => exact fun _ _ _ hcause => nomatch hcause
  case activityTree => exact hasks _
  case variablesOf => exact fun _ => hasks _
  case completedBefore => exact fun _ => hasks _
  case searchDefinitions => exact hasks _

/-- A preparation does not come near the mapping store. -/
theorem prepare_fails {Φ : StoreError → σ → Prop} (i : SourceInstance) :
    Fails (Run.call (m.prepare i)) (Run.Blames Φ) := by
  apply Fails.onPart
  intro t
  refine (m.hinders_apartFromStore i).prepare ?_
  intro cause s hcause
  rintro cause' rfl
  exact absurd rfl (hcause cause')

/-! ## Runs -/

section

variable {m : Migrator σ} {Φ : StoreError → σ → Prop} (h : m.env.store.Refuses Φ)
include h

theorem resolveAgain_fails (id : String) (key : Int) :
    Fails (m.resolveAgain id key) (Run.Blames Φ) := by
  unfold resolveAgain
  refine Fails.bind (Run.store_fails (h.targetKey id)) ?_
  intro mapped
  split
  · exact Fails.pure none
  · refine Fails.bind (Run.engine_fails _) ?_
    intro found
    split
    · exact Fails.pure none
    · refine Fails.bind (m.prepare_fails _) ?_
      intro p
      split
      · exact Fails.pure _
      · exact Fails.pure none

theorem handOver_fails (job : Job) : Fails (m.handOver job) (Run.Blames Φ) := by
  have hactivations : ∀ id key, Fails (m.activationsFor id key) (Run.Blames Φ) := by
    intro id key
    unfold activationsFor
    refine Fails.bind Fails.get ?_
    intro s
    split
    · exact Fails.bind (Fails.modify _) fun _ => Fails.pure _
    · exact resolveAgain_fails h id key
  unfold handOver
  split
  · exact Run.count_fails _
  · refine Fails.bind (hactivations _ _) ?_
    intro activations
    split
    · exact Run.count_fails _
    · exact Fails.bind (Run.engine_fails _) fun _ => Run.count_fails _

theorem drain_fails : Fails m.drain (Run.Blames Φ) := by
  have hrounds : ∀ rounds seen, Fails (m.drainRounds rounds seen) (Run.Blames Φ) := by
    intro rounds
    induction rounds with
    | zero =>
      intro seen
      apply Fails.fail
      intro s cause hcause
      cases hcause
    | succ rounds ih =>
      intro seen
      unfold drainRounds
      refine Fails.bind (Run.engine_fails _) ?_
      intro jobs
      split
      · exact Fails.pure ()
      · exact Fails.bind (Fails.forAll fun job _ => handOver_fails h job) fun _ => ih _
  unfold drain
  refine Fails.bind Fails.get ?_
  intro s
  refine Fails.bind (hrounds _ _) ?_
  intro _
  exact Fails.modify _

theorem drainWhenFull_fails : Fails m.drainWhenFull (Run.Blames Φ) := by
  unfold drainWhenFull
  refine Fails.bind Fails.get ?_
  intro s
  split
  · exact drain_fails h
  · exact Fails.pure ()

omit h in
theorem start_fails (i : SourceInstance) (prepared : Prepared)
    {writeKey : Int → Action σ StoreError Unit} (hwrite : ∀ key, Fails (writeKey key) Φ) :
    Fails (m.start i prepared writeKey) (Run.Blames Φ) := by
  unfold start
  refine Fails.bind (Run.engine_fails _) ?_
  intro handle
  exact Fails.bind (Run.store_fails (hwrite handle.instanceKey)) fun _ => Fails.modify _

theorem migrateInstance_fails (i : SourceInstance) :
    Fails (m.migrateInstance i) (Run.Blames Φ) := by
  unfold migrateInstance
  refine Fails.bind (Run.count_fails _) ?_
  intro _
  refine Fails.bind (Run.store_fails (h.exists i.id)) ?_
  intro found
  split
  · exact Run.count_fails _
  · refine Fails.bind (m.prepare_fails i) ?_
    intro p
    split
    · exact Fails.bind (start_fails i _ fun key => h.insert _) fun _ => Run.count_fails _
    · exact Fails.bind (Run.store_fails (h.insert _)) fun _ => Run.count_fails _

theorem migratePass_fails : Fails m.migratePass (Run.Blames Φ) := by
  unfold migratePass
  refine Fails.bind (Run.store_fails h.latest) ?_
  intro resume
  refine Fails.bind (Run.engine_fails _) ?_
  intro total
  refine Fails.bind (Fails.forPages (fun request => Run.engine_fails _) ?_ _ _)
    fun _ => drain_fails h
  intro p page
  refine Fails.bind (Fails.forAll fun i _ => migrateInstance_fails h i) ?_
  intro _
  exact Fails.bind (drainWhenFull_fails h) fun _ => Fails.pure p

theorem retryRecord_fails (record : MappingRecord) :
    Fails (m.retryRecord record) (Run.Blames Φ) := by
  unfold retryRecord
  refine Fails.bind (Run.count_fails _) ?_
  intro _
  refine Fails.bind (Run.engine_fails _) ?_
  intro found
  split
  · exact Fails.bind (Run.count_fails _) fun _ => Fails.pure false
  · refine Fails.bind (m.prepare_fails _) ?_
    intro p
    split
    · refine Fails.bind (start_fails _ _ fun key => h.update _ key) ?_
      intro _
      exact Fails.bind (Run.count_fails _) fun _ => Fails.pure true
    · exact Fails.bind (Run.count_fails _) fun _ => Fails.pure false

theorem skippedPage_fails (request : PageRequest MappingRecord) :
    Fails (m.skippedPage request) (Run.Blames Φ) :=
  Run.store_fails (h.skipped _ _)

theorem retryPass_fails : Fails m.retryPass (Run.Blames Φ) := by
  have hpage : ∀ page p, Fails (m.retryPage p page) (Run.Blames Φ) := by
    intro page
    induction page with
    | nil => exact fun p => Fails.pure p
    | cons record rest ih =>
      intro p
      unfold retryPage
      refine Fails.bind (retryRecord_fails h record) ?_
      intro carried
      split
      · exact ih p
      · exact ih p.keepOne
  unfold retryPass
  refine Fails.bind (Run.store_fails h.countSkipped) ?_
  intro total
  refine Fails.bind (Fails.forPages (skippedPage_fails h) ?_ _ _) fun _ => drain_fails h
  intro p page
  refine Fails.bind (hpage page p) ?_
  intro p'
  exact Fails.bind (drainWhenFull_fails h) fun _ => Fails.pure p'

theorem listSkipped_fails : Fails m.listSkipped (Run.Blames Φ) := by
  unfold listSkipped
  refine Fails.bind (Run.store_fails h.countSkipped) ?_
  intro total
  split
  · exact Fails.bind (Run.print_fails _) fun _ => Fails.pure _
  · refine Fails.bind (Run.print_fails _) ?_
    intro _
    refine Fails.bind (Fails.forPages (skippedPage_fails h) ?_ _ _) fun _ => Fails.pure _
    intro p page
    exact Fails.bind (Fails.forAll fun record _ => Run.print_fails _) fun _ => Fails.pure p

/-- A run that fails at the mapping store fails as one of the store's operations does. -/
theorem run_fails (mode : Mode) : Fails (m.run mode) (Run.Blames Φ) := by
  have hpass : Fails (m.pass mode) (Run.Blames Φ) := by
    cases mode with
    | migrate => exact migratePass_fails h
    | retrySkipped => exact retryPass_fails h
    | listSkipped => exact Fails.bind (listSkipped_fails h) fun listed => Run.count_fails _
  unfold run
  refine Fails.bind (Fails.modify _) ?_
  intro _
  refine Fails.bind hpass ?_
  intro _
  exact Fails.bind Fails.get fun s => Fails.pure _

end
end Migrator

/-! ## The mapping store of a trial -/

/-- A column of some row cannot be read. -/
def StoreError.IsUnreadable (e : StoreError) : Prop :=
  ∃ column cause, e = .database (.unreadable column cause)

namespace Store

/-- The database has failed, or what it holds cannot be read. -/
def IsDatabase (e : StoreError) (_ : Database) : Prop := ∃ cause, e = .database cause

variable {α : Type} {t : StoreTables}

theorem ask_fails (question : Database → Except DatabaseError α) :
    Fails (ask question) IsDatabase := by
  intro db
  unfold Action.run ask
  cases question db with
  | ok a => trivial
  | error cause => exact ⟨cause, rfl⟩

theorem row?_fails (id : String) : Fails (row? t id) IsDatabase := ask_fails _

theorem exists_fails (id : String) : Fails (Store.exists t id) IsDatabase :=
  Fails.bind (row?_fails id) fun _ => Fails.pure _

theorem targetKey?_fails (id : String) : Fails (targetKey? t id) IsDatabase :=
  Fails.bind (row?_fails id) fun _ => Fails.pure _

theorem countSkipped_fails (type : EntityType) : Fails (countSkipped t type) IsDatabase :=
  ask_fails _

theorem latest?_fails (type : EntityType) : Fails (latest? t type) IsDatabase := by
  unfold latest?
  refine Fails.bind (ask_fails _) ?_
  intro rows
  split
  · exact Fails.pure none
  · split
    · exact Fails.pure _
    · exact Fails.fail fun _ => ⟨_, rfl⟩

theorem read_eq_error {r : Row} {e : StoreError} (h : read r = .error e) : e.IsUnreadable := by
  unfold read at h
  cases hrecord : r.record with
  | ok record =>
    rw [hrecord] at h
    cases h
  | error cause =>
    rw [hrecord] at h
    cases h
    exact ⟨_, _, rfl⟩

theorem mapM_read_eq_error {rows : List Row} {e : StoreError} (h : rows.mapM read = .error e) :
    e.IsUnreadable := by
  induction rows with
  | nil =>
    rw [List.mapM_nil] at h
    cases h
  | cons r rest ih =>
    rw [List.mapM_cons] at h
    cases hr : read r with
    | error e' =>
      rw [hr] at h
      cases h
      exact read_eq_error hr
    | ok record =>
      rw [hr] at h
      cases hrest : rest.mapM read with
      | error e' =>
        rw [hrest] at h
        cases h
        exact ih hrest
      | ok records =>
        rw [hrest] at h
        cases h

theorem readAll_fails (rows : List Row) :
    Fails (Action.ofExcept (rows.mapM read) : StoreAction (List MappingRecord)) IsDatabase := by
  apply Fails.ofExcept
  intro _ _ hr
  obtain ⟨column, cause, he⟩ := mapM_read_eq_error hr
  exact ⟨_, he⟩

theorem skipped_fails (type : EntityType) (offset limit : Nat) :
    Fails (skipped t type offset limit) IsDatabase := by
  unfold skipped page
  exact Fails.bind (ask_fails _) fun rows => readAll_fails _

end Store

namespace Trial

/-- The mapping store of a trial fails because of its database, or it has rejected a write. -/
def OrRejected (e : StoreError) (d : Trial) : Prop :=
  (∃ cause, e = .database cause) ∨ e ∈ d.rejected

theorem askStore_fails {α : Type} (x : StoreTables → StoreAction α)
    (hx : ∀ t, Fails (x t) Store.IsDatabase) :
    Fails (askStore (Workspace.onStore x)) OrRejected := by
  intro d
  have hinside : Fails (inside (Workspace.onStore x)) OrRejected := by
    apply Fails.onPart
    intro d w
    have hpart : Fails ((x w.tables).onPart Workspace.database
        fun database (w : Workspace) => { w with database })
        fun e _ => ∃ cause, e = .database cause :=
      Fails.onPart fun _ => (hx w.tables).mono fun _ _ he => he
    have hrun := hpart w
    unfold Action.run at hrun ⊢
    unfold Workspace.onStore
    split at hrun
    · trivial
    · exact .inl hrun
  unfold Action.run askStore query
  rcases d.next with ⟨_ | f, d'⟩
  · exact hinside d'
  · exact .inl ⟨_, rfl⟩

theorem write_fails (x : StoreTables → StoreAction Unit) :
    Fails (write (Workspace.onStore x)) OrRejected := by
  intro d
  unfold Action.run write
  rcases d.next with ⟨_ | f, d'⟩
  · dsimp only
    rcases (inside (Workspace.onStore x)).run d' with ⟨_ | a, d''⟩
    · exact .inr (List.mem_append_right _ List.mem_cons_self)
    · trivial
  · exact .inl ⟨_, rfl⟩

theorem recordStore_refuses : recordStore.Refuses OrRejected where
  latest := askStore_fails (fun t => Store.latest? t .processInstance) fun _ => Store.latest?_fails _
  «exists» id := askStore_fails (fun t => Store.exists t id) fun _ => Store.exists_fails id
  targetKey id := askStore_fails (fun t => Store.targetKey? t id) fun _ => Store.targetKey?_fails id
  insert record := write_fails fun t => Store.insert t record
  update id key := write_fails fun t => Store.update t id key
  countSkipped := askStore_fails (fun t => Store.countSkipped t .processInstance)
    fun _ => Store.countSkipped_fails _
  skipped offset limit := askStore_fails (fun t => Store.skipped t .processInstance offset limit)
    fun _ => Store.skipped_fails _ _ _

end Trial

end ProcessMigration
