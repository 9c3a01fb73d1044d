import ProcessMigration.Proofs.Resumption
import ProcessMigration.Proofs.RowOrder
import ProcessMigration.Proofs.WorkspaceRuns

/-!
# Passes as walks

Where the pages of a pass begin and when it hands over depends on its settings. What does not is
the list of the items that it deals with: a pass that comes to its end has walked over the whole of
it, one item after the other.

* `Migrator.Walk` is such a walk, with jobs handed over anywhere in between;
* `Workspace.migrateInstance_rule` is the rule for one instance;
* `Workspace.migratePass_walks`: a pass that migrates walks over the instances behind the place
  where it resumes;
* `Workspace.retryPass_walks`: a pass that retries walks over the records of the rows that were
  skipped when it began. What it carries over leaves the set that it pages through, so the rows
  still to come are those behind the ones that it kept: `Workspace.Ahead`.
-/

namespace ProcessMigration

open ProcessMigration.Action (Triple)

/-- Whatever an action does, it is this action that did it. -/
theorem Action.Triple.result {σ ε α : Type} (P : σ → Prop) (x : Action σ ε α) :
    Triple P x (fun a s' => ∃ s, P s ∧ x.run s = (.ok a, s')) fun _ => True := by
  intro s hs
  rcases hrun : x.run s with ⟨r, s'⟩
  cases r with
  | ok a => exact ⟨s, hs, hrun⟩
  | error e => trivial

/-- What is listed as skipped after a flip is what was listed before, without the id. -/
theorem Store.filter_flippedRows (id : String) (key : Int) (rows : List Row) :
    (flippedRows id key rows).filter (fun r => r.isOf .processInstance && r.isSkipped) =
      (rows.filter fun r => r.isOf .processInstance && r.isSkipped).filter
        fun r => r.legacyId != id := by
  induction rows with
  | nil => rfl
  | cons r rest ih =>
    show ((if flips id r then flipped key r else r) :: flippedRows id key rest).filter _ = _
    by_cases hflips : flips id r = true
    · have hid := (flips_iff.1 hflips).1
      rw [if_pos hflips, List.filter_cons_of_neg (by simp [isSkipped_flipped]), ih,
        List.filter_filter, List.filter_filter, List.filter_cons_of_neg (by simp [hid])]
    · rw [if_neg hflips]
      by_cases hlisted : (r.isOf .processInstance && r.isSkipped) = true
      · have hother : (r.legacyId != id) = true := by
          rw [bne_iff_ne]
          intro hid
          exact hflips (flips_iff.2 ⟨hid, (Bool.and_eq_true_iff.1 hlisted).2⟩)
        rw [List.filter_cons, if_pos hlisted, List.filter_cons, if_pos hlisted, List.filter_cons,
          if_pos hother, ih]
      · rw [List.filter_cons, if_neg hlisted, List.filter_cons, if_neg hlisted, ih]

/-- A page that leaves out the first rows of the listing begins with the next one. -/
theorem Store.skipped_behind {t : StoreTables} {rows before rest : List Row} {db : Database}
    {limit : Nat} (hrows : t.Holds rows db) (hn : rows.length < 2 ^ 63)
    (hlisted : Row.sorted (rows.filter fun r => r.isOf .processInstance && r.isSkipped) =
      before ++ rest) (hpos : 1 ≤ limit) (hlimit : limit < 2 ^ 64) :
    ∃ m, 1 ≤ m ∧ (skipped t .processInstance before.length limit).run db =
      ((rest.take m).mapM read, db) := by
  have hfits : before.length < 2 ^ 63 := by
    have hle := List.length_filter_le (fun r : Row => r.isOf .processInstance && r.isSkipped) rows
    rw [← (Row.sorted_perm _).length_eq, hlisted, List.length_append] at hle
    omega
  obtain ⟨m, hm, hcut⟩ := cut_eq hfits hpos hlimit (before ++ rest)
  rw [List.drop_left] at hcut
  refine ⟨m, hm, ?_⟩
  rw [skipped_run hrows, hlisted, hcut]

/-! ## Walks -/

namespace Migrator

variable {σ α β : Type}

/-- Items are dealt with one after the other, each to its end; jobs are handed over in between. -/
inductive Walk (m : Migrator σ) (f : α → Run σ β) (s₀ : RunState σ) :
    List α → RunState σ → Prop where
  | start : Walk m f s₀ [] s₀
  | drained {done : List α} {s s' : RunState σ} (h : Walk m f s₀ done s)
    (hrun : m.drain.run s = (.ok (), s')) : Walk m f s₀ done s'
  | item {done : List α} {s s' : RunState σ} {x : α} {b : β} (h : Walk m f s₀ done s)
    (hrun : (f x).run s = (.ok b, s')) : Walk m f s₀ (done ++ [x]) s'

namespace Walk

variable {m : Migrator σ} {f : α → Run σ β} {s₀ s : RunState σ} {x : α} {done todo : List α}

/-- A walk over two lists, one after the other, comes by a state in between. -/
theorem split (h : Walk m f s₀ (done ++ todo) s) :
    ∃ s₁, Walk m f s₀ done s₁ ∧ Walk m f s₁ todo s := by
  generalize hall : done ++ todo = all at h
  induction h generalizing todo with
  | start =>
    obtain ⟨rfl, rfl⟩ := List.append_eq_nil_iff.1 hall
    exact ⟨s₀, .start, .start⟩
  | drained h hrun ih =>
    obtain ⟨s₁, hdone, htodo⟩ := ih hall
    exact ⟨s₁, hdone, htodo.drained hrun⟩
  | @item before s s' y b h hrun ih =>
    rcases List.eq_nil_or_concat todo with rfl | ⟨todo', y', rfl⟩
    · rw [List.append_nil] at hall
      subst hall
      exact ⟨s', h.item hrun, .start⟩
    · rw [List.concat_eq_append, ← List.append_assoc] at hall
      obtain ⟨hbefore, hlast⟩ := List.append_inj' hall rfl
      cases hlast
      obtain ⟨s₁, hdone, htodo⟩ := ih hbefore
      exact ⟨s₁, hdone, List.concat_eq_append ▸ htodo.item hrun⟩

/-- A walk over one item deals with it once. -/
theorem single (h : Walk m f s₀ [x] s) : ∃ s₁ b s₂, Walk m f s₀ [] s₁ ∧
    (f x).run s₁ = (.ok b, s₂) ∧ Walk m f s₂ [] s := by
  generalize hall : [x] = all at h
  induction h with
  | start => cases hall
  | drained h hrun ih =>
    obtain ⟨s₁, b, s₂, hbefore, hitem, hafter⟩ := ih hall
    exact ⟨s₁, b, s₂, hbefore, hitem, hafter.drained hrun⟩
  | @item before s s' y b h hrun ih =>
    obtain ⟨rfl, hlast⟩ := List.append_inj' (show [] ++ [x] = before ++ [y] from hall) rfl
    cases hlast
    exact ⟨s, b, s', h, hrun, .start⟩

theorem trans {s₁ : RunState σ} (h : Walk m f s₀ done s₁) (h' : Walk m f s₁ todo s) :
    Walk m f s₀ (done ++ todo) s := by
  induction h' with
  | start =>
    rw [List.append_nil]
    exact h
  | drained _ hrun ih => exact ih.drained hrun
  | item _ hrun ih =>
    rw [← List.append_assoc]
    exact ih.item hrun

/-- A walk deals with each of its items, after those before it and before those behind it. -/
theorem visits (h : Walk m f s₀ (done ++ x :: todo) s) : ∃ s₁ b s₂, Walk m f s₀ done s₁ ∧
    (f x).run s₁ = (.ok b, s₂) ∧ Walk m f s₂ todo s := by
  obtain ⟨s₁, hdone, hfrom⟩ := h.split
  obtain ⟨s₂, hitem, htodo⟩ := split (show Walk m f s₁ ([x] ++ todo) s from hfrom)
  obtain ⟨s₃, b, s₄, hbefore, hrun, hbehind⟩ := hitem.single
  refine ⟨s₃, b, s₄, ?_, hrun, hbehind.trans htodo⟩
  rw [← List.append_nil done]
  exact hdone.trans hbefore

/-- What each item and each drain keeps is kept by the walk. -/
theorem keeps {I : RunState σ → Prop} (hstart : I s₀)
    (hdrain : Triple I m.drain (fun _ => I) fun _ => True)
    (hitem : ∀ x ∈ done, Triple I (f x) (fun _ => I) fun _ => True) (h : Walk m f s₀ done s) :
    I s := by
  induction h with
  | start => exact hstart
  | drained h hrun ih =>
    have hs := hdrain.ok (ih hitem) (congrArg Prod.fst hrun)
    rw [hrun] at hs
    exact hs
  | item h hrun ih =>
    have hbefore := ih fun y hy => hitem y (List.mem_append_left _ hy)
    have hs := (hitem _ (by simp)).ok hbefore (congrArg Prod.fst hrun)
    rw [hrun] at hs
    exact hs

theorem drain_triple (m : Migrator σ) (f : α → Run σ β) (s₀ : RunState σ) (done : List α) :
    Triple (Walk m f s₀ done) m.drain (fun _ => Walk m f s₀ done) fun _ => True :=
  (Triple.result _ _).post fun _ _ ⟨_, h, hrun⟩ => h.drained hrun

theorem drainWhenFull_triple (m : Migrator σ) (f : α → Run σ β) (s₀ : RunState σ) (done : List α) :
    Triple (Walk m f s₀ done) m.drainWhenFull (fun _ => Walk m f s₀ done) fun _ => True := by
  unfold drainWhenFull
  refine Triple.bind (M := fun _ => Walk m f s₀ done) (Triple.get fun s hs => hs) ?_
  intro s₁
  split
  · exact drain_triple m f s₀ done
  · exact Triple.pure fun s hs => hs

end Walk
end Migrator

namespace Workspace

open Migrator (Walk)
open Run (Over)

variable {source : SnapshotSource} {t : StoreTables} {settings : MigrationSettings}
  {pipeline : Pipeline} {s₀ : RunState Workspace}

/-- The migrator works on files. -/
theorem migrator_onFiles (settings : MigrationSettings) (pipeline : Pipeline) :
    (migrator settings pipeline).OnFiles := .inl rfl

/-- The rule for a drain: its questions leave everything as it is, so what its counts and its
commands keep is kept. -/
theorem drain_rule {I : RunState Workspace → Prop}
    (hgiveUp : ∀ s, I s →
      I { s with pending := .empty, givenUp := s.givenUp ++ s.pending.legacyIds })
    (hpending : ∀ s pending, I s → I { s with pending })
    (hcounted : ∀ s jobsActivated externallyStartedJobs unresolvedJobs, I s →
      I { s with report :=
        { s.report with jobsActivated, externallyStartedJobs, unresolvedJobs } })
    (hmodify : ∀ key terminated activations, Triple I
      (Run.engine (onTarget (TargetEngine.modifyInstance key terminated activations))) (fun _ => I)
      fun _ => True)
    (hfetch : Triple I
      (Run.engine (onTarget (TargetEngine.activateJobs settings.jobType settings.maxJobs)))
      (fun _ => I) fun _ => True) :
    Triple I (migrator settings pipeline).drain (fun _ => I) fun _ => True := by
  apply Migrator.Deals.drain
  constructor
  case giveUp => exact hgiveUp
  case pending => exact hpending
  case counted => exact hcounted
  case targetKey =>
    intro id
    exact ((Run.asks_store (fun t => Store.targetKey? t id)
      fun _ => Store.targetKey?_readOnly id).post fun _ _ h => h.1).orFails
  case find =>
    intro id
    exact ((Run.asks_source fun s => .ok (s.find? id)).post fun _ _ h => h.1).orFails
  case prepare =>
    intro i
    exact ((Run.prepares (migrator_onFiles settings pipeline) i).post fun _ _ h => h.1).orFails
  case modify => exact hmodify
  case fetch => exact hfetch
  case failed => exact fun _ _ => trivial

/-! ## Passes that migrate -/

/-- The rule for an instance: what is kept by a record that says it was skipped, and by an instance
that is started, recorded and noted, one after the other. -/
theorem migrateInstance_rule {i : SourceInstance} {I : RunState Workspace → Prop}
    {M N : InstanceHandle → RunState Workspace → Prop}
    (hreport : ∀ s report, I s → I { s with report })
    (hcreate : ∀ request, Triple I
      (Run.engine (onTarget (TargetEngine.createInstance request))) M fun _ => True)
    (hwrite : ∀ handle, Triple (M handle)
      (Run.store (onStore fun t => Store.insert t
        (.migrated i.id handle.instanceKey i.startTime))) (fun _ => N handle) fun _ => True)
    (hnote : ∀ handle s h, N handle s →
      I { s with pending := s.pending.insert handle.instanceKey h })
    (hskip : ∀ reason, Triple I
      (Run.store (onStore fun t => Store.insert t (.skipped i.id i.startTime reason)))
      (fun _ => I) fun _ => True) :
    Triple I ((migrator settings pipeline).migrateInstance i) (fun _ => I) fun _ => True := by
  have hcount : ∀ f, Triple I (Run.count f) (fun _ => I) fun _ => True := by
    intro f
    exact Triple.modify fun s hs => hreport s _ hs
  unfold Migrator.migrateInstance
  refine Triple.bind (hcount _) ?_
  intro _
  refine Triple.bind ((Run.asks_store (fun t => Store.exists t i.id) fun _ =>
    Store.exists_readOnly i.id).post fun _ _ h => h.1).orFails ?_
  intro found
  split
  · exact hcount _
  · refine Triple.bind
      ((Run.prepares (migrator_onFiles settings pipeline) i).post fun _ _ h => h.1).orFails ?_
    intro p
    cases p with
    | ready prepared =>
      refine Triple.bind (M := fun _ => I) ?_ fun _ => hcount _
      exact Triple.bind (hcreate prepared.request) fun handle =>
        Triple.bind (hwrite handle) fun _ => Triple.modify fun s hs => hnote handle s _ hs
    | skip reason => exact Triple.bind (hskip reason) fun _ => hcount _

/-- To deal with an instance changes neither the snapshot nor the tables, and keeps what its records
keep. -/
theorem migrateInstance_over {i : SourceInstance} {J : Database → Prop}
    (hinsert : ∀ record, record.legacyId = i.id →
      Triple J (Store.insert t record) (fun _ => J) J) :
    Triple (Over source t J) ((migrator settings pipeline).migrateInstance i)
      (fun _ => Over source t J) fun _ => True := by
  have hwrite : ∀ record, record.legacyId = i.id →
      Triple (Over source t J) (Run.store (onStore fun t => Store.insert t record))
        (fun _ => Over source t J) fun _ => True := by
    intro record hid
    exact (changes_store_over (fun t => Store.insert t record) (hinsert record hid)).orFails
  refine migrateInstance_rule (M := fun _ => Over source t J) (N := fun _ => Over source t J)
    (fun _ _ hs => hs) ?_ (fun handle => hwrite _ rfl) (fun _ _ _ hs => hs)
    fun reason => hwrite _ rfl
  intro request
  exact (changes_target_over (TargetEngine.createInstance request)).orFails

theorem drainWhenFull_over {J : Database → Prop} :
    Triple (Over source t J) (migrator settings pipeline).drainWhenFull
      (fun _ => Over source t J) (Over source t J) :=
  (keeps_over (migrator_onFiles settings pipeline)).drainWhenFull

/-- Where a pass that migrates stands: it has walked over the instances before this number. -/
def Passed (settings : MigrationSettings) (pipeline : Pipeline) (source : SnapshotSource)
    (t : StoreTables) (s₀ : RunState Workspace) (listed : List SourceInstance)
    (s : RunState Workspace) : Prop :=
  Over source t (fun _ => True) s ∧
    Walk (migrator settings pipeline) (migrator settings pipeline).migrateInstance s₀ listed s

theorem migratePage_walks (listed page : List SourceInstance) :
    Triple (Passed settings pipeline source t s₀ listed)
      (Action.forAll page (migrator settings pipeline).migrateInstance)
      (fun _ => Passed settings pipeline source t s₀ (listed ++ page)) fun _ => True := by
  have hall : Triple (Passed settings pipeline source t s₀ (listed ++ []))
      (Action.forAll page (migrator settings pipeline).migrateInstance)
      (fun _ => Passed settings pipeline source t s₀ (listed ++ page)) fun _ => True := by
    refine Triple.forAll (I := fun done => Passed settings pipeline source t s₀ (listed ++ done)) ?_
    intro done i rest hsplit
    rw [← List.append_assoc]
    have hover : Triple (Over source t fun _ => True)
        ((migrator settings pipeline).migrateInstance i) (fun _ => Over source t fun _ => True)
        fun _ => True :=
      migrateInstance_over fun _ _ => Triple.any (fun _ _ => trivial) fun _ => trivial
    refine (hover.and (Triple.result _ _)).orFails.post ?_
    rintro _ s ⟨hover, s₁, hwalk, hrun⟩
    exact ⟨hover, hwalk.item hrun⟩
  rw [List.append_nil] at hall
  exact hall

/-- Where a pass that migrates stands before the next page. -/
def BeforeInstances (settings : MigrationSettings) (pipeline : Pipeline) (source : SnapshotSource)
    (t : StoreTables) (s₀ : RunState Workspace) (start : Nat) (p : Paging SourceInstance)
    (s : RunState Workspace) : Prop :=
  Visited source start p ∧
    Passed settings pipeline source t s₀ ((source.listing.drop start).take p.itemsVisited) s

/-- Where a pass that migrates stands with the instances of a page still to be dealt with. -/
def OnInstances (settings : MigrationSettings) (pipeline : Pipeline) (source : SnapshotSource)
    (t : StoreTables) (s₀ : RunState Workspace) (start : Nat) (p : Paging SourceInstance)
    (page : List SourceInstance) (s : RunState Workspace) : Prop :=
  Visited source start p ∧ ∃ before, Passed settings pipeline source t s₀ before s ∧
    before ++ page = (source.listing.drop start).take p.itemsVisited

/-- A page begins with the first instance that is still to come. -/
theorem instancePage_walks (hs : source.Ascending) {resume : Option Cursor}
    {p : Paging SourceInstance} {request : PageRequest SourceInstance}
    (hrequest : p.request? = some request) :
    Triple (BeforeInstances settings pipeline source t s₀ (passedOver source resume) p)
      ((migrator settings pipeline).instancePage resume request)
      (fun page s => if page = [] then
          BeforeInstances settings pipeline source t s₀ (passedOver source resume) (p.received []) s
        else OnInstances settings pipeline source t s₀ (passedOver source resume) (p.received page)
          page s)
      fun _ => True := by
  apply Triple.of_state
  rintro s ⟨hvisited, hpassed⟩
  refine (Run.asks_source fun source => .ok (source.listAfter _ _)).orFails.post ?_
  rintro page s' ⟨rfl, hpage⟩
  rw [hpassed.1.1, hvisited.page_eq hs hrequest] at hpage
  have hpage := (Except.ok.inj hpage).symm
  have hnext := hvisited.received hpage
  split
  next hempty =>
    rw [hempty] at hnext
    refine ⟨hnext, ?_⟩
    rw [Paging.itemsVisited_received]
    exact hpassed
  next =>
    refine ⟨hnext, _, hpassed, ?_⟩
    let ahead := source.listing.drop (passedOver source resume)
    have hsame : page = (ahead.drop p.itemsVisited).take page.length := by
      rw [List.drop_drop]
      conv_lhs => rw [hpage]
      rw [hpage, List.length_take, List.take_eq_take_iff, List.length_drop]
      omega
    rw [Paging.itemsVisited_received, List.take_add, ← hsame]

/-- The pages of a pass that is resumed at a place hold all instances behind it. -/
theorem migratePages_walks (hs : source.Ascending) (resume : Option Cursor) :
    Triple (fun s => s = s₀ ∧ s.world.source = source ∧ s.world.tables = t)
      (Paging.forPages ((migrator settings pipeline).instancePage resume)
        (fun paging page => do
          Action.forAll page (migrator settings pipeline).migrateInstance
          (migrator settings pipeline).drainWhenFull
          return paging)
        (Paging.enough source.listing.length)
        (Paging.start .after settings.pageSize (some source.listing.length)))
      (fun _ => Passed settings pipeline source t s₀
        (source.listing.drop (passedOver source resume))) fun _ => True := by
  refine (Triple.forPages
    (I := BeforeInstances settings pipeline source t s₀ (passedOver source resume))
    (M := OnInstances settings pipeline source t s₀ (passedOver source resume))
    (fun _ _ => instancePage_walks hs) ?_ _ _ (Paging.fueled_start _ _ _)).conseq ?_ ?_ fun _ h => h
  · intro p page
    apply Triple.of_state
    rintro s ⟨hvisited, before, hpassed, hbefore⟩
    refine Triple.bind ((migratePage_walks before page).pre fun s' hs' => hs' ▸ hpassed) ?_
    intro _
    refine Triple.bind (drainWhenFull_over.and (Walk.drainWhenFull_triple _ _ _ _)).orFails ?_
    intro _
    apply Triple.pure
    intro s' hs'
    refine ⟨⟨hvisited, ?_⟩, rfl, rfl⟩
    rw [← hbefore]
    exact hs'
  · rintro s ⟨rfl, hsource, htables⟩
    have hstart : passedOver source resume ≤ source.listing.length := by
      cases resume with
      | none => exact Nat.zero_le _
      | some c => exact List.countP_le_length
    exact ⟨.atStart hstart _, ⟨hsource, htables, trivial⟩, .start⟩
  · rintro _ s ⟨p, ⟨hvisited, hpassed⟩, hnone⟩
    -- the last page ends where the listing does
    have hall := hvisited.all_of_request? hnone
    rw [List.take_of_length_le (by rw [List.length_drop]; omega)] at hpassed
    exact hpassed

/-- A pass that comes to its end has walked over the instances behind the place where it resumes,
and then handed over. -/
theorem migratePass_walks (hs : source.Ascending) :
    Triple (fun s => s = s₀ ∧ s.world.source = source) (migrator settings pipeline).migratePass
      (fun _ s' => ∃ resume s,
        ((Store.latest? s₀.world.tables .processInstance).run s₀.world.database).1 = .ok resume ∧
        Walk (migrator settings pipeline) (migrator settings pipeline).migrateInstance s₀
          (source.listing.drop (passedOver source resume)) s ∧
        (migrator settings pipeline).drain.run s = (.ok (), s')) fun _ => True := by
  unfold Migrator.migratePass
  refine Triple.bind (Run.asks_store (fun t => Store.latest? t .processInstance)
    fun _ => Store.latest?_readOnly _).orFails ?_
  intro resume
  apply Triple.of_state
  rintro s₁ ⟨⟨hs₁, hsource⟩, hresume⟩
  subst hs₁
  refine Triple.bind (Run.asks_source fun s => .ok s.count).orFails ?_
  intro total
  apply Triple.of_state
  rintro s ⟨hsame, htotal⟩
  subst hsame
  have htotal : total = source.listing.length := by
    rw [← Except.ok.inj htotal, hsource]
    exact (List.length_map _).symm
  subst htotal
  refine Triple.bind (M := fun _ => Passed settings pipeline source s.world.tables s
    (source.listing.drop (passedOver source resume))) ?_ ?_
  · refine (migratePages_walks hs resume).pre ?_
    rintro s' rfl
    exact ⟨rfl, hsource, rfl⟩
  · intro _
    refine (Triple.result _ _).post ?_
    rintro _ s' ⟨s'', hpassed, hrun⟩
    exact ⟨resume, s'', hresume, hpassed.2, hrun⟩

/-! ## Passes that retry -/

/-- The skipped rows of the table in order: those that were kept, then those still to come. There
are `n` rows in all. -/
def Ahead (t : StoreTables) (n : Nat) (kept todo : List Row) (db : Database) : Prop :=
  ∃ rows, t.Holds rows db ∧ (rows.map (·.legacyId)).Nodup ∧ rows.length = n ∧
    Row.sorted (rows.filter fun r => r.isOf .processInstance && r.isSkipped) = kept ++ todo

/-- A row that is flipped leaves the skipped ones, and the others stay in order. -/
theorem skipped_flippedRows {rows kept todo : List Row} {r : Row}
    (hids : (rows.map (·.legacyId)).Nodup)
    (hlisted : Row.sorted (rows.filter fun r => r.isOf .processInstance && r.isSkipped) =
      kept ++ r :: todo) (key : Int) :
    Row.sorted ((Store.flippedRows r.legacyId key rows).filter fun r =>
      r.isOf .processInstance && r.isSkipped) = kept ++ todo := by
  have hids' : ((rows.filter fun r => r.isOf .processInstance && r.isSkipped).map
      (·.legacyId)).Nodup := hids.sublist (List.filter_sublist.map _)
  have hdistinct : ((kept ++ r :: todo).map (·.legacyId)).Nodup := by
    rw [← hlisted]
    exact ((Row.sorted_perm _).map (·.legacyId)).nodup_iff.2 hids'
  rw [List.map_append, List.map_cons, List.nodup_middle, List.nodup_cons, ← List.map_append]
    at hdistinct
  have hothers : ∀ r' ∈ kept ++ todo, (r'.legacyId != r.legacyId) = true := by
    intro r' hr'
    rw [bne_iff_ne]
    intro hsame
    exact hdistinct.1 (hsame ▸ List.mem_map_of_mem hr')
  rw [List.forall_mem_append] at hothers
  rw [Store.filter_flippedRows, ← Row.sorted_filter hids', hlisted, List.filter_append,
    List.filter_cons_of_neg (by simp), List.filter_eq_self.2 hothers.1,
    List.filter_eq_self.2 hothers.2]

/-- To carry a row over takes it out of those still to come. -/
theorem update_ahead {n : Nat} {kept todo : List Row} (r : Row) (key : Int) :
    Triple (Ahead t n kept (r :: todo)) (Store.update t r.legacyId key)
      (fun _ => Ahead t n kept todo) fun _ => True := by
  apply Triple.of_exists
  intro rows
  apply Triple.of_state
  rintro db ⟨hrows, hids, hlength, hlisted⟩
  refine (Store.update_triple t rows r.legacyId key).conseq (fun _ h => h ▸ hrows) ?_
    fun _ _ => trivial
  intro _ db' ⟨hdb', _⟩
  refine ⟨_, hdb', ?_, (List.length_map _).trans hlength, skipped_flippedRows hids hlisted key⟩
  rw [Store.legacyIds_flippedRows]
  exact hids

variable {n : Nat} {kept later listed : List Row}

/-- A record is tried again: its row is carried over, or it is kept. -/
theorem retryRecord_ahead {r : Row} {record : MappingRecord} (hread : Store.read r = .ok record) :
    Triple (Over source t (Ahead t n kept (r :: later)))
      ((migrator settings pipeline).retryRecord record)
      (fun carried => Over source t (Ahead t n (if carried then kept else kept ++ [r]) later))
      fun _ => True := by
  -- a row that stays as it was goes over to those that were kept
  have hkept : ∀ s : RunState Workspace, Over source t (Ahead t n kept (r :: later)) s →
      Over source t (Ahead t n (kept ++ [r]) later) s := by
    rintro s ⟨hsource, htables, rows, hrows, hids, hlength, hlisted⟩
    exact ⟨hsource, htables, rows, hrows, hids, hlength, by rw [hlisted, List.append_cons]⟩
  unfold Migrator.retryRecord
  refine Triple.bind (M := fun _ => Over source t (Ahead t n kept (r :: later)))
    (Triple.modify fun s hs => hs) ?_
  intro _
  refine Triple.bind (asks_source_over fun s => .ok (s.find? record.legacyId)).orFails ?_
  intro found
  cases found with
  | none =>
    refine Triple.bind (M := fun _ => Over source t (Ahead t n kept (r :: later)))
      (Triple.modify fun s hs => hs.1) fun _ => Triple.pure hkept
  | some i =>
    apply Triple.of_state
    rintro s ⟨hs, hfound⟩
    have hid : i.id = r.legacyId :=
      (SnapshotSource.mem_of_find? (Except.ok.inj hfound)).2.trans (Row.legacyId_of_read hread)
    refine Triple.bind ((Run.prepares (migrator_onFiles settings pipeline) i).conseq
      (fun _ h => h ▸ hs) (fun _ _ h => h.1) fun _ h => h).orFails ?_
    intro p
    cases p with
    | ready prepared =>
      refine Triple.bind (M := fun _ => Over source t (Ahead t n kept later)) ?_ ?_
      · unfold Migrator.start
        refine Triple.bind
          (changes_target_over (TargetEngine.createInstance prepared.request)).orFails ?_
        intro handle
        refine Triple.bind (M := fun _ => Over source t (Ahead t n kept later)) ?_
          fun _ => Triple.modify fun s hs => hs
        refine Run.changes_store (fun t => Store.update t i.id handle.instanceKey) ?_
        rintro s' ⟨hsource, htables, hahead⟩
        rw [htables, hid]
        exact (update_ahead r handle.instanceKey).conseq (fun _ h => h ▸ hahead)
          (fun _ _ h => ⟨hsource, htables, h⟩) fun _ _ => trivial
      · intro _
        exact Triple.bind (M := fun _ => Over source t (Ahead t n kept later))
          (Triple.modify fun s hs => hs) fun _ => Triple.pure fun s hs => hs
    | skip reason =>
      exact Triple.bind (M := fun _ => Over source t (Ahead t n kept (r :: later)))
        (Triple.modify fun s hs => hs) fun _ => Triple.pure hkept

/-- Where a pass that retries stands in the listing of the skipped rows: the records of the first
rows have been tried again, some of these rows were kept, and the others are still to come. -/
structure Revisiting (settings : MigrationSettings) (pipeline : Pipeline) (source : SnapshotSource)
    (t : StoreTables) (n : Nat) (s₀ : RunState Workspace) (listed kept later : List Row)
    (records : List MappingRecord) (s : RunState Workspace) : Prop where
  ahead : Over source t (Ahead t n kept later) s
  walk : Walk (migrator settings pipeline) (migrator settings pipeline).retryRecord s₀ records s
  tried : ∃ tried, listed = tried ++ later ∧ Store.ReadAs tried records

/-- Where a pass that retries stands before the next page. -/
def BeforePage (settings : MigrationSettings) (pipeline : Pipeline) (source : SnapshotSource)
    (t : StoreTables) (n : Nat) (s₀ : RunState Workspace) (listed : List Row)
    (p : Paging MappingRecord) (s : RunState Workspace) : Prop :=
  ∃ kept later records, Revisiting settings pipeline source t n s₀ listed kept later records s ∧
    p.Reached .pinned settings.pageSize listed.length kept.length records.length ∧
    (p.exhausted = true → later = [])

/-- Where a pass that retries stands with these records of a page still to be tried again. -/
def OnPage (settings : MigrationSettings) (pipeline : Pipeline) (source : SnapshotSource)
    (t : StoreTables) (n : Nat) (s₀ : RunState Workspace) (listed : List Row)
    (p : Paging MappingRecord) (page : List MappingRecord) (s : RunState Workspace) : Prop :=
  ∃ kept now later records,
    Revisiting settings pipeline source t n s₀ listed kept (now ++ later) records s ∧
    Store.ReadAs now page ∧
    p.Reached .pinned settings.pageSize listed.length kept.length
      (records.length + page.length) ∧
    p.exhausted = false

/-- A page begins with the first row that is still to come. -/
theorem skippedPage_revisits (hn : n < 2 ^ 63) (hsize : settings.pageSize < 2 ^ 64)
    {p : Paging MappingRecord} {request : PageRequest MappingRecord}
    (hrequest : p.request? = some request) :
    Triple (BeforePage settings pipeline source t n s₀ listed p)
      ((migrator settings pipeline).skippedPage request)
      (fun page s =>
        if page = [] then BeforePage settings pipeline source t n s₀ listed (p.received []) s
        else OnPage settings pipeline source t n s₀ listed (p.received page) page s)
      fun _ => True := by
  apply Triple.of_state
  rintro s ⟨kept, later, records, hat, hpinned, _⟩
  have hoffset := (hpinned.offset_eq hrequest).1 rfl
  have hlimit := hpinned.limit_eq hrequest
  obtain ⟨rows, hrows, _, hlength, hlisted⟩ := hat.ahead.2.2
  obtain ⟨m, hm, hpage⟩ := Store.skipped_behind hrows (hlength ▸ hn) hlisted
    (show 1 ≤ request.limit by omega) (show request.limit < 2 ^ 64 by omega)
  refine (Run.asks_store
    (fun t => Store.skipped t .processInstance request.offset request.limit)
    fun _ => Store.skipped_readOnly _ _ _).orFails.post ?_
  rintro page s' ⟨rfl, hanswer⟩
  rw [hat.ahead.2.1, hoffset, hpage, Store.readAs_iff] at hanswer
  split
  next hempty =>
    -- an empty page leaves nothing behind it
    rw [hempty] at hanswer
    exact ⟨kept, later, records, hat, hpinned.received_nil, fun _ => hanswer.eq_nil_of_take hm⟩
  next hnonempty =>
    refine ⟨kept, later.take m, later.drop m, records, ?_, hanswer,
      hpinned.received (by decide) hnonempty⟩
    rw [List.take_append_drop]
    exact hat

/-- The records of a page are tried again one after the other. -/
theorem retryPage_revisits (page : List MappingRecord) (p : Paging MappingRecord) :
    Triple (OnPage settings pipeline source t n s₀ listed p page)
      ((migrator settings pipeline).retryPage p page)
      (fun p' s => OnPage settings pipeline source t n s₀ listed p' [] s ∧ p'.total = p.total ∧
        p'.itemsVisited = p.itemsVisited) fun _ => True := by
  induction page generalizing p with
  | nil => exact Triple.pure fun s hs => ⟨hs, rfl, rfl⟩
  | cons record page ih =>
    apply Triple.of_state
    rintro s ⟨kept, now, later, records, hat, hnow, hpinned, hactive⟩
    obtain ⟨r, now', hread, hnow', rfl⟩ := List.forall₂_cons_right_iff.1 hnow
    obtain ⟨tried, hlisted, htried⟩ := hat.tried
    have htried' : ∃ tried, listed = tried ++ (now' ++ later) ∧
        Store.ReadAs tried (records ++ [record]) :=
      ⟨tried ++ [r], by simpa using hlisted, List.rel_append htried (.cons hread .nil)⟩
    have hlength : records.length + (record :: page).length =
        (records ++ [record]).length + page.length := by
      simp only [List.length_append, List.length_cons, List.length_nil]
      omega
    rw [hlength] at hpinned
    unfold Migrator.retryPage
    refine Triple.bind (((retryRecord_ahead hread).and (Triple.result _ _)).pre
      fun s' hs' => ⟨hs' ▸ hat.ahead, hs' ▸ hat.walk⟩).orFails ?_
    intro carried
    cases carried with
    | true =>
      -- the row has left the set, and the offset stays
      refine (ih p).pre ?_
      rintro s' ⟨hover, s'', hwalk, hrun⟩
      exact ⟨kept, now', later, records ++ [record], ⟨hover, hwalk.item hrun, htried'⟩, hnow',
        hpinned, hactive⟩
    | false =>
      refine (ih p.keepOne).pre ?_
      rintro s' ⟨hover, s'', hwalk, hrun⟩
      refine ⟨kept ++ [r], now', later, records ++ [record], ⟨hover, hwalk.item hrun, htried'⟩,
        hnow', ?_, hactive⟩
      rw [List.length_append]
      exact hpinned.keepOne

/-- A page is tried again, and jobs are handed over if that is due. -/
theorem retriedPage_revisits (p : Paging MappingRecord) (page : List MappingRecord) :
    Triple (OnPage settings pipeline source t n s₀ listed p page)
      (do
        let p' ← (migrator settings pipeline).retryPage p page
        (migrator settings pipeline).drainWhenFull
        return p')
      (fun p' s => BeforePage settings pipeline source t n s₀ listed p' s ∧ p'.total = p.total ∧
        p'.itemsVisited = p.itemsVisited) fun _ => True := by
  refine Triple.bind (retryPage_revisits page p) ?_
  intro p'
  apply Triple.of_state
  rintro s ⟨⟨kept, now, later, records, hat, hnow, hpinned, hactive⟩, htotal, hvisited⟩
  cases hnow
  refine Triple.bind ((drainWhenFull_over.and (Walk.drainWhenFull_triple _ _ _ _)).pre
    fun s' hs' => ⟨hs' ▸ hat.ahead, hs' ▸ hat.walk⟩).orFails ?_
  intro _
  apply Triple.pure
  rintro s' ⟨hover, hwalk⟩
  refine ⟨⟨kept, later, records, ?_, hpinned, ?_⟩, htotal, hvisited⟩
  · exact ⟨hover, hwalk, hat.tried⟩
  · intro hexhausted
    rw [hactive] at hexhausted
    cases hexhausted

/-- When no page is asked for any more, the records of all rows have been tried again. -/
theorem BeforePage.all_tried {p : Paging MappingRecord} {s : RunState Workspace}
    (h : BeforePage settings pipeline source t n s₀ listed p s) (hnone : p.request? = none) :
    ∃ records, Store.ReadAs listed records ∧
      Walk (migrator settings pipeline) (migrator settings pipeline).retryRecord s₀ records s := by
  obtain ⟨kept, later, records, hat, hpinned, hexhausted⟩ := h
  obtain ⟨tried, hlisted, htried⟩ := hat.tried
  have hlength := congrArg List.length hlisted
  rw [List.length_append, htried.length_eq] at hlength
  have hlater : later = [] := hpinned.nothing_left hlength hexhausted hnone
  rw [hlater, List.append_nil] at hlisted
  exact ⟨records, hlisted ▸ htried, hat.walk⟩

/-- A pass that comes to its end has walked over the records of all rows that were skipped when it
began, and then handed over. -/
theorem retryPass_walks {rows : List Row} (hids : (rows.map (·.legacyId)).Nodup)
    (hn : rows.length < 2 ^ 63) (hsize : settings.pageSize < 2 ^ 64) :
    Triple (fun s => s = s₀ ∧ t.Holds rows s.world.database ∧ s.world.tables = t)
      (migrator settings pipeline).retryPass
      (fun _ s' => ∃ records s,
        Store.ReadAs (Row.sorted (rows.filter fun r => r.isOf .processInstance && r.isSkipped))
          records ∧
        Walk (migrator settings pipeline) (migrator settings pipeline).retryRecord s₀ records s ∧
        (migrator settings pipeline).drain.run s = (.ok (), s')) fun _ => True := by
  let listed := Row.sorted (rows.filter fun r => r.isOf .processInstance && r.isSkipped)
  unfold Migrator.retryPass
  refine Triple.bind (Run.asks_store (fun t => Store.countSkipped t .processInstance)
    fun _ => Store.countSkipped_readOnly _).orFails ?_
  intro total
  apply Triple.of_state
  rintro s ⟨⟨hsame, hrows, htables⟩, htotal⟩
  subst hsame
  have htotal : total = listed.length := by
    rw [htables, Store.countSkipped_answered hrows] at htotal
    rw [← Except.ok.inj htotal, (Row.sorted_perm _).length_eq, List.countP_eq_length_filter]
  subst htotal
  refine Triple.bind ((Triple.forPages
    (I := BeforePage settings pipeline s.world.source t rows.length s listed)
    (M := OnPage settings pipeline s.world.source t rows.length s listed)
    (fun _ _ => skippedPage_revisits hn hsize) retriedPage_revisits _ _
    (Paging.fueled_start _ _ _)).pre ?_) ?_
  · -- before the first page all rows are still to come
    rintro s' rfl
    refine ⟨[], listed, [], ⟨⟨rfl, htables, rows, hrows, hids, rfl, rfl⟩, .start, [], rfl, .nil⟩,
      Paging.reached_start _ _ _, ?_⟩
    intro h
    cases h
  · intro _
    refine (Triple.result _ _).post ?_
    rintro _ s' ⟨s'', ⟨p, hbefore, hnone⟩, hrun⟩
    obtain ⟨records, hread, hwalk⟩ := hbefore.all_tried hnone
    exact ⟨records, s'', hread, hwalk, hrun⟩

end Workspace
end ProcessMigration
