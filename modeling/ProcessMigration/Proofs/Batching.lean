import ProcessMigration.Proofs.Ownership
import ProcessMigration.Proofs.TwoRuns

/-!
# Sizes of pages and batches

The settings say how many instances or records make up a page and how many jobs are asked for at
once. They decide when a run looks at what and when it hands over, but not what comes of it.

* `Workspace.listSkipped_prints`: a listing of the skipped records prints them all, or some of them
  cannot be read;
* `Workspace.migratePass_agrees`, `Workspace.retryPass_agrees`: two passes over the same instances
  or records agree if both come to their ends;
* `Workspace.batching_keeps_outcome` puts it together for runs of all modes, and
  `Workspace.listings_differ` shows why a listing has to come to its end.
-/

namespace ProcessMigration

open ProcessMigration.Action (Triple)

/-! ## Listings -/

/-- The text that lists these skipped records. -/
def Migrator.skippedText (records : List MappingRecord) : String :=
  if records.isEmpty then nothingSkipped
  else (records.map skippedLine).foldl (· ++ ·) skippedHeading

namespace Workspace

variable {settings : MigrationSettings} {pipeline : Pipeline} {t : StoreTables}
  {rows listed : List Row} {s₀ : RunState Workspace}

/-- The state of a run that has printed a text. -/
def printed (s₀ : RunState Workspace) (text : String) : RunState Workspace :=
  { s₀ with output := ⟨text, none⟩ }

theorem print_prints (text more : String) :
    Triple (fun s => s = printed s₀ text) (Run.print more)
      (fun _ s => s = printed s₀ (text ++ more)) fun _ => False := by
  rintro s rfl
  rw [Run.run_print rfl]
  rfl

theorem printPage_prints (page : List MappingRecord) (text : String) :
    Triple (fun s => s = printed s₀ text)
      (Action.forAll page fun r => Run.print (Migrator.skippedLine r))
      (fun _ s => s = printed s₀ ((page.map Migrator.skippedLine).foldl (· ++ ·) text))
      fun _ => False := by
  induction page generalizing text with
  | nil => exact Triple.pure fun s hs => hs
  | cons r rest ih => exact Triple.bind (print_prints text _) fun _ => ih _

/-- The rows of a listing cannot all be read. -/
def Illegible (listed : List Row) : Prop := ¬∃ records, Store.ReadAs listed records

/-- Where a listing stands: these records are printed, these rows are still to come. -/
structure Listed (s₀ : RunState Workspace) (listed : List Row) (done : List MappingRecord)
    (rest : List Row) (s : RunState Workspace) : Prop where
  state : s = printed s₀ ((done.map Migrator.skippedLine).foldl (· ++ ·) Migrator.skippedHeading)
  read : ∃ before, listed = before ++ rest ∧ Store.ReadAs before done

/-- Where a listing stands before the next page. -/
def BeforeLines (settings : MigrationSettings) (s₀ : RunState Workspace) (listed : List Row)
    (p : Paging MappingRecord) (s : RunState Workspace) : Prop :=
  ∃ done rest, Listed s₀ listed done rest s ∧
    p.Reached .offset settings.pageSize listed.length 0 done.length ∧
    (p.exhausted = true → rest = [])

/-- Where a listing stands with these records of a page to be printed. -/
def OnLines (settings : MigrationSettings) (s₀ : RunState Workspace) (listed : List Row)
    (p : Paging MappingRecord) (page : List MappingRecord) (s : RunState Workspace) : Prop :=
  ∃ done now rest, Listed s₀ listed done (now ++ rest) s ∧ Store.ReadAs now page ∧
    p.Reached .offset settings.pageSize listed.length 0 (done.length + page.length) ∧
    p.exhausted = false

/-- A listing begins by counting the rows that are to be listed. -/
theorem countListed_run {s : RunState Workspace}
    (hrows : s.world.tables.Holds rows s.world.database) :
    (Run.store (migrator settings pipeline).env.store.countSkipped).run s =
      (.ok (Row.sorted (rows.filter fun r => r.isOf .processInstance && r.isSkipped)).length,
        s) := by
  refine Run.run_query (x := fun t => Store.countSkipped t .processInstance) (r := .ok _)
    (fun _ => Store.countSkipped_readOnly _) ?_
  rw [Store.countSkipped_answered hrows, (Row.sorted_perm _).length_eq,
    List.countP_eq_length_filter]

/-- The next page of a listing begins with the first row that is still to come, or some row cannot
be read. -/
theorem skippedPage_lists (hrows : t.Holds rows s₀.world.database) (htables : s₀.world.tables = t)
    (hn : rows.length < 2 ^ 63) (hsize : settings.pageSize < 2 ^ 64)
    (hlisted : Row.sorted (rows.filter fun r => r.isOf .processInstance && r.isSkipped) = listed)
    {p : Paging MappingRecord} {request : PageRequest MappingRecord}
    (hrequest : p.request? = some request) :
    Triple (BeforeLines settings s₀ listed p) ((migrator settings pipeline).skippedPage request)
      (fun page s => if page = [] then BeforeLines settings s₀ listed (p.received []) s
        else OnLines settings s₀ listed (p.received page) page s)
      fun _ => Illegible listed := by
  rintro s ⟨done, rest, ⟨rfl, before, hsplit, hread⟩, hreached, _⟩
  have hoffset : request.offset = before.length :=
    ((hreached.offset_eq hrequest).2 rfl).trans hread.length_eq.symm
  have hlimit := hreached.limit_eq hrequest
  subst htables
  obtain ⟨m, hm, hanswer⟩ := Store.skipped_behind hrows hn (hlisted.trans hsplit)
    (show 1 ≤ request.limit by omega) (show request.limit < 2 ^ 64 by omega)
  rw [← hoffset] at hanswer
  let now := printed s₀ ((done.map Migrator.skippedLine).foldl (· ++ ·) Migrator.skippedHeading)
  have hrun : ((migrator settings pipeline).skippedPage request).run now =
      (((rest.take m).mapM Store.read).mapError .store, now) :=
    Run.run_query (x := fun t => Store.skipped t .processInstance request.offset request.limit)
      (s := now) (fun _ => Store.skipped_readOnly _ _ _) (congrArg Prod.fst hanswer)
  rw [hrun]
  cases hpage : (rest.take m).mapM Store.read with
  | error e =>
    rintro ⟨records, hall⟩
    have htaken := List.forall₂_take m (List.forall₂_drop before.length hall)
    rw [hsplit, List.drop_left] at htaken
    rw [Store.readAs_iff.2 htaken] at hpage
    cases hpage
  | ok page =>
    rw [Store.readAs_iff] at hpage
    show if page = [] then _ else _
    split
    next hempty =>
      -- an empty page leaves nothing behind it
      rw [hempty] at hpage
      exact ⟨done, rest, ⟨rfl, before, hsplit, hread⟩, hreached.received_nil,
        fun _ => hpage.eq_nil_of_take hm⟩
    next hnonempty =>
      refine ⟨done, rest.take m, rest.drop m, ⟨rfl, before, ?_, hread⟩, hpage,
        hreached.received (by decide) hnonempty⟩
      rw [List.take_append_drop]
      exact hsplit

/-- The pages of a listing hold all skipped records, or some of them cannot be read. -/
theorem listPages_prints (hrows : t.Holds rows s₀.world.database) (htables : s₀.world.tables = t)
    (hn : rows.length < 2 ^ 63) (hsize : settings.pageSize < 2 ^ 64)
    (hlisted : Row.sorted (rows.filter fun r => r.isOf .processInstance && r.isSkipped) = listed) :
    Triple (fun s => s = printed s₀ Migrator.skippedHeading)
      (Paging.forEach (migrator settings pipeline).skippedPage
        (fun r => Run.print (Migrator.skippedLine r)) (Paging.enough listed.length)
        (Paging.start .offset settings.pageSize (some listed.length)))
      (fun p s => ∃ records, Store.ReadAs listed records ∧ p.itemsVisited = records.length ∧
        s = printed s₀ ((records.map Migrator.skippedLine).foldl (· ++ ·) Migrator.skippedHeading))
      fun _ => Illegible listed := by
  refine ((Triple.forPages_visited (I := BeforeLines settings s₀ listed)
    (M := OnLines settings s₀ listed) ?_ ?_ _ _ (Paging.fueled_start _ _ _)).pre ?_).post ?_
  · intro p request hrequest
    exact skippedPage_lists hrows htables hn hsize hlisted hrequest
  · intro p page
    apply Triple.of_state
    rintro s ⟨done, now, rest, ⟨hs, before, hsplit, hread⟩, hnow, hreached, hactive⟩
    refine Triple.bind (((printPage_prints page _).pre fun s' h => h.trans hs).succeeds) ?_
    intro _
    apply Triple.pure
    intro s' hs'
    refine ⟨⟨done ++ page, rest, ⟨?_, before ++ now, ?_, ?_⟩, ?_, ?_⟩, rfl, rfl⟩
    · rw [List.map_append, List.foldl_append]
      exact hs'
    · rw [List.append_assoc]
      exact hsplit
    · exact List.rel_append hread hnow
    · rw [List.length_append]
      exact hreached
    · intro hexhausted
      rw [hactive] at hexhausted
      cases hexhausted
  · rintro s rfl
    exact ⟨[], listed, ⟨rfl, [], rfl, .nil⟩, Paging.reached_start _ _ _, fun h => by cases h⟩
  · rintro p s ⟨p₀, ⟨done, rest, ⟨hs, before, hsplit, hread⟩, hreached, hexhausted⟩, hnone, hvisited⟩
    have hlength := congrArg List.length hsplit
    rw [List.length_append, hread.length_eq] at hlength
    have hrest : rest = [] := hreached.nothing_left hlength hexhausted hnone
    rw [hrest, List.append_nil] at hsplit
    exact ⟨done, hsplit ▸ hread, hvisited.trans hreached.visited, hs⟩

/-- A listing prints all skipped records, or some of them cannot be read. -/
theorem listSkipped_prints (hrows : t.Holds rows s₀.world.database) (htables : s₀.world.tables = t)
    (hn : rows.length < 2 ^ 63) (hsize : settings.pageSize < 2 ^ 64)
    (hlisted : Row.sorted (rows.filter fun r => r.isOf .processInstance && r.isSkipped) = listed)
    (hblank : s₀.output = {}) :
    Triple (fun s => s = s₀) (migrator settings pipeline).listSkipped
      (fun n s => ∃ records, Store.ReadAs listed records ∧ n = records.length ∧
        s = printed s₀ (Migrator.skippedText records))
      fun _ => Illegible listed := by
  have hcount : (Run.store (migrator settings pipeline).env.store.countSkipped).run s₀ =
      (.ok listed.length, s₀) := by
    subst htables
    rw [← hlisted]
    exact countListed_run hrows
  have hprints : ∀ text, Triple (fun s => s = s₀) (Run.print text)
      (fun _ s => s = printed s₀ text) fun _ => Illegible listed := by
    rintro text s rfl
    rw [Run.run_print (by rw [hblank]), hblank]
    exact congrArg (printed s) (String.empty_append)
  rintro s rfl
  unfold Migrator.listSkipped
  rw [Action.run_bind_ok hcount]
  suffices hall : Triple (fun s' => s' = s) _ _ _ from hall s rfl
  split
  · next hnone =>
    refine Triple.bind (hprints _) ?_
    intro _
    apply Triple.pure
    intro s' hs'
    refine ⟨[], ?_, rfl, hs'⟩
    rw [List.length_eq_zero_iff.1 hnone]
    exact .nil
  · next hsome =>
    refine Triple.bind (hprints _) ?_
    intro _
    refine Triple.bind (listPages_prints hrows htables hn hsize hlisted) ?_
    intro p
    apply Triple.pure
    rintro s' ⟨records, hread, hvisited, hs'⟩
    refine ⟨records, hread, hvisited, ?_⟩
    -- more than none were counted, so the heading was the right beginning
    have hmore : records.isEmpty = false := by
      cases records with
      | nil => exact absurd hread.length_eq hsome
      | cons record rest => rfl
    unfold Migrator.skippedText
    rw [hmore]
    exact hs'

/-! ## Passes side by side -/

open Migrator (Walk)
open RunState (Agree)

variable {settings' : MigrationSettings} {base : JournalFile} {s s' : RunState Workspace}

/-- Two walks that agree still do after the last drain of each. -/
theorem lastDrains_agree {u u' : RunState Workspace} (h : Agree base s u)
    (hs : (migrator settings pipeline).drain.run s = (.ok (), s'))
    (hu : (migrator settings' pipeline).drain.run u = (.ok (), u')) : Agree base s' u' := by
  have hleft := (drain_agree u).ok h (congrArg Prod.fst hs)
  rw [hs] at hleft
  have hright := (drain_agree_right s').ok hleft (congrArg Prod.fst hu)
  rw [hu] at hright
  exact hright

theorem migratePass_agrees (hchecks : settings.validator = settings'.validator)
    (hs : s₀.world.source.Ascending)
    (h : (migrator settings pipeline).migratePass.run s₀ = (.ok (), s))
    (h' : (migrator settings' pipeline).migratePass.run s₀ = (.ok (), s')) :
    Agree s₀.world.target.journal s s' := by
  have hwalks := (migratePass_walks hs).ok ⟨rfl, rfl⟩ (congrArg Prod.fst h)
  have hwalks' := (migratePass_walks hs).ok ⟨rfl, rfl⟩ (congrArg Prod.fst h')
  rw [h] at hwalks
  rw [h'] at hwalks'
  obtain ⟨resume, s₁, hresume, hwalk, hlast⟩ := hwalks
  obtain ⟨resume', s₁', hresume', hwalk', hlast'⟩ := hwalks'
  cases hresume.symm.trans hresume'
  have hagree := Walk.alike (migrateInstance_alike hchecks) drain_agree drain_agree_right
    (.refl s₀) hwalk hwalk'
  exact lastDrains_agree hagree hlast hlast'

theorem retryPass_agrees (hchecks : settings.validator = settings'.validator)
    (hrows : s₀.world.tables.Holds rows s₀.world.database)
    (hids : (rows.map (·.legacyId)).Nodup) (hn : rows.length < 2 ^ 63)
    (hsize : settings.pageSize < 2 ^ 64)
    (hsize' : settings'.pageSize < 2 ^ 64)
    (h : (migrator settings pipeline).retryPass.run s₀ = (.ok (), s))
    (h' : (migrator settings' pipeline).retryPass.run s₀ = (.ok (), s')) :
    Agree s₀.world.target.journal s s' := by
  have hwalks := (retryPass_walks hids hn hsize).ok ⟨rfl, hrows, rfl⟩ (congrArg Prod.fst h)
  have hwalks' := (retryPass_walks hids hn hsize').ok ⟨rfl, hrows, rfl⟩ (congrArg Prod.fst h')
  rw [h] at hwalks
  rw [h'] at hwalks'
  obtain ⟨records, s₁, hread, hwalk, hlast⟩ := hwalks
  obtain ⟨records', s₁', hread', hwalk', hlast'⟩ := hwalks'
  cases hread.unique hread'
  have hagree := Walk.alike (retryRecord_alike hchecks) drain_agree drain_agree_right
    (.refl s₀) hwalk hwalk'
  exact lastDrains_agree hagree hlast hlast'

/-! ## Runs side by side -/

/-- Skipped records are not counted where there is no table of them. -/
theorem countSkipped_refused (hrows : ∀ rows, ¬s.world.tables.Holds rows s.world.database) :
    ∃ e, (Run.store (migrator settings pipeline).env.store.countSkipped).run s = (.error e, s) := by
  unfold StoreTables.Holds at hrows
  cases hdb : s.world.database.rows s.world.tables.mapping with
  | ok rows => exact absurd hdb (hrows rows)
  | error cause =>
    refine ⟨_, Run.run_query (x := fun t => Store.countSkipped t .processInstance)
      (r := .error (.database cause)) (fun _ => Store.countSkipped_readOnly _) ?_⟩
    show ((s.world.database.rows _).map _).mapError _ = _
    rw [hdb]
    rfl

theorem retryPass_refused (hrows : ∀ rows, ¬s.world.tables.Holds rows s.world.database) :
    ¬(migrator settings pipeline).retryPass.run s = (.ok (), s') := by
  obtain ⟨e, herror⟩ := countSkipped_refused hrows
  unfold Migrator.retryPass
  rw [Action.run_bind_error herror]
  intro h
  cases h

theorem listing_refused (hrows : ∀ rows, ¬s.world.tables.Holds rows s.world.database) :
    ¬((migrator settings pipeline).pass .listSkipped).run s = (.ok (), s') := by
  obtain ⟨e, herror⟩ := countSkipped_refused hrows
  unfold Migrator.pass Migrator.listSkipped
  rw [Action.run_bind_error (Action.run_bind_error herror _)]
  intro h
  cases h

variable (settings pipeline) in
/-- What a run that lists does: it prints all skipped records, or it fails. -/
theorem run_listSkipped (hrows : s.world.tables.Holds rows s.world.database)
    (hn : rows.length < 2 ^ 63) (hsize : settings.pageSize < 2 ^ 64)
    (hlisted : Row.sorted (rows.filter fun r => r.isOf .processInstance && r.isSkipped) = listed) :
    match ((migrator settings pipeline).run .listSkipped).run s with
    | (.ok report, s') => ∃ records, Store.ReadAs listed records ∧
      report = { mode := .listSkipped, listed := records.length } ∧
      s' = { printed (Migrator.fresh .listSkipped s) (Migrator.skippedText records) with report }
    | (.error _, _) => Illegible listed := by
  have hpass : Triple (fun s' => s' = Migrator.fresh .listSkipped s)
      ((migrator settings pipeline).pass .listSkipped)
      (fun _ s' => ∃ records, Store.ReadAs listed records ∧
        s' = { printed (Migrator.fresh .listSkipped s) (Migrator.skippedText records) with
          report := { mode := .listSkipped, listed := records.length } })
      fun _ => Illegible listed := by
    refine Triple.bind (listSkipped_prints hrows rfl hn hsize hlisted rfl) ?_
    intro n
    refine Triple.modify ?_
    rintro s' ⟨records, hread, rfl, rfl⟩
    exact ⟨records, hread, rfl⟩
  have hruns := hpass _ rfl
  rcases hrun : ((migrator settings pipeline).pass .listSkipped).run
    (Migrator.fresh .listSkipped s) with ⟨e | ⟨⟩, s'⟩
  · rw [hrun] at hruns
    rw [Migrator.run_error hrun]
    exact hruns
  · rw [hrun] at hruns
    rw [Migrator.run_ok hrun]
    obtain ⟨records, hread, rfl⟩ := hruns
    exact ⟨records, hread, rfl, rfl⟩

end Workspace

/-- The settings with other sizes of pages and of batches of jobs. -/
def MigrationSettings.batched (settings : MigrationSettings) (pageSize maxJobs : Nat) :
    MigrationSettings :=
  { settings with pageSize, maxJobs }

/-- What two runs from a state have in common when they have the same outcome. -/
structure SameOutcome (s : RunState Workspace) (r₁ r₂ : Report × RunState Workspace) : Prop where
  /-- The mapping table is the same, row by row, and so is the rest of the database. -/
  database : r₁.2.world.database = r₂.2.world.database
  /-- The same instances were started in the same order with the same keys. -/
  started : ∃ es₁ es₂, s.world.target.journal.Extends es₁ r₁.2.world.target.journal ∧
    s.world.target.journal.Extends es₂ r₂.2.world.target.journal ∧
    JournalEntry.startedIn es₁ = JournalEntry.startedIn es₂
  /-- The same was counted, apart from jobs. -/
  counted : r₁.1.withoutJobs = r₂.1.withoutJobs
  printed : r₁.2.output = r₂.2.output

theorem RunState.Agree.sameOutcome {s s₁ s₂ : RunState Workspace} {mode : Mode}
    (h : RunState.Agree (Migrator.fresh mode s).world.target.journal s₁ s₂) :
    SameOutcome s (s₁.report, s₁) (s₂.report, s₂) :=
  ⟨h.database, h.target.started, h.report, h.output⟩

namespace Workspace

/-- A listing that comes to its end with one size of pages does so with any other, and prints the
same. -/
theorem listing_agrees {settings settings' : MigrationSettings} {pipeline : Pipeline}
    {s s₁ : RunState Workspace} {report₁ : Report} (hsize : settings.pageSize < 2 ^ 64)
    (hsize' : settings'.pageSize < 2 ^ 64)
    (hstore : ∀ rows, s.world.tables.Holds rows s.world.database → rows.length < 2 ^ 63)
    (hrun : ((migrator settings pipeline).run .listSkipped).run s = (.ok report₁, s₁)) :
    ∃ s₂, ((migrator settings' pipeline).run .listSkipped).run s = (.ok report₁, s₂) ∧
      SameOutcome s (report₁, s₁) (report₁, s₂) := by
  by_cases hrows : ∃ rows, s.world.tables.Holds rows s.world.database
  · obtain ⟨rows, hrows⟩ := hrows
    have hn := hstore rows hrows
    have hlisting := run_listSkipped settings pipeline hrows hn hsize rfl
    have hlisting' := run_listSkipped settings' pipeline hrows hn hsize' rfl
    rw [hrun] at hlisting
    obtain ⟨records, hread, rfl, rfl⟩ := hlisting
    split at hlisting'
    · next report₂ s₂ hrun' =>
      obtain ⟨records', hread', rfl, rfl⟩ := hlisting'
      cases hread.unique hread'
      exact ⟨_, hrun', rfl, ⟨[], [], .refl _, .refl _, rfl⟩, rfl, rfl⟩
    · exact absurd ⟨records, hread⟩ hlisting'
  · rw [not_exists] at hrows
    exact absurd (Migrator.of_run_ok hrun).1 (listing_refused hrows)

/-- Sizes of pages and batches do not change what comes of a run. If runs with two choices of them
both come to their ends, they leave the same table, have started the same instances, have counted
the same and have printed the same; and a listing that comes to its end with one choice does so with
any other. -/
theorem batching_keeps_outcome (settings : MigrationSettings) (pipeline : Pipeline)
    (pageSize₁ maxJobs₁ pageSize₂ maxJobs₂ : Nat) (hsize₁ : pageSize₁ < 2 ^ 64)
    (hsize₂ : pageSize₂ < 2 ^ 64) {xs : List SnapshotInstance}
    (hids : (xs.map (·.inst.id)).Nodup) {s : RunState Workspace}
    (hsource : s.world.source = .ofInstances xs)
    (hstore : ∀ rows, s.world.tables.Holds rows s.world.database →
      (rows.map (·.legacyId)).Nodup ∧ rows.length < 2 ^ 63) (mode : Mode) {report₁ : Report}
    {s₁ : RunState Workspace}
    (hrun₁ : ((migrator (settings.batched pageSize₁ maxJobs₁) pipeline).run mode).run s =
      (.ok report₁, s₁)) :
    (mode = .listSkipped → ∃ report₂ s₂,
      ((migrator (settings.batched pageSize₂ maxJobs₂) pipeline).run mode).run s =
        (.ok report₂, s₂)) ∧
    ∀ report₂ s₂, ((migrator (settings.batched pageSize₂ maxJobs₂) pipeline).run mode).run s =
      (.ok report₂, s₂) → SameOutcome s (report₁, s₁) (report₂, s₂) := by
  have hchecks : (settings.batched pageSize₁ maxJobs₁).validator =
      (settings.batched pageSize₂ maxJobs₂).validator := rfl
  cases mode with
  | migrate =>
    refine ⟨(nomatch ·), ?_⟩
    intro report₂ s₂ hrun₂
    obtain ⟨hpass₁, rfl⟩ := Migrator.of_run_ok hrun₁
    obtain ⟨hpass₂, rfl⟩ := Migrator.of_run_ok hrun₂
    have hs : (Migrator.fresh .migrate s).world.source.Ascending := by
      -- a fresh report changes nothing in the world
      rw [show (Migrator.fresh .migrate s).world.source = .ofInstances xs from hsource]
      exact SnapshotSource.ofInstances_ascending hids
    exact (migratePass_agrees hchecks hs hpass₁ hpass₂).sameOutcome
  | retrySkipped =>
    refine ⟨(nomatch ·), ?_⟩
    intro report₂ s₂ hrun₂
    obtain ⟨hpass₁, rfl⟩ := Migrator.of_run_ok hrun₁
    obtain ⟨hpass₂, rfl⟩ := Migrator.of_run_ok hrun₂
    by_cases hrows : ∃ rows, s.world.tables.Holds rows s.world.database
    · obtain ⟨rows, hrows⟩ := hrows
      obtain ⟨hids, hn⟩ := hstore rows hrows
      have hrows : (Migrator.fresh .retrySkipped s).world.tables.Holds rows
          (Migrator.fresh .retrySkipped s).world.database := hrows
      exact (retryPass_agrees hchecks hrows hids hn hsize₁ hsize₂ hpass₁ hpass₂).sameOutcome
    · -- without a table of rows the first pass would not have come to its end
      exact absurd hpass₁ (retryPass_refused (not_exists.1 hrows))
  | listSkipped =>
    -- a listing is the one pass that ends whenever it does with other batches
    obtain ⟨s₂, hrun₂, hsame⟩ : ∃ s₂, ((migrator (settings.batched pageSize₂ maxJobs₂)
        pipeline).run .listSkipped).run s = (.ok report₁, s₂) ∧
          SameOutcome s (report₁, s₁) (report₁, s₂) :=
      listing_agrees hsize₁ hsize₂ (fun rows hrows => (hstore rows hrows).2) hrun₁
    refine ⟨fun _ => ⟨_, s₂, hrun₂⟩, ?_⟩
    intro report₂ s₂' hrun₂'
    rw [hrun₂] at hrun₂'
    cases hrun₂'
    exact hsame

/-- A run over one order. -/
def oneRun : RunState Workspace := { world := Session.oneOrder }

/-- The order is carried over, whether its job is handed over or not. -/
theorem order_is_carried_over :
    ∃ r₁ s₁ r₂ s₂,
      ((migrator (MigrationSettings.batched {} 1 1) .empty).run .migrate).run oneRun =
        (.ok r₁, s₁) ∧
      ((migrator (MigrationSettings.batched {} 100 0) .empty).run .migrate).run oneRun =
        (.ok r₂, s₂) ∧
      r₁ ≠ r₂ ∧ SameOutcome oneRun (r₁, s₁) (r₂, s₂) := by
  have h₁ : (((migrator (MigrationSettings.batched {} 1 1) .empty).run .migrate).run oneRun).1 =
      .ok { mode := .migrate, fetched := 1, migrated := 1, jobsActivated := 1 } := by
    decide +kernel
  have h₂ : (((migrator (MigrationSettings.batched {} 100 0) .empty).run .migrate).run oneRun).1 =
      .ok { mode := .migrate, fetched := 1, migrated := 1 } := by
    decide +kernel
  have hstore : ∀ rows, oneRun.world.tables.Holds rows oneRun.world.database →
      (rows.map (·.legacyId)).Nodup ∧ rows.length < 2 ^ 63 := by
    intro rows hrows
    have hnone : rows = [] := Except.ok.inj (hrows.symm.trans Session.oneOrder_empty)
    subst hnone
    exact ⟨.nil, by decide⟩
  have hsource : oneRun.world.source = .ofInstances Session.oneOrder.source.instances :=
    congrArg SnapshotSource.mk (List.mergeSort_singleton _).symm
  have hall := batching_keeps_outcome {} .empty 1 1 100 0 (by decide) (by decide) (by decide)
    hsource hstore .migrate (Prod.ext h₁ rfl)
  exact ⟨_, _, _, _, Prod.ext h₁ rfl, Prod.ext h₂ rfl, by decide, hall.2 _ _ (Prod.ext h₂ rfl)⟩

/-- Two skipped orders; the year of the second has five digits. -/
def lateRows : List Row :=
  [.ofRecord (.skipped "a" none "no listener"),
    .ofRecord (.skipped "b" (some ⟨253402300800, 0⟩) "no listener")]

/-- A run over these rows. -/
def lateRun : RunState Workspace :=
  { world := { Session.oneOrder with
      database := ⟨[⟨"migration_mapping", .mapping lateRows⟩], []⟩ } }

/-- The second row cannot be read, and what is printed before that depends on the size of the
pages. -/
theorem listings_differ :
    (((migrator (MigrationSettings.batched {} 1 100) .empty).run .listSkipped).run lateRun).2.output
      = { text := Migrator.skippedHeading ++ "a: no listener\n" } ∧
    (((migrator (MigrationSettings.batched {} 100 100) .empty).run .listSkipped).run
      lateRun).2.output = { text := Migrator.skippedHeading } := by
  -- the sort does not evaluate, so what it makes of these rows stands in its place
  have hsorted (rows : List Row) : Row.sorted rows =
      if rows = lateRows then lateRows else rows.mergeSort fun a b => !b.lt a := by
    split
    · next hlate =>
      rw [hlate]
      exact List.mergeSort_of_pairwise (by decide +kernel)
    · rfl
  simp only [migrator, environment, recordStore, Store.skipped, Store.page, hsorted]
  decide +kernel

end Workspace
end ProcessMigration
