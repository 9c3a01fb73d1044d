import ProcessMigration.Proofs.DatabaseFiles
import ProcessMigration.Proofs.WorkspaceRuns

/-!
# No run of the program loses a row

Whatever the program is given and however it ends, the rows of a mapping table live on, unless the
tables are to be dropped; and the rows of other prefixes are not touched at all.

* `StoreTables.LeavesOthers` and `StoreTables.Spares` say what an operation of a store leaves of a
  database; every operation spares it but `Store.dropSchema`, which leaves the others;
* `Program.migrate_leaves` follows a database through a pass and what comes after it,
  `Program.runWith_leaves` through everything that comes before;
* `Program.rows_outlive_run` sums it up over all command lines and file trees.
-/

namespace ProcessMigration

open ProcessMigration.Action (Triple)

/-! ## What a store leaves of a database -/

namespace Database

variable {db : Database} {name other : String}

/-- To drop a table drops no other one. -/
theorem rows_dropTable_of_ne (h : sameName other name = false) :
    (db.dropTable other).rows name = db.rows name := by
  have htable : (db.dropTable other).table? name = db.table? name := by
    unfold table? dropTable
    rw [List.find?_filter]
    congr 1
    funext t
    cases hname : sameName t.name name with
    | false => simp
    | true =>
      -- a table of this name has not the name of the one that is dropped
      have hkept : sameName t.name other = false := by
        rw [Bool.eq_false_iff]
        intro hother
        rw [sameName_comm] at hother
        rw [sameName_trans hother hname] at h
        cases h
      simp [hkept]
  unfold Database.rows
  rw [htable]

end Database

namespace StoreTables

variable {t other : StoreTables} {db db' db'' : Database} {rows rows' : List Row}

/-- The names of two tables of records differ as their prefixes do. -/
theorem sameName_mapping (t other : StoreTables) :
    Database.sameName t.mapping other.mapping =
      Database.sameName t.tablePrefix other.tablePrefix := by
  unfold Database.sameName mapping
  rw [String.toList_append, String.toList_append, List.map_append, List.map_append, Bool.eq_iff_iff,
    beq_iff_eq, beq_iff_eq, List.append_left_inj]

/-- The rows of prefixes that differ by more than the case of letters stay as they are. -/
def LeavesOthers (t : StoreTables) (db db' : Database) : Prop :=
  ∀ (other : StoreTables) rows, Database.sameName t.tablePrefix other.tablePrefix = false →
    other.Holds rows db → other.Holds rows db'

/-- The rows of other prefixes stay as they are, and those of this one live on. -/
structure Spares (t : StoreTables) (db db' : Database) : Prop where
  others : t.LeavesOthers db db'
  own : ∀ rows, t.Holds rows db → ∃ rows', t.Holds rows' db' ∧ Store.Evolve rows rows'

theorem LeavesOthers.trans (h : t.LeavesOthers db db') (h' : t.LeavesOthers db' db'') :
    t.LeavesOthers db db'' :=
  fun other rows hne hrows => h' other rows hne (h other rows hne hrows)

namespace Spares

theorem refl (t : StoreTables) (db : Database) : t.Spares db db :=
  ⟨fun _ _ _ hrows => hrows, fun rows hrows => ⟨rows, hrows, .refl rows⟩⟩

theorem trans (h : t.Spares db db') (h' : t.Spares db' db'') : t.Spares db db'' := by
  refine ⟨h.others.trans h'.others, ?_⟩
  intro rows hrows
  obtain ⟨rows', hrows', hevolve⟩ := h.own rows hrows
  obtain ⟨rows'', hrows'', hevolve'⟩ := h'.own rows' hrows'
  exact ⟨rows'', hrows'', hevolve.trans hevolve'⟩

/-- Rows are replaced by a later form of them. -/
theorem setContent (h : t.Holds rows db) (hevolve : Store.Evolve rows rows') :
    t.Spares db (db.setContent t.mapping (.mapping rows')) := by
  constructor
  case others =>
    intro other rows₂ hne hrows
    unfold Holds
    rw [Database.rows_setContent_of_ne ((sameName_mapping t other).trans hne)]
    exact hrows
  case own =>
    intro rows₂ hrows
    cases h.unique hrows
    exact ⟨rows', Database.rows_setContent h _, hevolve⟩

/-- The rule for an operation that spares every database it is carried out on. -/
theorem triple {α : Type} {x : StoreAction α} {db₀ : Database}
    (h : ∀ db, t.Spares db (x.run db).2) :
    Triple (t.Spares db₀) x (fun _ => t.Spares db₀) (t.Spares db₀) := by
  intro db hdb
  have hx := hdb.trans (h db)
  split
  next hrun => rwa [hrun] at hx
  next hrun => rwa [hrun] at hx

end Spares
end StoreTables

namespace Store

open StoreTables (Spares)

theorem insert_spares (t : StoreTables) (record : MappingRecord) (db : Database) :
    t.Spares db ((insert t record).run db).2 := by
  cases hrows : db.rows t.mapping with
  | error e =>
    have hstays : ((insert t record).run db).2 = db := by
      unfold Action.run insert Database.insertRow
      rw [hrows]
      dsimp only
      split <;> simp_all
    rw [hstays]
    exact .refl t db
  | ok rows =>
    rw [insert_run hrows]
    split
    · split
      · exact .refl t db
      · exact .setContent hrows (evolve_append rows _)
    · exact .refl t db

theorem update_spares (t : StoreTables) (legacyId : String) (key : Int) (db : Database) :
    t.Spares db ((update t legacyId key).run db).2 := by
  cases hrows : db.rows t.mapping with
  | error e =>
    have hstays : ((update t legacyId key).run db).2 = db := by
      unfold Action.run update
      rw [hrows]
    rw [hstays]
    exact .refl t db
  | ok rows =>
    rw [update_run hrows]
    split
    · exact .setContent hrows (evolve_flippedRows rows legacyId key)
    · exact .refl t db

/-- To open a store changes no row. -/
theorem open_spares (t : StoreTables) (db : Database) :
    t.Spares db ((Store.open t.tablePrefix).run db).2 := by
  constructor
  case others =>
    intro other rows _ hrows
    exact (open_keeps t other rows).state hrows
  case own =>
    intro rows hrows
    exact ⟨rows, (open_keeps t t rows).state hrows, .refl rows⟩

/-- The tables that are opened are those of the prefix. -/
theorem tables_of_open (tablePrefix : String) :
    Triple (fun _ => True) (Store.open tablePrefix) (fun t _ => t = ⟨tablePrefix⟩)
      fun _ => True := by
  unfold Store.open
  refine Triple.bind (M := fun t _ => t = ⟨tablePrefix⟩) ?_ ?_
  · exact Triple.ofExcept (fun _ _ hprefix _ => ofPrefix_eq_ok hprefix) fun _ _ => trivial
  · intro t
    refine Triple.bind (M := fun _ _ => t = ⟨tablePrefix⟩) ?_ fun _ => Triple.pure fun _ ht => ht
    intro db ht
    split
    · exact ht
    · trivial

/-- To drop the tables of a prefix leaves the rows of other ones. -/
theorem dropSchema_run (t : StoreTables) (db : Database) :
    ∃ db', (dropSchema t).run db = (.ok (), db') ∧ t.LeavesOthers db db' := by
  refine ⟨_, rfl, ?_⟩
  intro other rows hne hrows
  unfold StoreTables.Holds
  rw [Database.rows_dropTable_of_ne (t.sameName_versions_mapping other),
    Database.rows_dropTable_of_ne ((StoreTables.sameName_mapping t other).trans hne)]
  exact hrows

end Store

theorem FileTree.tables_of_runStore {files files' : FileTree} {o o' : OpenDatabase}
    {tablePrefix : String} {t : StoreTables}
    (h : files.runStore o (Store.open tablePrefix) = (.ok t, o', files')) : t = ⟨tablePrefix⟩ := by
  unfold FileTree.runStore at h
  split at h
  · cases h
  · dsimp only at h
    split at h
    · exact (Store.tables_of_open tablePrefix).ok trivial (Prod.mk.inj h).1
    · cases h

/-! ## What the program leaves of a database -/

namespace Program

open FileTree (Tracks NotBeside)
open StoreTables (Spares)

variable {files : FileTree} {place : Place} {db : Database} {a : Arguments} {c : Config}

theorem withLog_holds (h : files.Holds place db) (s : LoggingSection) :
    (withLog files s).Holds place db := by
  unfold withLog
  split
  · exact h
  next directory _ =>
    have hmade := h.makeDirectories directory
    split
    next made hrun =>
      rw [hrun] at hmade
      exact hmade
    next made hrun =>
      rw [hrun] at hmade
      exact hmade.append_getD ""

theorem withJournal_holds (h : files.Holds place db) (path : String) (before after : JournalFile) :
    (withJournal files path before after).Holds place db := by
  unfold withJournal
  split
  · exact h
  · have hmade := h.makeDirectories ((Path.parent? path).getD "")
    unfold FileTree.makeParent
    split
    next made hrun =>
      rw [hrun] at hmade
      exact hmade
    next made hrun =>
      rw [hrun] at hmade
      exact hmade.append_getD _

/-- What a run with these arguments leaves of the rows of a prefix: unless it succeeds or is forced,
and is to drop them, they live on. -/
structure Leaves (t : StoreTables) (a : Arguments) (ending : Ending) (db db' : Database) :
    Prop where
  others : t.LeavesOthers db db'
  own : a.dropSchema = true ∧ (ending = .success ∨ a.force = true) ∨ t.Spares db db'

theorem Leaves.of_spares {t : StoreTables} {ending : Ending} {db' : Database}
    (h : t.Spares db db') : Leaves t a ending db db' :=
  ⟨h.others, .inr h⟩

/-- What is left of a database that was spared before. -/
theorem Leaves.after {t : StoreTables} {ending : Ending} {db' db'' : Database}
    (h : t.Spares db db') (h' : Leaves t a ending db' db'') : Leaves t a ending db db'' :=
  ⟨h.others.trans h'.others, h'.own.imp_right h.trans⟩

/-- How a run ends with the outcome of its pass, and whether the tables are dropped then. -/
def endingOf (a : Arguments) : Except MigrationError Report → Ending × Bool
  | .ok _ => (.success, a.dropSchema)
  | .error (.crashed message) => (.failure (.migration (.crashed message)), false)
  | .error e => (.failure (.migration e), a.dropSchema && a.force)

/-- The end of a run: the tables are dropped if that is to be. -/
def finish (files : FileTree) (o : OpenDatabase) (t : StoreTables) (printed : String)
    (ending : Ending) (drops : Bool) : Outcome :=
  if drops then
    match files.runStore o (Store.dropSchema t) with
    | (.ok (), _, files) => { ending, printed, files }
    | (.error e, _, files) => { ending := .failure (.drop e), printed, files }
  else { ending, printed, files }

theorem migrate_eq {pipeline : Pipeline} {o : OpenDatabase} {w : Workspace}
    {result : Except MigrationError Report} {s : RunState Workspace}
    (hrun : ((migrator c pipeline o.writable).run a.mode).run { world := w } = (result, s)) :
    migrate a c pipeline files o w =
      finish (withJournal (files.save o s.world.database) c.target.journal w.target.journal
          s.world.target.journal)
        { o with database := s.world.database } s.world.tables s.output.text
        (endingOf a result).1 (endingOf a result).2 := by
  unfold migrate
  rw [hrun]
  rfl

theorem drops_of_endingOf {result : Except MigrationError Report}
    (h : (endingOf a result).2 = true) :
    a.dropSchema = true ∧ ((endingOf a result).1 = .success ∨ a.force = true) := by
  unfold endingOf at h ⊢
  split at h
  · exact ⟨h, .inl rfl⟩
  · cases h
  · obtain ⟨hdrop, hforce⟩ := Bool.and_eq_true_iff.1 h
    exact ⟨hdrop, .inr hforce⟩

/-- The end of a run drops the tables only where it is to, and only if it can. -/
theorem finish_leaves {o : OpenDatabase} {t : StoreTables} {printed : String} {ending : Ending}
    {drops : Bool} (h : Tracks files o place db)
    (hdrops : drops = true → a.dropSchema = true ∧ (ending = .success ∨ a.force = true)) :
    ∃ db', (finish files o t printed ending drops).files.Holds place db' ∧
      Leaves t a (finish files o t printed ending drops).ending db db' := by
  unfold finish
  cases drops with
  | false => exact ⟨db, h.holds, .of_spares (.refl t db)⟩
  | true =>
    rw [if_pos rfl]
    obtain ⟨dropped, hrun, hothers⟩ := Store.dropSchema_run t db
    rcases hstore : files.runStore o (Store.dropSchema t) with ⟨r, o', files'⟩
    obtain ⟨db', htracks, hdb'⟩ := h.runStore hstore
    rw [hrun] at hdb'
    cases r with
    | ok _ =>
      refine ⟨db', htracks.holds, ?_, .inl (hdrops rfl)⟩
      rcases hdb' with rfl | hdb'
      · exact (Spares.refl t db').others
      · cases hdb'
        exact hothers
    | error e =>
      -- an operation that is refused leaves the file as it is
      rcases hdb' with rfl | hdb'
      · exact ⟨db', htracks.holds, .of_spares (.refl t db')⟩
      · cases hdb'

/-- A pass spares the open database. -/
theorem run_spares (c : Config) (pipeline : Pipeline) (o : OpenDatabase) (mode : Mode)
    {w : Workspace} {result : Except MigrationError Report} {s : RunState Workspace}
    (hrun : ((migrator c pipeline o.writable).run mode).run { world := w } = (result, s)) :
    s.world.tables = w.tables ∧ w.tables.Spares w.database s.world.database := by
  have hfiles : (migrator c pipeline o.writable).OnFiles := by
    unfold migrator
    dsimp only
    split
    · exact .inl rfl
    · exact .inr rfl
  have hruns : Triple (Run.Over w.source w.tables (w.tables.Spares w.database))
      ((migrator c pipeline o.writable).run mode)
      (fun _ => Run.Over w.source w.tables (w.tables.Spares w.database))
      (Run.Over w.source w.tables (w.tables.Spares w.database)) :=
    Workspace.run_keeps_over hfiles
      (fun record _ => Spares.triple (Store.insert_spares w.tables record))
      (fun id key => Spares.triple (Store.update_spares w.tables id key)) mode
  have hpass := hruns.state (show Run.Over _ _ _ { world := w } from ⟨rfl, rfl, .refl _ _⟩)
  rw [hrun] at hpass
  exact hpass.2

/-- A pass over an open database, and the end of the run. -/
theorem migrate_leaves (a : Arguments) (c : Config) (pipeline : Pipeline) {o : OpenDatabase}
    {w : Workspace} (h : Tracks files o place db) (hw : w.database = o.database) :
    ∃ db', (migrate a c pipeline files o w).files.Holds place db' ∧
      Leaves w.tables a (migrate a c pipeline files o w).ending db db' := by
  rcases hrun : ((migrator c pipeline o.writable).run a.mode).run { world := w } with ⟨result, s⟩
  obtain ⟨htables, hspares⟩ := run_spares c pipeline o a.mode hrun
  obtain ⟨db₁, hsaved, hdb₁⟩ := h.save s.world.database
  have hspared : w.tables.Spares db db₁ := by
    rcases hdb₁ with rfl | ⟨rfl, rfl⟩
    · exact .refl _ _
    · exact hw ▸ hspares
  have hjournal := hsaved.of_holds (withJournal_holds hsaved.holds c.target.journal
    w.target.journal s.world.target.journal)
  rw [migrate_eq hrun, htables]
  obtain ⟨db₂, hholds, hleaves⟩ := finish_leaves hjournal fun hdrops => drops_of_endingOf hdrops
  exact ⟨db₂, hholds, .after hspared hleaves⟩

/-- The place of the database of a configuration, unless it is in memory. -/
def databasePlace? (files : FileTree) (c : Config) : Option Place :=
  match DatabaseAddress.ofText c.mapping.database with
  | .error _ => none
  | .ok a => files.fileOf? a

theorem openDatabase_tracks {o : OpenDatabase} {files' : FileTree} (h : files.Holds place db)
    (hbeside : ∀ p, databasePlace? files c = some p →
      FileTree.key place = FileTree.key p ∨ NotBeside place p)
    (hopen : openDatabase files c.mapping.database = .ok (o, files')) :
    Tracks files' o place db := by
  unfold openDatabase at hopen
  unfold databasePlace? at hbeside
  split at hopen
  · cases hopen
  next address haddress =>
    rw [haddress] at hbeside
    exact FileTree.openDatabase_tracks h hbeside hopen

/-- Everything that is opened, and the pass: wherever it ends. -/
theorem runWith_leaves (a : Arguments) (h : files.Holds place db)
    (hbeside : ∀ p, databasePlace? files c = some p →
      FileTree.key place = FileTree.key p ∨ NotBeside place p) :
    ∃ db', (runWith a c files).files.Holds place db' ∧
      Leaves ⟨c.mapping.tablePrefix⟩ a (runWith a c files).ending db db' := by
  have hfailed : ∀ {files' : FileTree} {db' : Database} (e : ProgramError),
      files'.Holds place db' → StoreTables.Spares ⟨c.mapping.tablePrefix⟩ db db' →
      ∃ db', ({ ending := .failure e, files := files' } : Outcome).files.Holds place db' ∧
        Leaves ⟨c.mapping.tablePrefix⟩ a (.failure e) db db' :=
    fun _ hholds hspares => ⟨_, hholds, .of_spares hspares⟩
  unfold runWith
  dsimp only
  split
  · exact hfailed _ h (.refl _ _)
  split
  · exact hfailed _ h (.refl _ _)
  next o files₁ hopen =>
  have htracks := openDatabase_tracks h hbeside hopen
  -- the store is opened, and the database has its tables
  have hstore : ∀ {r o' files'}, files₁.runStore o (Store.open c.mapping.tablePrefix) =
      (r, o', files') → ∃ db', Tracks files' o' place db' ∧
        StoreTables.Spares ⟨c.mapping.tablePrefix⟩ db db' := by
    intro r o' files' hrun
    obtain ⟨db', htracks', hdb'⟩ := htracks.runStore hrun
    refine ⟨db', htracks', ?_⟩
    rcases hdb' with rfl | hdb'
    · exact .refl _ _
    · have hspares := Store.open_spares ⟨c.mapping.tablePrefix⟩ db
      rw [hdb'] at hspares
      exact hspares
  split
  next e o' files' hrun =>
    obtain ⟨db', htracks', hspares⟩ := hstore hrun
    exact hfailed _ htracks'.holds hspares
  next tables o' files' hrun =>
  obtain ⟨db', htracks', hspares⟩ := hstore hrun
  split
  · exact hfailed _ htracks'.holds hspares
  split
  · exact hfailed _ htracks'.holds hspares
  split
  · exact hfailed _ htracks'.holds hspares
  next _ pipeline _ _ source _ _ target _ =>
  have htables : tables = ⟨c.mapping.tablePrefix⟩ := FileTree.tables_of_runStore hrun
  subst htables
  obtain ⟨db₂, hholds, hleaves⟩ := migrate_leaves a c pipeline
    (w := ⟨source, target, ⟨c.mapping.tablePrefix⟩, o'.database⟩) htracks' rfl
  exact ⟨db₂, hholds, .after hspares hleaves⟩

/-! ## All runs -/

/-- A row has a later form: it is about the same thing and of the same start date. A migrated one
has the same key, a skipped one is the same or has a key instead of its reason. -/
structure LivesOn (r r' : Row) : Prop where
  legacyId : r'.legacyId = r.legacyId
  entityType : r'.entityType = r.entityType
  startDate : r'.startDate = r.startDate
  migrated : r.isMigrated = true → r'.targetKey = r.targetKey
  skipped : r.isSkipped = true → r' = r ∨ ∃ key, r' = Store.flipped key r

theorem livesOn_of_evolved {r r' : Row} (hone : r.hasOneOutcome = true)
    (h : Store.Evolved r r') : LivesOn r r' := by
  rcases h with rfl | ⟨hskipped, key, rfl⟩
  · exact ⟨rfl, rfl, rfl, fun _ => rfl, fun _ => .inl rfl⟩
  · constructor
    case migrated =>
      intro hmigrated
      rw [Store.isMigrated_of_hasOneOutcome hone, hskipped] at hmigrated
      cases hmigrated
    case skipped => exact fun _ => .inr ⟨key, rfl⟩
    all_goals rfl

/-- The program is run with these arguments and this configuration. -/
def RunsWith (args : List String) (files : FileTree) (a : Arguments) (c : Config) : Prop :=
  Arguments.parse args = .ok a ∧ loadConfig files (configPath a) = .ok c

/-- What a run leaves of a database; without a configuration it is untouched. -/
theorem run_leaves {args : List String} (h : files.Holds place db)
    (hbeside : ∀ a c p, RunsWith args files a c →
      databasePlace? (withLog files c.logging) c = some p →
      FileTree.key place = FileTree.key p ∨ NotBeside place p) :
    ∃ db', (run args files).files.Holds place db' ∧
      (∀ a c, RunsWith args files a c →
        Leaves ⟨c.mapping.tablePrefix⟩ a (run args files).ending db db') ∧
      ((¬∃ a c, RunsWith args files a c) → db' = db) := by
  unfold run
  split
  next hparse =>
    refine ⟨db, h, ?_, fun _ => rfl⟩
    intro a c hruns
    rw [hruns.1] at hparse
    cases hparse
  next hparse =>
    refine ⟨db, h, ?_, fun _ => rfl⟩
    intro a c hruns
    rw [hruns.1] at hparse
    cases hparse
  next a hparse =>
    dsimp only
    split
    next hload =>
      refine ⟨db, h, ?_, fun _ => rfl⟩
      intro a' c hruns
      obtain ⟨hparse', hload'⟩ := hruns
      rw [hparse] at hparse'
      cases hparse'
      rw [hload'] at hload
      cases hload
    next c hload =>
      obtain ⟨db', hholds, hleaves⟩ := runWith_leaves a (withLog_holds h c.logging)
        (hbeside a c · ⟨hparse, hload⟩)
      refine ⟨db', hholds, ?_, fun hnone => absurd ⟨a, c, hparse, hload⟩ hnone⟩
      intro a' c' hruns
      obtain ⟨hparse', hload'⟩ := hruns
      rw [hparse] at hparse'
      cases hparse'
      rw [hload] at hload'
      cases hload'
      exact hleaves

/-- No run loses a row. Whatever the command line and the files are and however the run ends, a
database in a file is there afterwards: the rows of prefixes that differ from the configured one by
more than the case of letters are as they were, and each row of the configured prefix lives on,
unless the tables were to be dropped and the run succeeded or was forced. The database may be that
of the run or any other one, but for one that stands in the place of a file that the run keeps
beside its own. -/
theorem rows_outlive_run (args : List String) (files : FileTree) (place : Place) (db : Database)
    (h : files.Holds place db)
    (hbeside : ∀ a c p, RunsWith args files a c →
      databasePlace? (withLog files c.logging) c = some p →
      FileTree.key place = FileTree.key p ∨ NotBeside place p) :
    ∃ db', (run args files).files.Holds place db' ∧
      (∀ (t : StoreTables) rows, t.Holds rows db →
        (∀ a c, RunsWith args files a c →
          Database.sameName c.mapping.tablePrefix t.tablePrefix = false) →
        t.Holds rows db') ∧
      ∀ a c rows, RunsWith args files a c →
        StoreTables.Holds ⟨c.mapping.tablePrefix⟩ rows db →
        (∀ r ∈ rows, r.hasOneOutcome = true) →
        ¬(a.dropSchema = true ∧ ((run args files).ending = .success ∨ a.force = true)) →
        ∃ rows', StoreTables.Holds ⟨c.mapping.tablePrefix⟩ rows' db' ∧
          ∀ r ∈ rows, ∃ r' ∈ rows', LivesOn r r' := by
  obtain ⟨db', hholds, hleaves, huntouched⟩ := run_leaves h hbeside
  refine ⟨db', hholds, ?_, ?_⟩
  · intro t rows hrows hother
    by_cases hruns : ∃ a c, RunsWith args files a c
    · -- the run works on the tables of its own prefix
      obtain ⟨a, c, hruns⟩ := hruns
      exact (hleaves a c hruns).others t rows (hother a c hruns) hrows
    · rw [huntouched hruns]
      exact hrows
  · intro a c rows hruns hrows hone hkept
    rcases (hleaves a c hruns).own with hdropped | hspares
    · exact absurd hdropped hkept
    · obtain ⟨rows', hrows', hevolve⟩ := hspares.own rows hrows
      refine ⟨rows', hrows', ?_⟩
      intro r hr
      obtain ⟨r', hr', hevolved⟩ := hevolve r hr
      exact ⟨r', hr', livesOn_of_evolved (hone r hr) hevolved⟩

/-- The rows of a migrated and of a skipped order. -/
def savedOrders : List Row :=
  [.ofRecord (.migrated "b" 7 none), .ofRecord (.skipped "a" none "no listener")]

/-- A skipped order of another prefix. -/
def oldOrders : List Row := [.ofRecord (.skipped "c" none "no definition")]

/-- A working directory with a database of these rows. -/
def savedDirectory : FileTree :=
  FileTree.empty.put ["tmp", "workspace", "runtime-migrator.db"] (.file (.database
    ⟨[⟨"migration_mapping", .mapping savedOrders⟩, ⟨"schema_migrations", .versions [1]⟩,
      ⟨"old_migration_mapping", .mapping oldOrders⟩], []⟩))

/-- A run that retries, without a configuration and without a snapshot, loses none of these rows. -/
theorem saved_orders_outlive_run :
    ∃ db', (run ["--retry-skipped", "--config", "c"] savedDirectory).files.Holds
        ["tmp", "workspace", "runtime-migrator.db"] db' ∧
      StoreTables.Holds ⟨"old_"⟩ oldOrders db' ∧
      ∃ rows', StoreTables.Holds ⟨""⟩ rows' db' ∧
        ∀ r ∈ savedOrders, ∃ r' ∈ rows', LivesOn r r' := by
  have hparts : Path.parts "c" = ["c"] := by
    unfold Path.parts String.splitOn
    rw [if_neg (by decide)]
    unfold String.splitOnAux
    rw [if_neg (by decide), if_neg (by decide)]
    unfold String.splitOnAux
    rw [if_pos (by decide)]
    decide +kernel
  have hmissing : savedDirectory.exists "c" = false := by
    unfold FileTree.exists FileTree.find FileTree.locate
    rw [hparts]
    decide +kernel
  have hruns : RunsWith ["--retry-skipped", "--config", "c"] savedDirectory
      { retrySkipped := true, config := some "c" } {} := by
    constructor
    · rfl
    · show loadConfig savedDirectory "c" = _
      unfold loadConfig
      rw [hmissing]
      rfl
  have hunique : ∀ a c, RunsWith ["--retry-skipped", "--config", "c"] savedDirectory a c →
      c = {} := by
    intro a c h
    cases hruns.1.symm.trans h.1
    cases hruns.2.symm.trans h.2
    rfl
  obtain ⟨db', hholds, hothers, hown⟩ := rows_outlive_run
    ["--retry-skipped", "--config", "c"] savedDirectory
    ["tmp", "workspace", "runtime-migrator.db"] _ rfl (by
      -- a name that ends like this one stands beside no database
      intro a c p _ _
      refine .inr ?_
      intro ending hending hsame
      obtain ⟨start, hkey⟩ := FileTree.key_beside_ends ending p
      rw [hkey] at hsame
      have hlast := congrArg (fun s => s.toList.getLast?) hsame
      simp only [FileTree.besideEndings, List.mem_cons, List.not_mem_nil, or_false] at hending
      rcases hending with rfl | rfl <;> simp [FileTree.key] at hlast)
  refine ⟨db', hholds, ?_, ?_⟩
  · refine hothers ⟨"old_"⟩ oldOrders ?_ ?_
    · unfold StoreTables.Holds
      decide +kernel
    · intro a c h
      cases hunique a c h
      decide
  · refine hown _ {} savedOrders hruns ?_ (by decide) ?_
    · unfold StoreTables.Holds
      decide +kernel
    · rintro ⟨hdrops, _⟩
      cases hdrops

end Program
end ProcessMigration
