import ProcessMigration.Mapping.History
import ProcessMigration.Proofs.MappingTable

/-!
# The life of a mapping row

A row of the mapping table is born as a skipped or a migrated one. It keeps its id, its entity type
and its start date for ever; a skipped row may become a migrated one, and that is all that ever
happens to it.

* `Store.Lawful` is what holds of the rows at any time, `Store.Evolve` is how they may change;
* `RecordChange.perform_lawful` is the step lemma for a change, `StoreOperation.perform_lawful` the
  one for a call;
* `StoreTables.rows_have_life_cycle` sums it up over all histories.
-/

namespace ProcessMigration

open ProcessMigration.Action (Triple ReadOnly)

/-! ## Other tables -/

namespace Database

variable {db db' : Database} {name other : String} {rows : List Row} {content : TableContent}

theorem sameName_comm (a b : String) : sameName a b = sameName b a := by
  unfold sameName
  exact Bool.beq_comm

theorem sameName_trans {a b c : String} (hab : sameName a b = true) (hbc : sameName b c = true) :
    sameName a c = true := by
  unfold sameName at *
  rw [beq_iff_eq] at *
  exact hab.trans hbc

/-- To put something into a table changes no other table. -/
theorem rows_setContent_of_ne (h : sameName other name = false) :
    (db.setContent other content).rows name = db.rows name := by
  -- a table of this name is not the table that is changed
  have hkeeps : ∀ t ∈ db.tables, sameName t.name name = true → sameName t.name other = false := by
    intro t _ ht
    rw [Bool.eq_false_iff]
    intro hother
    rw [sameName_comm] at hother
    rw [sameName_trans hother ht] at h
    cases h
  have htable : (db.setContent other content).table? name = db.table? name := by
    unfold table? setContent
    rw [List.find?_map]
    have hsame : ((fun t : Table => sameName t.name name) ∘ fun t =>
        if sameName t.name other then { t with content } else t) =
        fun t => sameName t.name name := by
      funext t
      show sameName (if sameName t.name other then _ else t).name name = _
      split <;> rfl
    rw [hsame]
    cases hfind : db.tables.find? fun t => sameName t.name name with
    | none => rfl
    | some t =>
      have hname := List.find?_some hfind
      simp [hkeeps t (List.mem_of_find?_eq_some hfind) hname]
  unfold Database.rows
  rw [htable]

/-- A table of its own name stays what it is when a table is made. -/
theorem rows_createTable (h : db.rows name = .ok rows)
    (hmade : db.createTable other content = .ok db') : db'.rows name = .ok rows := by
  unfold createTable at hmade
  split at hmade
  · cases hmade
  · split at hmade
    · cases hmade
      exact h
    · split at hmade
      · cases hmade
      · cases hmade
        unfold Database.rows table? at h ⊢
        rw [List.find?_append]
        cases hfind : db.tables.find? fun t => sameName t.name name with
        | none =>
          rw [hfind] at h
          cases h
        | some t =>
          rw [hfind] at h
          exact h

/-- A table that was not there is made with this content. -/
theorem tables_createTable (h : db.table? name = none)
    (hmade : db.createTable name content = .ok db') :
    db'.tables = db.tables ++ [⟨name, content⟩] := by
  unfold createTable at hmade
  split at hmade
  · cases hmade
  · rw [h] at hmade
    split at hmade
    next hthere => cases hthere
    next =>
      split at hmade
      · cases hmade
      · cases hmade
        rfl

/-- A table that was not there is found after it was made. -/
theorem table?_createTable (h : db.table? name = none)
    (hmade : db.createTable name content = .ok db') : db'.table? name = some ⟨name, content⟩ := by
  unfold table? at h ⊢
  rw [tables_createTable h hmade, List.find?_append, h, Option.none_or]
  simp [sameName]

/-- Another table is not there if it was not there before. -/
theorem table?_createTable_of_ne (h : db.table? name = none) (hother : db.table? other = none)
    (hne : sameName name other = false) (hmade : db.createTable name content = .ok db') :
    db'.table? other = none := by
  unfold table? at hother ⊢
  rw [tables_createTable h hmade, List.find?_append, hother, Option.none_or]
  simp [hne]

theorem rows_createIndex (h : db.rows name = .ok rows) {table : String}
    (hmade : db.createIndex other table = .ok db') : db'.rows name = .ok rows := by
  unfold createIndex at hmade
  split at hmade
  · cases hmade
  · split at hmade
    · cases hmade
    · split at hmade
      · cases hmade
        exact h
      · cases hmade
        exact h

theorem rows_insertVersion (h : db.rows name = .ok rows) (hne : sameName other name = false)
    {version : Int} (hmade : db.insertVersion other version = .ok db') :
    db'.rows name = .ok rows := by
  unfold insertVersion at hmade
  split at hmade
  · cases hmade
  · split at hmade
    · cases hmade
    · cases hmade
      rw [rows_setContent_of_ne hne]
      exact h

end Database

namespace StoreTables

/-- The rows of a table are one list. -/
theorem Holds.unique {t : StoreTables} {rows rows' : List Row} {db : Database}
    (h : t.Holds rows db) (h' : t.Holds rows' db) : rows' = rows :=
  Except.ok.inj (h'.symm.trans h)

/-- A table of versions has not the name of a table of records, whatever the prefixes are. -/
theorem sameName_versions_mapping (t other : StoreTables) :
    Database.sameName t.versions other.mapping = false := by
  unfold Database.sameName versions mapping
  rw [beq_eq_false_iff_ne, String.toList_append, String.toList_append, List.map_append,
    List.map_append]
  intro h
  have hlast := congrArg List.getLast? h
  have hversions : ("schema_migrations".toList.map Char.toLower).getLast? = some 's' := by decide
  have hmapping : ("migration_mapping".toList.map Char.toLower).getLast? = some 'g' := by decide
  rw [List.getLast?_append, List.getLast?_append, hversions, hmapping] at hlast
  cases hlast

/-- The database holds no table of this store. -/
structure Fresh (t : StoreTables) (db : Database) : Prop where
  mapping : db.table? t.mapping = none
  versions : db.table? t.versions = none

end StoreTables

namespace Store

variable {t : StoreTables} {rows rows' rows'' : List Row} {db db' : Database}

/-! ## Schema -/

theorem change_triple {P Q R : Database → Prop} {f : Database → Except DatabaseError Database}
    (hok : ∀ db db', P db → f db = .ok db' → Q db') (herr : ∀ db, P db → R db) :
    Triple P (change f) (fun _ => Q) R := by
  intro db hdb
  unfold Action.run change
  cases hf : f db with
  | ok db' => exact hok db db' hdb hf
  | error e => exact herr db hdb

theorem change_keeps {f : Database → Except DatabaseError Database}
    (h : ∀ db db', t.Holds rows db → f db = .ok db' → t.Holds rows db') :
    Triple (t.Holds rows) (change f) (fun _ => t.Holds rows) (t.Holds rows) :=
  change_triple h fun _ hdb => hdb

theorem version_readOnly : ReadOnly (version t) := ask_readOnly _

/-- To bring the schema up to date changes no row of any prefix, whether it succeeds or not. -/
theorem migrate_keeps (t other : StoreTables) (rows : List Row) :
    Triple (other.Holds rows) (Store.migrate t) (fun _ => other.Holds rows)
      (other.Holds rows) := by
  unfold Store.migrate
  refine Triple.bind (change_keeps fun _ _ h => Database.rows_createTable h) ?_
  intro _
  refine Triple.bind (version_readOnly.triple.post fun _ _ h => h.1) ?_
  intro current
  split
  · exact Triple.fail fun _ h => h
  · split
    · refine Triple.bind (change_keeps fun _ _ h => Database.rows_createTable h) ?_
      intro _
      refine Triple.bind (change_keeps fun _ _ h => Database.rows_createIndex h) ?_
      intro _
      refine Triple.bind (change_keeps fun _ _ h => Database.rows_createIndex h) ?_
      intro _
      exact change_keeps fun _ _ h =>
        Database.rows_insertVersion h (t.sameName_versions_mapping other)
    · exact Triple.pure fun _ h => h

/-- To bring the schema of a fresh database up to date makes a table without rows. -/
theorem migrate_fresh (t : StoreTables) :
    Triple t.Fresh (Store.migrate t) (fun _ => t.Holds []) (fun _ => True) := by
  unfold Store.migrate
  refine Triple.bind (M := fun _ db => db.table? t.mapping = none ∧ db.versions t.versions = .ok [])
    (change_triple ?versions fun _ _ => trivial) ?_
  case versions =>
    intro db db' hfresh hmade
    constructor
    · exact Database.table?_createTable_of_ne hfresh.versions hfresh.mapping
        (t.sameName_versions_mapping t) hmade
    · unfold Database.versions
      rw [Database.table?_createTable hfresh.versions hmade]
  intro _
  -- a table of versions without versions counts as version zero
  refine Triple.bind_eq (a := 0) (M := fun db => db.table? t.mapping = none) ?version ?_
  case version =>
    rintro db ⟨hmapping, hversions⟩
    unfold Action.run version ask
    by_cases hnamed : db.hasTableNamed t.versions
    · simp only [hnamed, if_true, hversions]
      exact ⟨rfl, hmapping⟩
    · simp only [hnamed]
      exact ⟨rfl, hmapping⟩
  rw [if_neg (by decide), if_pos (by decide)]
  refine Triple.bind (M := fun _ => t.Holds []) (change_triple ?table fun _ _ => trivial) ?_
  case table =>
    intro db db' hmapping hmade
    unfold StoreTables.Holds Database.rows
    rw [Database.table?_createTable hmapping hmade]
  intro _
  refine Triple.bind
    (change_triple (fun _ _ h => Database.rows_createIndex h) fun _ _ => trivial) ?_
  intro _
  refine Triple.bind
    (change_triple (fun _ _ h => Database.rows_createIndex h) fun _ _ => trivial) ?_
  intro _
  exact change_triple
    (fun _ _ h => Database.rows_insertVersion h (t.sameName_versions_mapping t)) fun _ _ => trivial

theorem ofPrefix_eq_ok {p : String} (h : StoreTables.ofPrefix p = .ok t) : t = ⟨p⟩ := by
  unfold StoreTables.ofPrefix at h
  split at h
  · cases h
    rfl
  · cases h

/-- To open a store is to bring its schema up to date. -/
theorem open_triple {P Q R : Database → Prop} (h : Triple P (Store.migrate t) (fun _ => Q) R)
    (hPR : ∀ db, P db → R db) : Triple P (Store.open t.tablePrefix) (fun _ => Q) R := by
  unfold Store.open
  refine Triple.bind (M := fun t' db => t' = t ∧ P db) ?_ ?_
  · exact Triple.ofExcept (fun t' db hprefix hdb => ⟨ofPrefix_eq_ok hprefix, hdb⟩) hPR
  · intro t'
    apply Triple.of_and
    intro ht
    subst ht
    exact Triple.bind h fun _ => Triple.pure fun _ hdb => hdb

theorem open_keeps (t other : StoreTables) (rows : List Row) :
    Triple (other.Holds rows) (Store.open t.tablePrefix) (fun _ => other.Holds rows)
      (other.Holds rows) :=
  open_triple (migrate_keeps t other rows) fun _ hdb => hdb

theorem open_fresh (t : StoreTables) :
    Triple t.Fresh (Store.open t.tablePrefix) (fun _ => t.Holds []) (fun _ => True) :=
  open_triple (migrate_fresh t) fun _ _ => trivial

/-! ## Lawful rows -/

/-- Each id has one row at most, and each row has either a target key or a skip reason. -/
structure Lawful (rows : List Row) : Prop where
  ids : (rows.map (·.legacyId)).Nodup
  outcome : ∀ r ∈ rows, r.hasOneOutcome = true

/-- A later form of a row: it is the same, or it was skipped and has a target key instead of the
skip reason. -/
def Evolved (r r' : Row) : Prop := r' = r ∨ (r.isSkipped = true ∧ ∃ key, r' = flipped key r)

/-- Every row lives on in the later rows. -/
def Evolve (rows rows' : List Row) : Prop := ∀ r ∈ rows, ∃ r' ∈ rows', Evolved r r'

theorem isSkipped_flipped (key : Int) (r : Row) : (flipped key r).isSkipped = false := rfl

theorem isMigrated_of_hasOneOutcome {r : Row} (h : r.hasOneOutcome = true) :
    r.isMigrated = !r.isSkipped := by
  revert h
  unfold Row.hasOneOutcome Row.isMigrated Row.isSkipped
  cases r.targetKey <;> cases r.skipReason <;> simp

theorem Evolve.refl (rows : List Row) : Evolve rows rows := fun r hr => ⟨r, hr, .inl rfl⟩

theorem Evolved.trans {r r' r'' : Row} (h : Evolved r r') (h' : Evolved r' r'') : Evolved r r'' := by
  rcases h' with rfl | ⟨hskipped, key, rfl⟩
  · exact h
  · rcases h with rfl | ⟨_, key', rfl⟩
    · exact .inr ⟨hskipped, key, rfl⟩
    · -- a row that was flipped is not flipped again
      rw [isSkipped_flipped] at hskipped
      cases hskipped

theorem Evolve.trans (h : Evolve rows rows') (h' : Evolve rows' rows'') : Evolve rows rows'' := by
  intro r hr
  obtain ⟨r', hr', hevolved⟩ := h r hr
  obtain ⟨r'', hr'', hevolved'⟩ := h' r' hr'
  exact ⟨r'', hr'', hevolved.trans hevolved'⟩

theorem lawful_nil : Lawful [] := ⟨.nil, fun _ h => by cases h⟩

theorem evolve_append (rows : List Row) (r : Row) : Evolve rows (rows ++ [r]) := by
  intro r' hr'
  exact ⟨r', List.mem_append_left _ hr', .inl rfl⟩

theorem evolve_flippedRows (rows : List Row) (legacyId : String) (key : Int) :
    Evolve rows (flippedRows legacyId key rows) := by
  intro r hr
  refine ⟨_, List.mem_map_of_mem hr, ?_⟩
  by_cases hflips : flips legacyId r
  · rw [if_pos hflips]
    exact .inr ⟨(flips_iff.1 hflips).2, key, rfl⟩
  · rw [if_neg hflips]
    exact .inl rfl

namespace Lawful

theorem kept (h : Lawful rows) : Kept rows where
  ids := h.ids
  outcome r hr hkey := by
    have hmigrated := isMigrated_of_hasOneOutcome (h.outcome r hr)
    unfold Row.isMigrated at hmigrated
    rw [hkey] at hmigrated
    simpa using hmigrated.symm

theorem append (h : Lawful rows) {record : MappingRecord}
    (hone : (Row.ofRecord record).hasOneOutcome = true)
    (hnew : ¬∃ r ∈ rows, r.legacyId = record.legacyId) : Lawful (rows ++ [.ofRecord record]) where
  ids := by
    rw [List.map_append]
    refine List.nodup_append.2 ⟨h.ids, List.nodup_singleton _, ?_⟩
    intro id hid id' hid' heq
    obtain ⟨r, hr, rfl⟩ := List.mem_map.1 hid
    exact hnew ⟨r, hr, heq.trans (List.mem_singleton.1 hid')⟩
  outcome r hr := by
    rcases List.mem_append.1 hr with hr | hr
    · exact h.outcome r hr
    · rw [List.mem_singleton.1 hr]
      exact hone

theorem flippedRows (h : Lawful rows) (legacyId : String) (key : Int) :
    Lawful (Store.flippedRows legacyId key rows) where
  ids := (h.kept.flippedRows legacyId key).ids
  outcome r hr := by
    obtain ⟨r', hr', rfl⟩ := List.mem_map.1 hr
    by_cases hflips : flips legacyId r'
    · rw [if_pos hflips]
      rfl
    · rw [if_neg hflips]
      exact h.outcome r' hr'

/-- A row with one outcome that is not migrated is skipped. -/
theorem exists_skipped_iff (h : Lawful rows) (legacyId : String) :
    (∃ r ∈ rows, r.legacyId = legacyId ∧ r.isSkipped = true) ↔
      ¬∀ r ∈ rows, r.legacyId = legacyId → r.isMigrated = true := by
  constructor
  · rintro ⟨r, hr, hid, hskipped⟩ hall
    have hmigrated := hall r hr hid
    rw [isMigrated_of_hasOneOutcome (h.outcome r hr), hskipped] at hmigrated
    cases hmigrated
  · intro hnot
    push Not at hnot
    obtain ⟨r, hr, hid, hmigrated⟩ := hnot
    rw [isMigrated_of_hasOneOutcome (h.outcome r hr)] at hmigrated
    exact ⟨r, hr, hid, by simpa using hmigrated⟩

end Lawful

/-- What holds without rows holds of the rows of a store that was opened, if the database was fresh
or it held of its rows. -/
theorem holds_open {P : List Row → Prop} (hnil : P []) {db₀ : Database}
    (hopen : (Store.open t.tablePrefix).run db₀ = (.ok t, db))
    (hstart : t.Fresh db₀ ∨ ∃ rows, t.Holds rows db₀ ∧ P rows) : ∃ rows, t.Holds rows db ∧ P rows := by
  rcases hstart with hfresh | ⟨rows, hrows, hP⟩
  · have hok := (open_fresh t).ok hfresh (congrArg Prod.fst hopen)
    rw [hopen] at hok
    exact ⟨[], hok, hnil⟩
  · have hok := (open_keeps t t rows).ok hrows (congrArg Prod.fst hopen)
    rw [hopen] at hok
    exact ⟨rows, hok, hP⟩

/-- A store that was opened has lawful rows if the database was fresh or had lawful rows. -/
theorem lawful_open {db₀ : Database} (hopen : (Store.open t.tablePrefix).run db₀ = (.ok t, db))
    (hstart : t.Fresh db₀ ∨ ∃ rows, t.Holds rows db₀ ∧ Lawful rows) :
    ∃ rows, t.Holds rows db ∧ Lawful rows :=
  holds_open lawful_nil hopen hstart

end Store

/-! ## Steps -/

open Store (Lawful Evolve)

variable {t : StoreTables} {rows : List Row} {db : Database}

/-- From lawful rows an action leads to lawful ones, in which the former live on. -/
def StoreTables.Evolves (t : StoreTables) (rows : List Row) (db' : Database) : Prop :=
  ∃ rows', t.Holds rows' db' ∧ Lawful rows' ∧ Evolve rows rows'

theorem StoreTables.evolves_refl (h : t.Holds rows db) (hlaw : Lawful rows) : t.Evolves rows db :=
  ⟨rows, h, hlaw, .refl rows⟩

theorem StoreTables.Evolves.of_evolve {rows' : List Row} (h : t.Evolves rows' db)
    (hevolve : Evolve rows rows') : t.Evolves rows db := by
  obtain ⟨rows₂, hrows₂, hlaw₂, hevolve₂⟩ := h
  exact ⟨rows₂, hrows₂, hlaw₂, hevolve.trans hevolve₂⟩

namespace RecordChange

/-- A change keeps the rows lawful and lets them live on; if it fails, nothing has changed. -/
theorem perform_lawful (c : RecordChange) (h : t.Holds rows db) (hlaw : Lawful rows) :
    t.Evolves rows ((c.perform t).run db).2 ∧
      ∀ e, ((c.perform t).run db).1 = .error e → ((c.perform t).run db).2 = db := by
  cases c with
  | insert record =>
    unfold perform
    rw [Store.insert_run h]
    split
    next hone =>
      split
      · exact ⟨StoreTables.evolves_refl h hlaw, fun _ _ => rfl⟩
      next hnew =>
        refine ⟨⟨_, Database.rows_setContent h _, hlaw.append hone hnew, ?_⟩, fun e he => by cases he⟩
        exact Store.evolve_append rows _
    next => exact ⟨StoreTables.evolves_refl h hlaw, fun _ _ => rfl⟩
  | update legacyId key =>
    unfold perform
    rw [Store.update_run h]
    split
    next =>
      refine ⟨⟨_, Database.rows_setContent h _, hlaw.flippedRows legacyId key, ?_⟩,
        fun e he => by cases he⟩
      exact Store.evolve_flippedRows rows legacyId key
    next => exact ⟨StoreTables.evolves_refl h hlaw, fun _ _ => rfl⟩

/-- To try changes never fails, and leaves what they leave one after the other. -/
theorem performAll_run (t : StoreTables) (changes : List RecordChange) (db : Database) :
    ∃ outcomes, (performAll t changes).run db =
      (.ok outcomes, changes.foldl (fun db c => ((c.perform t).run db).2) db) := by
  induction changes generalizing db with
  | nil => exact ⟨[], rfl⟩
  | cons c rest ih =>
    obtain ⟨outcomes, hrest⟩ := ih ((c.perform t).run db).2
    refine ⟨((c.perform t).run db).1 :: outcomes, ?_⟩
    have htried : (c.perform t).attempt.run db =
        (.ok ((c.perform t).run db).1, ((c.perform t).run db).2) := rfl
    unfold performAll
    rw [Action.run_bind, htried]
    simp only
    rw [Action.run_bind, hrest]
    rfl

theorem performAll_state (t : StoreTables) (changes : List RecordChange) (db : Database) :
    ((performAll t changes).run db).2 =
      changes.foldl (fun db c => ((c.perform t).run db).2) db := by
  obtain ⟨outcomes, hrun⟩ := performAll_run t changes db
  rw [hrun]

/-- The step lemma for changes that are tried one after the other. -/
theorem performAll_lawful (changes : List RecordChange) (h : t.Holds rows db) (hlaw : Lawful rows) :
    t.Evolves rows ((performAll t changes).run db).2 := by
  induction changes generalizing rows db with
  | nil => exact StoreTables.evolves_refl h hlaw
  | cons c rest ih =>
    obtain ⟨rows', hrows', hlaw', hevolve⟩ := (c.perform_lawful h hlaw).1
    have hrest := ih hrows' hlaw'
    rw [performAll_state] at hrest ⊢
    exact hrest.of_evolve hevolve

/-- The changes that fail do not count: the others leave the same database. -/
theorem performAll_succeeding (changes : List RecordChange) (h : t.Holds rows db)
    (hlaw : Lawful rows) :
    ((performAll t (succeeding t db changes)).run db).2 = ((performAll t changes).run db).2 := by
  induction changes generalizing rows db with
  | nil => rfl
  | cons c rest ih =>
    obtain ⟨⟨rows', hrows', hlaw', _⟩, hfails⟩ := c.perform_lawful h hlaw
    unfold succeeding
    rcases hrun : (c.perform t).run db with ⟨_ | _, db'⟩
    all_goals
      rw [hrun] at hrows' hfails
    all_goals
      have hrest := ih hrows' hlaw'
      rw [performAll_state, performAll_state] at hrest ⊢
      simp only [List.foldl_cons, hrun]
    case error e =>
      have hsame : db' = db := hfails e rfl
      subst hsame
      exact hrest
    case ok u => exact hrest

end RecordChange

namespace StoreOperation

/-- A transaction never fails; dropped, it leaves the database as it was. -/
theorem run_transaction (t : StoreTables) (changes : List RecordChange) (commit : Bool)
    (db : Database) :
    (perform t (.transaction changes commit)).run db =
      (.ok (), if commit then ((RecordChange.performAll t changes).run db).2 else db) := by
  obtain ⟨outcomes, hrun⟩ := RecordChange.performAll_run t changes db
  have htransaction : (Store.transaction commit (RecordChange.performAll t changes)).run db =
      (.ok outcomes, if commit then ((RecordChange.performAll t changes).run db).2 else db) := by
    show (((RecordChange.performAll t changes).run db).1,
      if commit then ((RecordChange.performAll t changes).run db).2 else db) = _
    rw [hrun]
  show (Action.run (_ >>= _) db) = _
  rw [Action.run_bind, htransaction]
  rfl

/-- A call keeps the rows lawful and lets them live on; if it fails, the rows have not changed. -/
theorem perform_lawful (op : StoreOperation) (h : t.Holds rows db) (hlaw : Lawful rows) :
    t.Evolves rows ((op.perform t).run db).2 ∧
      ∀ e, ((op.perform t).run db).1 = .error e → t.Holds rows ((op.perform t).run db).2 := by
  cases op with
  | change c =>
    obtain ⟨hevolves, hfails⟩ := c.perform_lawful h hlaw
    refine ⟨hevolves, ?_⟩
    intro e he
    show t.Holds rows ((c.perform t).run db).2
    rw [hfails e he]
    exact h
  | transaction changes commit =>
    rw [run_transaction]
    constructor
    · by_cases hcommit : commit
      · rw [if_pos hcommit]
        exact RecordChange.performAll_lawful changes h hlaw
      · rw [if_neg hcommit]
        exact StoreTables.evolves_refl h hlaw
    · intro e he
      cases he
  | migrate =>
    have hkeeps : t.Holds rows ((perform t .migrate).run db).2 :=
      (Store.migrate_keeps t t rows).state h
    exact ⟨StoreTables.evolves_refl hkeeps hlaw, fun _ _ => hkeeps⟩
  | reopen =>
    have htriple : Triple (t.Holds rows) (perform t .reopen) (fun _ => t.Holds rows)
        (t.Holds rows) :=
      Triple.bind (Store.open_keeps t t rows) fun _ => Triple.pure fun _ h => h
    have hkeeps : t.Holds rows ((perform t .reopen).run db).2 := htriple.state h
    exact ⟨StoreTables.evolves_refl hkeeps hlaw, fun _ _ => hkeeps⟩

end StoreOperation

/-! ## Histories -/

namespace StoreTables

theorem after_append (t : StoreTables) (ops ops' : List StoreOperation) (db : Database) :
    t.after (ops ++ ops') db = t.after ops' (t.after ops db) := List.foldl_append

/-- What is visible within a transaction is there once the transaction is committed. -/
theorem after_commit (t : StoreTables) (ops : List StoreOperation) (changes : List RecordChange)
    (db : Database) :
    t.after (ops ++ [.transaction changes true]) db = t.visible ops changes db := by
  rw [after_append]
  show ((StoreOperation.perform t _).run (t.after ops db)).2 = _
  rw [StoreOperation.run_transaction]
  rfl

theorem after_drop (t : StoreTables) (ops : List StoreOperation) (changes : List RecordChange)
    (db : Database) :
    t.after (ops ++ [.transaction changes false]) db = t.after ops db := by
  rw [after_append]
  show ((StoreOperation.perform t _).run (t.after ops db)).2 = _
  rw [StoreOperation.run_transaction]
  rfl

theorem after_changes (t : StoreTables) (changes : List RecordChange) (db : Database) :
    t.after (changes.map .change) db = ((RecordChange.performAll t changes).run db).2 := by
  rw [RecordChange.performAll_state]
  unfold after
  rw [List.foldl_map]
  rfl

theorem visible_append (t : StoreTables) (ops ops' : List StoreOperation)
    (changes : List RecordChange) (db : Database) :
    t.visible (ops ++ ops') changes db = t.visible ops' changes (t.after ops db) := by
  unfold visible
  rw [after_append]

theorem visible_changes_append (t : StoreTables) (ops : List StoreOperation)
    (changes changes' : List RecordChange) (db : Database) :
    t.visible ops (changes ++ changes') db =
      ((RecordChange.performAll t changes').run (t.visible ops changes db)).2 := by
  unfold visible
  rw [RecordChange.performAll_state, RecordChange.performAll_state, RecordChange.performAll_state,
    List.foldl_append]

/-- The run lemma: the rows stay lawful, and they live on in all that comes later. -/
theorem after_lawful (ops : List StoreOperation) (h : t.Holds rows db) (hlaw : Lawful rows) :
    t.Evolves rows (t.after ops db) := by
  induction ops generalizing rows db with
  | nil => exact evolves_refl h hlaw
  | cons op rest ih =>
    obtain ⟨rows', hrows', hlaw', hevolve⟩ := (op.perform_lawful h hlaw).1
    exact (ih hrows' hlaw').of_evolve hevolve

theorem visible_lawful (ops : List StoreOperation) (changes : List RecordChange)
    (h : t.Holds rows db) (hlaw : Lawful rows) : t.Evolves rows (t.visible ops changes db) := by
  rw [← after_commit]
  exact after_lawful _ h hlaw

/-- The rows that a store shows after some calls and some changes in an open transaction. -/
structure LifeCycle (t : StoreTables) (db : Database) (ops : List StoreOperation)
    (changes : List RecordChange) (rows : List Row) : Prop where
  holds : t.Holds rows (t.visible ops changes db)
  /-- One row at most for each id, and one outcome for each row. -/
  lawful : Lawful rows
  /-- The rows after any calls before live on, skipped ones perhaps with a target key. -/
  livesOn : ∀ earlier, earlier <+: ops →
    ∃ rows₀, t.Holds rows₀ (t.after earlier db) ∧ Evolve rows₀ rows
  /-- So do those that the open transaction has shown. -/
  livesOnInside : ∀ earlier, earlier <+: changes →
    ∃ rows₀, t.Holds rows₀ (t.visible ops earlier db) ∧ Evolve rows₀ rows
  /-- A record with one outcome is refused if and only if its id has a row. -/
  insert : ∀ record, (Row.ofRecord record).hasOneOutcome = true →
    ((Store.insert t record).run (t.visible ops changes db)).1 =
      if ∃ r ∈ rows, r.legacyId = record.legacyId then .error (.duplicateKey record.legacyId)
      else .ok ()
  /-- A record with both outcomes or none is refused. -/
  outcome : ∀ record, (Row.ofRecord record).hasOneOutcome = false →
    ((Store.insert t record).run (t.visible ops changes db)).1 = .error (.database .outcomeCheck)
  /-- An update is refused if and only if the id has no row or a migrated one. -/
  update : ∀ legacyId key,
    ((Store.update t legacyId key).run (t.visible ops changes db)).1 =
      if ∀ r ∈ rows, r.legacyId = legacyId → r.isMigrated = true then .error (.notSkipped legacyId)
      else .ok ()
  /-- A call that fails leaves the rows as they were. -/
  failure : ∀ (op : StoreOperation) e,
    ((op.perform t).run (t.visible ops changes db)).1 = .error e →
    t.Holds rows ((op.perform t).run (t.visible ops changes db)).2
  /-- So does a dropped transaction. -/
  drop : t.after (ops ++ [.transaction changes false]) db = t.after ops db
  /-- A committed transaction leaves what its successful changes leave without it. -/
  commit : t.after (ops ++ [.transaction changes true]) db = t.visible ops changes db ∧
    t.after (ops ++ (RecordChange.succeeding t (t.after ops db) changes).map .change) db =
      t.visible ops changes db

/-- Whatever is done to a store, directly or in transactions, and whether it succeeds or fails: in
every state that is reached the rows are lawful, all earlier rows live on, and the next call has the
outcome that the rows require. -/
theorem rows_have_life_cycle {db₀ : Database}
    (hopen : (Store.open t.tablePrefix).run db₀ = (.ok t, db))
    (hstart : t.Fresh db₀ ∨ ∃ rows, t.Holds rows db₀ ∧ Lawful rows)
    (ops : List StoreOperation) (changes : List RecordChange) :
    ∃ rows, t.LifeCycle db ops changes rows := by
  obtain ⟨rows₀, hrows₀, hlaw₀⟩ := Store.lawful_open hopen hstart
  -- the rows when the transaction began, and those that it shows
  obtain ⟨rows₁, hrows₁, hlaw₁, -⟩ := after_lawful ops hrows₀ hlaw₀
  obtain ⟨rows, hrows, hlaw, -⟩ := visible_lawful ops changes hrows₀ hlaw₀
  refine ⟨rows, ?_⟩
  constructor
  case holds => exact hrows
  case lawful => exact hlaw
  case livesOn =>
    rintro earlier ⟨later, rfl⟩
    obtain ⟨rows', hrows', hlaw', -⟩ := after_lawful earlier hrows₀ hlaw₀
    have hvisible := visible_append t earlier later changes db
    obtain ⟨rows'', hrows'', -, hevolve⟩ := visible_lawful later changes hrows' hlaw'
    rw [← hvisible] at hrows''
    exact ⟨rows', hrows', hrows.unique hrows'' ▸ hevolve⟩
  case livesOnInside =>
    rintro earlier ⟨later, rfl⟩
    obtain ⟨rows', hrows', hlaw', -⟩ := visible_lawful ops earlier hrows₀ hlaw₀
    have hvisible := visible_changes_append t ops earlier later db
    obtain ⟨rows'', hrows'', -, hevolve⟩ := RecordChange.performAll_lawful later hrows' hlaw'
    rw [← hvisible] at hrows''
    exact ⟨rows', hrows', hrows.unique hrows'' ▸ hevolve⟩
  case insert =>
    intro record hone
    rw [Store.insert_run hrows, if_pos hone]
    split <;> rfl
  case outcome =>
    intro record hone
    rw [Store.insert_run hrows, if_neg (by rw [hone]; decide)]
  case update =>
    intro legacyId key
    rw [Store.update_run hrows]
    by_cases hall : ∀ r ∈ rows, r.legacyId = legacyId → r.isMigrated = true
    · rw [if_pos hall, if_neg fun hfound => (hlaw.exists_skipped_iff legacyId).1 hfound hall]
    · rw [if_neg hall, if_pos ((hlaw.exists_skipped_iff legacyId).2 hall)]
  case failure => exact fun op e he => (op.perform_lawful hrows hlaw).2 e he
  case drop => exact after_drop t ops changes db
  case commit =>
    refine ⟨after_commit t ops changes db, ?_⟩
    rw [after_append, after_changes]
    exact RecordChange.performAll_succeeding changes hrows₁ hlaw₁

/-- A skipped instance is recorded in a new database; a transaction tries to record it again, flips
it and is committed; the store is opened again, and another transaction begins. -/
theorem flipped_row_has_life_cycle :
    let t : StoreTables := ⟨""⟩
    let db : Database :=
      ⟨[⟨"schema_migrations", .versions [1]⟩, ⟨"migration_mapping", .mapping []⟩],
        [⟨"idx_migration_mapping_order", "migration_mapping"⟩,
          ⟨"idx_migration_mapping_target", "migration_mapping"⟩]⟩
    let ops : List StoreOperation :=
      [.change (.insert (.skipped "order" none "no definition")),
        .transaction [.insert (.migrated "order" 4 none), .update "order" 5] true, .reopen]
    (Store.open "").run Database.empty = (.ok t, db) ∧ t.Fresh Database.empty ∧
      ∃ rows, t.LifeCycle db ops [.update "order" 6] rows ∧
        rows = [.ofRecord (.migrated "order" 5 none)] := by
  intro t db ops
  have hopen : (Store.open "").run Database.empty = (.ok t, db) := by decide +kernel
  have hfresh : t.Fresh Database.empty := ⟨rfl, rfl⟩
  obtain ⟨rows, hlife⟩ := rows_have_life_cycle hopen (.inl hfresh) ops [.update "order" 6]
  have hrows : t.Holds [.ofRecord (.migrated "order" 5 none)]
      (t.visible ops [.update "order" 6] db) := by
    unfold Holds
    decide +kernel
  exact ⟨hopen, hfresh, rows, hlife, hrows.unique hlife.holds⟩

end StoreTables
end ProcessMigration
