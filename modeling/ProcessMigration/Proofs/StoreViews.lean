import ProcessMigration.Mapping.Calls
import ProcessMigration.Proofs.LifeCycle

/-!
# What a store sees of a database

The names of a store's tables and indexes begin with its prefix and end in letters of their own
kind. What is stored under these names is all that the store looks at, and all that it changes.

* `StoreTables.sameName_names`: two stores have no name in common, whatever their prefixes imitate;
* `StoreTables.SameView`: a store finds the same in two databases;
* `StoreTables.Leaves`: what a store leaves alone;
* `StoreTables.Confined`: an operation gives the same answer wherever its store finds the same, and
  leaves the rest alone. `StoreCall.perform_confined`: every call is of that kind.
-/

namespace ProcessMigration

/-! ## Names -/

namespace Database

variable {a b : String}

@[simp] theorem sameName_refl (a : String) : sameName a a = true := BEq.rfl

theorem sameName_congr_left (h : sameName a b = true) (name : String) :
    sameName a name = sameName b name := by
  unfold sameName at *
  rw [beq_iff_eq] at h
  rw [h]

theorem sameName_congr_right (h : sameName a b = true) (name : String) :
    sameName name a = sameName name b := by
  rw [sameName_comm name a, sameName_comm name b, sameName_congr_left h]

/-- Names with the same ending differ as what stands before it. -/
theorem sameName_append (a b ending : String) :
    sameName (a ++ ending) (b ++ ending) = sameName a b := by
  unfold sameName
  rw [String.toList_append, String.toList_append, List.map_append, List.map_append,
    Bool.eq_iff_iff, beq_iff_eq, beq_iff_eq, List.append_left_inj]

/-- Names that end in different letters are different, whatever stands before. -/
theorem sameName_of_last {a b k l : String} {c d : Char}
    (hk : (k.toList.map Char.toLower).getLast? = some c)
    (hl : (l.toList.map Char.toLower).getLast? = some d) (hne : c ≠ d) :
    sameName (a ++ k) (b ++ l) = false := by
  unfold sameName
  rw [beq_eq_false_iff_ne, String.toList_append, String.toList_append, List.map_append,
    List.map_append]
  intro h
  have hlast := congrArg List.getLast? h
  rw [List.getLast?_append, List.getLast?_append, hk, hl] at hlast
  exact hne (Option.some.inj hlast)

end Database

open Database (sameName)

namespace StoreTables

variable {t other : StoreTables}

/-- The names of the tables of a store. -/
def tableNames (t : StoreTables) : List String := [t.mapping, t.versions]

/-- The names of the indexes of a store. -/
def indexNames (t : StoreTables) : List String := [t.orderIndex, t.targetIndex]

/-- The names of everything that a store makes. -/
def names (t : StoreTables) : List String := t.tableNames ++ t.indexNames

theorem orderIndex_last :
    ("idx_migration_mapping_order".toList.map Char.toLower).getLast? = some 'r' := by decide

theorem targetIndex_last :
    ("idx_migration_mapping_target".toList.map Char.toLower).getLast? = some 't' := by decide

/-- An index has never the name of a table. -/
theorem sameName_indexNames (t other : StoreTables) :
    ∀ i ∈ t.indexNames, ∀ name ∈ other.tableNames, sameName i name = false := by
  have hmapping : ("migration_mapping".toList.map Char.toLower).getLast? = some 'g' := by decide
  have hversions : ("schema_migrations".toList.map Char.toLower).getLast? = some 's' := by decide
  simp only [indexNames, tableNames, List.forall_mem_cons, List.not_mem_nil, false_implies,
    implies_true, and_true]
  exact ⟨⟨Database.sameName_of_last orderIndex_last hmapping (by decide),
      Database.sameName_of_last orderIndex_last hversions (by decide)⟩,
    Database.sameName_of_last targetIndex_last hmapping (by decide),
    Database.sameName_of_last targetIndex_last hversions (by decide)⟩

/-- Tables of prefixes that differ by more than the case of letters have different names. -/
theorem sameName_tableNames (h : sameName t.tablePrefix other.tablePrefix = false) :
    ∀ own ∈ t.tableNames, ∀ name ∈ other.tableNames, sameName own name = false := by
  simp only [tableNames, List.forall_mem_cons, List.not_mem_nil, false_implies, implies_true,
    and_true]
  refine ⟨⟨?_, ?_⟩, ?_, ?_⟩
  · exact (Database.sameName_append _ _ _).trans h
  · rw [Database.sameName_comm]
    exact other.sameName_versions_mapping t
  · exact t.sameName_versions_mapping other
  · exact (Database.sameName_append _ _ _).trans h

/-- Nothing that two stores of such prefixes make has the same name. -/
theorem sameName_names (h : sameName t.tablePrefix other.tablePrefix = false) :
    ∀ own ∈ t.names, ∀ name ∈ other.names, sameName own name = false := by
  have hindexes : ∀ own ∈ t.indexNames, ∀ name ∈ other.indexNames, sameName own name = false := by
    simp only [indexNames, List.forall_mem_cons, List.not_mem_nil, false_implies, implies_true,
      and_true]
    exact ⟨⟨(Database.sameName_append _ _ _).trans h,
        Database.sameName_of_last orderIndex_last targetIndex_last (by decide)⟩,
      Database.sameName_of_last targetIndex_last orderIndex_last (by decide),
      (Database.sameName_append _ _ _).trans h⟩
  simp only [names, List.forall_mem_append]
  refine ⟨?_, fun own hown => ⟨t.sameName_indexNames other own hown, hindexes own hown⟩⟩
  intro own hown
  refine ⟨sameName_tableNames h own hown, ?_⟩
  intro name hname
  rw [Database.sameName_comm]
  exact other.sameName_indexNames t name hname own hown

end StoreTables

/-! ## What is stored under a name -/

namespace Database

variable {db db' : Database} {name own : String}

/-- The tables of a name. -/
def under (db : Database) (name : String) : List Table :=
  db.tables.filter fun t => sameName t.name name

/-- The indexes of a name. -/
def named (db : Database) (name : String) : List Index :=
  db.indexes.filter fun i => sameName i.name name

theorem table?_eq (db : Database) (name : String) : db.table? name = (db.under name).head? :=
  List.head?_filter.symm

theorem rows_eq_of_under (h : db.under name = db'.under name) : db.rows name = db'.rows name := by
  unfold Database.rows
  rw [table?_eq, table?_eq, h]

theorem versions_eq_of_under (h : db.under name = db'.under name) :
    db.versions name = db'.versions name := by
  unfold Database.versions
  rw [table?_eq, table?_eq, h]

theorem nameAsMade_eq_of_under (h : db.under name = db'.under name) :
    db.nameAsMade name = db'.nameAsMade name := by
  unfold nameAsMade
  rw [table?_eq, table?_eq, h]

theorem hasTableNamed_eq_of_under (h : db.under name = db'.under name) :
    db.hasTableNamed name = db'.hasTableNamed name := by
  have heq : ∀ db : Database, db.hasTableNamed name = (db.under name).any (·.name == name) := by
    intro db
    unfold hasTableNamed under
    rw [List.any_filter]
    congr 1
    funext t
    by_cases ht : t.name = name
    · simp [ht]
    · simp [ht]
  rw [heq, heq, h]

theorem hasIndex_eq (db : Database) (name : String) :
    db.hasIndex name = !(db.named name).isEmpty := by
  unfold hasIndex named
  rw [Bool.eq_iff_iff, List.any_eq_true]
  simp [List.filter_eq_nil_iff]

theorem under_append (db : Database) (t : Table) (name : String) :
    under { db with tables := db.tables ++ [t] } name =
      db.under name ++ if sameName t.name name then [t] else [] := by
  unfold under
  rw [List.filter_append, List.filter_singleton]
  cases sameName t.name name <;> rfl

theorem named_append (db : Database) (i : Index) (name : String) :
    named { db with indexes := db.indexes ++ [i] } name =
      db.named name ++ if sameName i.name name then [i] else [] := by
  unfold named
  rw [List.filter_append, List.filter_singleton]
  cases sameName i.name name <;> rfl

/-- The tables of a name are those of another name, or none of them is. -/
theorem sameName_of_under {t : Table} (ht : t ∈ db.under name) (own : String) :
    sameName t.name own = sameName own name := by
  have hname : sameName t.name name = true := (List.mem_filter.1 ht).2
  rw [sameName_comm own name, sameName_congr_left hname]

theorem under_setContent (db : Database) (own : String) (content : TableContent) (name : String) :
    (db.setContent own content).under name =
      if sameName own name then (db.under name).map fun t => { t with content }
      else db.under name := by
  have hmap : (db.setContent own content).under name =
      (db.under name).map fun t => if sameName t.name own then { t with content } else t := by
    unfold under setContent
    rw [List.filter_map]
    congr 2
    funext t
    show sameName (if sameName t.name own then _ else t).name name = _
    split <;> rfl
  rw [hmap]
  split
  case isTrue h => exact List.map_congr_left fun t ht => by rw [sameName_of_under ht, h, if_pos rfl]
  case isFalse h =>
    rw [List.map_congr_left fun t ht => by rw [sameName_of_under ht, if_neg h], List.map_id']

theorem under_dropTable (db : Database) (own name : String) :
    (db.dropTable own).under name = if sameName own name then [] else db.under name := by
  have hfilter : (db.dropTable own).under name =
      (db.under name).filter fun t => !sameName t.name own := by
    unfold under dropTable
    rw [List.filter_filter, List.filter_filter]
    simp only [Bool.and_comm]
  rw [hfilter]
  split
  case isTrue h =>
    exact List.filter_eq_nil_iff.2 fun t ht => by simp [sameName_of_under ht, h]
  case isFalse h =>
    exact List.filter_eq_self.2 fun t ht => by simp [sameName_of_under ht, h]

theorem named_dropTable (db : Database) (own name : String) :
    (db.dropTable own).named name = (db.named name).filter fun i => !sameName i.table own := by
  unfold named dropTable
  rw [List.filter_filter, List.filter_filter]
  simp only [Bool.and_comm]

end Database

/-! ## Views -/

namespace StoreTables

variable {t : StoreTables} {db db' db'' : Database}

/-- A store finds the same tables of its own in two databases, and the same indexes that have the
name of one. -/
structure SameView (t : StoreTables) (db db' : Database) : Prop where
  tables : ∀ name ∈ t.names, db.under name = db'.under name
  indexes : ∀ name ∈ t.tableNames, db.named name = db'.named name

/-- Tables of other names stay as they are, and so do indexes of other names, unless they stand on a
table of the store. New indexes have a name of the store. -/
structure Leaves (t : StoreTables) (db db' : Database) : Prop where
  tables : ∀ name, (∀ own ∈ t.tableNames, sameName own name = false) →
    db'.under name = db.under name
  indexes : ∀ name, (∀ own ∈ t.indexNames, sameName own name = false) →
    (∀ i ∈ db.named name, ∀ own ∈ t.tableNames, sameName i.table own = false) →
      db'.named name = db.named name
  made : ∀ i ∈ db'.indexes, i ∈ db.indexes ∨ i.name ∈ t.indexNames

namespace SameView

theorem refl (t : StoreTables) (db : Database) : t.SameView db db :=
  ⟨fun _ _ => rfl, fun _ _ => rfl⟩

theorem symm (h : t.SameView db db') : t.SameView db' db :=
  ⟨fun name hname => (h.tables name hname).symm, fun name hname => (h.indexes name hname).symm⟩

theorem trans (h : t.SameView db db') (h' : t.SameView db' db'') : t.SameView db db'' :=
  ⟨fun name hname => (h.tables name hname).trans (h'.tables name hname),
    fun name hname => (h.indexes name hname).trans (h'.indexes name hname)⟩

theorem under (h : t.SameView db db') {name : String} (hname : name ∈ t.tableNames) :
    db.under name = db'.under name :=
  h.tables name (List.mem_append_left _ hname)

end SameView

namespace Leaves

theorem refl (t : StoreTables) (db : Database) : t.Leaves db db :=
  ⟨fun _ _ => rfl, fun _ _ _ => rfl, fun _ hi => .inl hi⟩

theorem trans (h : t.Leaves db db') (h' : t.Leaves db' db'') : t.Leaves db db'' where
  tables name hname := (h'.tables name hname).trans (h.tables name hname)
  indexes name hname hon := by
    have hfirst := h.indexes name hname hon
    exact (h'.indexes name hname (hfirst ▸ hon)).trans hfirst
  made i hi := (h'.made i hi).elim (h.made i) .inr

end Leaves

/-! ## Confined operations -/

/-- An operation of a store gives the same answer wherever the store finds the same, leaves it
finding the same, and leaves the rest of the database alone. -/
structure Confined (t : StoreTables) {α : Type} (x : StoreAction α) : Prop where
  mirrors : ∀ {db db'}, t.SameView db db' →
    (x.run db).1 = (x.run db').1 ∧ t.SameView (x.run db).2 (x.run db').2
  leaves : ∀ db, t.Leaves db (x.run db).2

/-- So does a change of the database, if it is made in both. -/
structure ConfinedChange (t : StoreTables) (f : Database → Except DatabaseError Database) :
    Prop where
  mirrors : ∀ {db db'}, t.SameView db db' → (∃ e, f db = .error e ∧ f db' = .error e) ∨
    ∃ new new', f db = .ok new ∧ f db' = .ok new' ∧ t.SameView new new'
  leaves : ∀ {db new}, f db = .ok new → t.Leaves db new

namespace Confined

variable {α β : Type} {x : StoreAction α}

theorem ofExcept (r : Except StoreError α) : t.Confined (Action.ofExcept r) :=
  ⟨fun h => ⟨rfl, h⟩, fun db => .refl t db⟩

theorem pure (a : α) : t.Confined (Pure.pure a : StoreAction α) :=
  ⟨fun h => ⟨rfl, h⟩, fun db => .refl t db⟩

theorem fail (e : StoreError) : t.Confined (Action.fail e : StoreAction α) :=
  ⟨fun h => ⟨rfl, h⟩, fun db => .refl t db⟩

theorem ask {question : Database → Except DatabaseError α}
    (h : ∀ {db db'}, t.SameView db db' → question db = question db') :
    t.Confined (Store.ask question) where
  mirrors hview := ⟨congrArg (Except.mapError StoreError.database) (h hview), hview⟩
  leaves db := .refl t db

theorem change {f : Database → Except DatabaseError Database} (h : t.ConfinedChange f) :
    t.Confined (Store.change f) where
  mirrors {db db'} hview := by
    unfold Action.run Store.change
    rcases h.mirrors hview with ⟨e, hf, hf'⟩ | ⟨new, new', hf, hf', hview'⟩
    · rw [hf, hf']
      exact ⟨rfl, hview⟩
    · rw [hf, hf']
      exact ⟨rfl, hview'⟩
  leaves db := by
    unfold Action.run Store.change
    cases hf : f db with
    | error e => exact .refl t db
    | ok new => exact h.leaves hf

theorem bind (hx : t.Confined x) {f : α → StoreAction β} (hf : ∀ a, t.Confined (f a)) :
    t.Confined (x >>= f) where
  mirrors {db db'} hview := by
    obtain ⟨hsame, hview'⟩ := hx.mirrors hview
    rw [Action.run_bind, Action.run_bind]
    rcases hrun : x.run db with ⟨r, new⟩
    rcases hrun' : x.run db' with ⟨r', new'⟩
    rw [hrun, hrun'] at hsame hview'
    subst hsame
    cases r with
    | error e => exact ⟨rfl, hview'⟩
    | ok a => exact (hf a).mirrors hview'
  leaves db := by
    have hleaves := hx.leaves db
    rw [Action.run_bind]
    rcases hrun : x.run db with ⟨_ | a, new⟩
    · rw [hrun] at hleaves
      exact hleaves
    · rw [hrun] at hleaves
      exact hleaves.trans ((hf a).leaves new)

/-- The answer to an operation that needs no more of the database. -/
theorem map (hx : t.Confined x) (f : α → β) : t.Confined (do return f (← x)) :=
  hx.bind fun a => .pure (f a)

theorem attempt (hx : t.Confined x) : t.Confined x.attempt where
  mirrors hview := by
    obtain ⟨hsame, hview'⟩ := hx.mirrors hview
    exact ⟨congrArg Except.ok hsame, hview'⟩
  leaves db := hx.leaves db

theorem transaction (commit : Bool) (hx : t.Confined x) :
    t.Confined (Store.transaction commit x) where
  mirrors hview := by
    obtain ⟨hsame, hview'⟩ := hx.mirrors hview
    cases commit with
    | true => exact ⟨hsame, hview'⟩
    | false => exact ⟨hsame, hview⟩
  leaves db := by
    cases commit with
    | true => exact hx.leaves db
    | false => exact .refl t db

end Confined

/-! ## Changes of the database -/

variable {own : String}

theorem mapping_mem_tableNames (t : StoreTables) : t.mapping ∈ t.tableNames := List.mem_cons_self

theorem versions_mem_tableNames (t : StoreTables) : t.versions ∈ t.tableNames :=
  List.mem_cons_of_mem _ List.mem_cons_self

/-- The same content is put into the same table. -/
theorem SameView.setContent (h : t.SameView db db') (own : String) (content : TableContent) :
    t.SameView (db.setContent own content) (db'.setContent own content) where
  tables name hname := by
    rw [Database.under_setContent, Database.under_setContent, h.tables name hname]
  indexes := h.indexes

theorem Leaves.setContent (hown : own ∈ t.tableNames) (db : Database) (content : TableContent) :
    t.Leaves db (db.setContent own content) where
  tables name hname := by
    rw [Database.under_setContent, hname own hown]
    rfl
  indexes _ _ _ := rfl
  made _ hi := .inl hi

theorem SameView.dropTable (h : t.SameView db db') (own : String) :
    t.SameView (db.dropTable own) (db'.dropTable own) where
  tables name hname := by
    rw [Database.under_dropTable, Database.under_dropTable, h.tables name hname]
  indexes name hname := by
    rw [Database.named_dropTable, Database.named_dropTable, h.indexes name hname]

theorem Leaves.dropTable (hown : own ∈ t.tableNames) (db : Database) :
    t.Leaves db (db.dropTable own) where
  tables name hname := by
    rw [Database.under_dropTable, hname own hown]
    rfl
  indexes name _ hon := by
    rw [Database.named_dropTable]
    exact List.filter_eq_self.2 fun i hi => by simp [hon i hi own hown]
  made i hi := .inl (List.mem_filter.1 hi).1

namespace ConfinedChange

theorem createTable (hown : own ∈ t.tableNames) (content : TableContent) :
    t.ConfinedChange fun db => db.createTable own content where
  mirrors {db db'} h := by
    have htable : db.table? own = db'.table? own := by
      rw [Database.table?_eq, Database.table?_eq, h.under hown]
    have hindex : db.hasIndex own = db'.hasIndex own := by
      rw [Database.hasIndex_eq, Database.hasIndex_eq, h.indexes own hown]
    unfold Database.createTable
    rw [htable, hindex]
    cases Database.checkName own with
    | error e => exact .inl ⟨e, rfl, rfl⟩
    | ok =>
      dsimp only
      split
      · exact .inr ⟨db, db', rfl, rfl, h⟩
      · split
        · exact .inl ⟨_, rfl, rfl⟩
        · refine .inr ⟨_, _, rfl, rfl, ⟨?_, h.indexes⟩⟩
          intro name hname
          rw [Database.under_append, Database.under_append, h.tables name hname]
  leaves {db new} hmade := by
    unfold Database.createTable at hmade
    split at hmade
    case h_1 => cases hmade
    case h_2 =>
      split at hmade
      case isTrue =>
        cases hmade
        exact .refl t db
      case isFalse =>
        split at hmade
        case isTrue => cases hmade
        case isFalse =>
          cases hmade
          refine ⟨?_, fun _ _ _ => rfl, fun _ hi => .inl hi⟩
          intro name hname
          rw [Database.under_append, hname own hown]
          exact List.append_nil _

/-- Whether the index is there already may differ, but it is there in the end, and has not the name
of a table. -/
theorem createIndex (hown : own ∈ t.indexNames) (table : String) :
    t.ConfinedChange fun db => db.createIndex own table where
  mirrors {db db'} h := by
    have htable : db.table? own = db'.table? own := by
      rw [Database.table?_eq, Database.table?_eq, h.tables own (List.mem_append_right _ hown)]
    have hmade : ∀ db : Database,
        t.SameView { db with indexes := db.indexes ++ [⟨own, table⟩] } db := by
      intro db
      refine ⟨fun _ _ => rfl, ?_⟩
      intro name hname
      rw [Database.named_append, t.sameName_indexNames t own hown name hname]
      exact List.append_nil _
    unfold Database.createIndex
    rw [htable]
    cases Database.checkName own with
    | error e => exact .inl ⟨e, rfl, rfl⟩
    | ok =>
      dsimp only
      split
      · exact .inl ⟨_, rfl, rfl⟩
      · -- each database may have the index already: the view does not tell, and shows no new one
        right
        split
        · split
          · exact ⟨_, _, rfl, rfl, h⟩
          · exact ⟨_, _, rfl, rfl, h.trans (hmade db').symm⟩
        · split
          · exact ⟨_, _, rfl, rfl, (hmade db).trans h⟩
          · exact ⟨_, _, rfl, rfl, (hmade db).trans (h.trans (hmade db').symm)⟩
  leaves {db new} hmade := by
    unfold Database.createIndex at hmade
    split at hmade
    case h_1 => cases hmade
    case h_2 =>
      split at hmade
      case isTrue => cases hmade
      case isFalse =>
        split at hmade
        case isTrue =>
          cases hmade
          exact .refl t db
        case isFalse =>
          cases hmade
          refine ⟨fun _ _ => rfl, ?_, ?_⟩
          · intro name hname _
            rw [Database.named_append, hname own hown]
            exact List.append_nil _
          · intro i hi
            rcases List.mem_append.1 hi with hold | hnew
            · exact .inl hold
            · rw [List.mem_singleton.1 hnew]
              exact .inr hown

/-- Whether a table of the store gets new content, and which, shows in what the store finds. -/
theorem ofSetContent {f : Database → Except DatabaseError Database} (hown : own ∈ t.tableNames)
    (h : ∀ {db db'}, t.SameView db db' → (∃ e, f db = .error e ∧ f db' = .error e) ∨
      ∃ content, f db = .ok (db.setContent own content) ∧
        f db' = .ok (db'.setContent own content)) :
    t.ConfinedChange f where
  mirrors hview := by
    rcases h hview with herror | ⟨content, hf, hf'⟩
    · exact .inl herror
    · exact .inr ⟨_, _, hf, hf', hview.setContent own content⟩
  leaves {db new} hmade := by
    -- what is done to one database is seen where the two are the same
    rcases h (.refl t db) with ⟨e, hf, -⟩ | ⟨content, hf, -⟩
    · rw [hf] at hmade
      cases hmade
    · rw [hf] at hmade
      cases hmade
      exact .setContent hown db content

theorem insertVersion (version : Int) :
    t.ConfinedChange fun db => db.insertVersion t.versions version := by
  refine .ofSetContent t.versions_mem_tableNames ?_
  intro db db' h
  have hunder := h.under t.versions_mem_tableNames
  unfold Database.insertVersion
  rw [Database.versions_eq_of_under hunder, Database.nameAsMade_eq_of_under hunder]
  cases db'.versions t.versions with
  | error e => exact .inl ⟨e, rfl, rfl⟩
  | ok numbers =>
    dsimp only
    split
    · exact .inl ⟨_, rfl, rfl⟩
    · exact .inr ⟨_, rfl, rfl⟩

theorem insertRow (row : Row) : t.ConfinedChange fun db => db.insertRow t.mapping row := by
  refine .ofSetContent t.mapping_mem_tableNames ?_
  intro db db' h
  have hunder := h.under t.mapping_mem_tableNames
  unfold Database.insertRow
  rw [Database.rows_eq_of_under hunder, Database.nameAsMade_eq_of_under hunder]
  cases db'.rows t.mapping with
  | error e => exact .inl ⟨e, rfl, rfl⟩
  | ok rows =>
    dsimp only
    split
    · exact .inl ⟨_, rfl, rfl⟩
    · split
      · exact .inl ⟨_, rfl, rfl⟩
      · exact .inr ⟨_, rfl, rfl⟩

theorem dropTables :
    t.ConfinedChange fun db => .ok ((db.dropTable t.mapping).dropTable t.versions) where
  mirrors h := .inr ⟨_, _, rfl, rfl, (h.dropTable _).dropTable _⟩
  leaves {db new} hmade := by
    cases hmade
    exact (Leaves.dropTable t.mapping_mem_tableNames db).trans
      (.dropTable t.versions_mem_tableNames _)

end ConfinedChange
end StoreTables

/-! ## Calls -/

namespace Store

open StoreTables (Confined ConfinedChange)

variable {t : StoreTables}

theorem askRows_confined (t : StoreTables) : t.Confined (ask fun db => db.rows t.mapping) :=
  .ask fun h => Database.rows_eq_of_under (h.under t.mapping_mem_tableNames)

theorem version_confined (t : StoreTables) : t.Confined (version t) := by
  refine .ask ?_
  intro db db' h
  have hunder := h.under t.versions_mem_tableNames
  rw [Database.hasTableNamed_eq_of_under hunder, Database.versions_eq_of_under hunder]

theorem tableExists_confined (t : StoreTables) : t.Confined (tableExists t) :=
  .ask fun h => congrArg Except.ok
    (Database.hasTableNamed_eq_of_under (h.under t.mapping_mem_tableNames))

theorem migrate_confined (t : StoreTables) : t.Confined (migrate t) := by
  unfold migrate
  refine .bind (.change (.createTable t.versions_mem_tableNames _)) ?_
  intro _
  refine .bind (version_confined t) ?_
  intro current
  split
  · exact .fail _
  · split
    · refine .bind (.change (.createTable t.mapping_mem_tableNames _)) ?_
      intro _
      refine .bind (.change (.createIndex List.mem_cons_self _)) ?_
      intro _
      refine .bind (.change (.createIndex (List.mem_cons_of_mem _ List.mem_cons_self) _)) ?_
      intro _
      exact .change (.insertVersion 1)
    · exact .pure _

theorem open_confined (t : StoreTables) : t.Confined («open» t.tablePrefix) := by
  unfold «open»
  cases hprefix : StoreTables.ofPrefix t.tablePrefix with
  | error e => exact Confined.fail e
  | ok same =>
    cases ofPrefix_eq_ok hprefix
    show t.Confined (do migrate t; return t)
    exact .bind (migrate_confined t) fun _ => .pure _

theorem row?_confined (t : StoreTables) (legacyId : String) : t.Confined (row? t legacyId) :=
  .ask fun h => by rw [Database.rows_eq_of_under (h.under t.mapping_mem_tableNames)]

theorem find?_confined (t : StoreTables) (legacyId : String) : t.Confined (find? t legacyId) := by
  unfold find?
  refine .bind (row?_confined t legacyId) ?_
  intro row
  cases row with
  | none => exact .pure _
  | some r => exact .map (.ofExcept _) _

theorem page_confined (t : StoreTables) (type : EntityType) (keep : Row → Bool)
    (offset limit : Nat) : t.Confined (page t type keep offset limit) :=
  .bind (askRows_confined t) fun _ => .ofExcept _

theorem count_confined (t : StoreTables) (type : EntityType) (keep : Row → Bool) :
    t.Confined (count t type keep) :=
  .ask fun h => by rw [Database.rows_eq_of_under (h.under t.mapping_mem_tableNames)]

theorem latest?_confined (t : StoreTables) (type : EntityType) : t.Confined (latest? t type) := by
  unfold latest?
  refine .bind (askRows_confined t) ?_
  intro rows
  split
  · exact .pure _
  · split
    · exact .pure _
    · exact .fail _

theorem insert_confined (t : StoreTables) (record : MappingRecord) :
    t.Confined (insert t record) where
  mirrors {db db'} h := by
    unfold Action.run insert
    rcases (ConfinedChange.insertRow (.ofRecord record)).mirrors h with
      ⟨e, hf, hf'⟩ | ⟨new, new', hf, hf', hview⟩
    · rw [hf, hf']
      cases e <;> exact ⟨rfl, h⟩
    · rw [hf, hf']
      exact ⟨rfl, hview⟩
  leaves db := by
    unfold Action.run insert
    cases hf : db.insertRow t.mapping (.ofRecord record) with
    | error e => cases e <;> exact .refl t db
    | ok new => exact (ConfinedChange.insertRow (.ofRecord record)).leaves hf

theorem update_confined (t : StoreTables) (legacyId : String) (key : Int) :
    t.Confined (update t legacyId key) where
  mirrors {db db'} h := by
    unfold Action.run update
    rw [Database.rows_eq_of_under (h.under t.mapping_mem_tableNames)]
    cases db'.rows t.mapping with
    | error e => exact ⟨rfl, h⟩
    | ok rows =>
      dsimp only
      split
      · exact ⟨rfl, h.setContent _ _⟩
      · exact ⟨rfl, h⟩
  leaves db := by
    unfold Action.run update
    cases db.rows t.mapping with
    | error e => exact .refl t db
    | ok rows =>
      dsimp only
      split
      · exact .setContent t.mapping_mem_tableNames db _
      · exact .refl t db

end Store

theorem RecordChange.perform_confined (t : StoreTables) (c : RecordChange) :
    t.Confined (c.perform t) := by
  cases c with
  | insert record => exact Store.insert_confined t record
  | update legacyId key => exact Store.update_confined t legacyId key

namespace TransactionStep

theorem perform_confined (t : StoreTables) (s : TransactionStep) : t.Confined (s.perform t) := by
  cases s with
  | «exists» legacyId => exact .map (.map (Store.row?_confined t legacyId) _) _
  | change c => exact .bind (c.perform_confined t) fun _ => .pure _

theorem performAll_confined (t : StoreTables) (steps : List TransactionStep) :
    t.Confined (performAll t steps) := by
  induction steps with
  | nil => exact .pure _
  | cons s steps ih =>
    exact .bind (.attempt (s.perform_confined t)) fun _ => .map ih _

end TransactionStep

/-- Every call to a store is confined to it. -/
theorem StoreCall.perform_confined (t : StoreTables) (c : StoreCall) :
    t.Confined (c.perform t) := by
  cases c with
  | version => exact .map (Store.version_confined t) _
  | tableExists => exact .map (Store.tableExists_confined t) _
  | «exists» legacyId => exact .map (.map (Store.row?_confined t legacyId) _) _
  | find legacyId => exact .map (Store.find?_confined t legacyId) _
  | targetKey legacyId => exact .map (.map (Store.row?_confined t legacyId) _) _
  | latest type => exact .map (Store.latest?_confined t type) _
  | skipped type offset limit => exact .map (Store.page_confined t type _ offset limit) _
  | migrated type offset limit => exact .map (Store.page_confined t type _ offset limit) _
  | countSkipped type => exact .map (Store.count_confined t type _) _
  | countMigrated type => exact .map (Store.count_confined t type _) _
  | change c => exact .bind (c.perform_confined t) fun _ => .pure _
  | transaction steps commit =>
    exact .map (.transaction commit (TransactionStep.performAll_confined t steps)) _
  | migrate => exact .bind (Store.migrate_confined t) fun _ => .pure _
  | dropSchema => exact .bind (.change .dropTables) fun _ => .pure _
  | «open» => exact .bind (Store.open_confined t) fun _ => .pure _

end ProcessMigration
