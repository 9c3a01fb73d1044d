import ProcessMigration.Proofs.StoreViews

/-!
# Stores that share a database

Two stores whose prefixes differ by more than the case of letters share a database without noticing.
The one obstacle would be an index that stands on a table of one store and has the name of a table
of the other, which no store makes: to drop that table would free the name.

* `StoreTables.Apart` says that there is no such index, and `StoreTables.apart_after` that stores
  keep it so;
* `StoreTables.Leaves.sameView`: what one store does, the other does not see;
* `StoreTables.answers_alone`: among calls to both, a store answers as if there were none to the
  other;
* `StoreTables.prefixes_isolate` sums it up over all interleavings.
-/

namespace ProcessMigration

open Database (sameName)

/-- No table and index have the same name. -/
def Database.OneNameSpace (db : Database) : Prop :=
  ∀ t ∈ db.tables, ∀ i ∈ db.indexes, sameName t.name i.name = false

namespace StoreTables

variable {t other maker : StoreTables} {db db' : Database} {calls : StoreCalls}

/-! ## What the other store does -/

/-- No index on a table of the other store has the name of a table of this one. -/
def Apart (t other : StoreTables) (db : Database) : Prop :=
  ∀ i ∈ db.indexes, (∃ own ∈ other.tableNames, sameName i.table own = true) →
    ∀ name ∈ t.tableNames, sameName i.name name = false

/-- Whatever a store does, it makes no index with the name of a table. -/
theorem Leaves.apart (h : maker.Leaves db db') (hdb : t.Apart other db) : t.Apart other db' := by
  intro i hi hon name hname
  rcases h.made i hi with hold | hnew
  · exact hdb i hold hon name hname
  · exact maker.sameName_indexNames t i.name hnew name hname

/-- A store does not see what the other does. -/
theorem Leaves.sameView (h : other.Leaves db db')
    (hne : sameName t.tablePrefix other.tablePrefix = false) (hdb : t.Apart other db) :
    t.SameView db db' where
  tables name hname := by
    refine (h.tables name ?_).symm
    intro own hown
    rcases List.mem_append.1 hname with htable | hindex
    · exact sameName_tableNames (Database.sameName_comm _ _ ▸ hne) own hown name htable
    · rw [Database.sameName_comm]
      exact t.sameName_indexNames other name hindex own hown
  indexes name hname := by
    refine (h.indexes name ?_ ?_).symm
    · intro own hown
      exact other.sameName_indexNames t own hown name hname
    · intro i hi own hown
      obtain ⟨hmem, hnamed⟩ := List.mem_filter.1 hi
      rw [Bool.eq_false_iff]
      intro hon
      rw [hdb i hmem ⟨own, hown, hon⟩ name hname] at hnamed
      cases hnamed

/-- Where tables and indexes share one name space, a store that has its tables is apart from any
other one. -/
theorem apart_of_tables (hspace : db.OneNameSpace)
    (htables : ∀ name ∈ t.tableNames, (db.table? name).isSome) : t.Apart other db := by
  intro i hi _ name hname
  obtain ⟨table, htable⟩ := Option.isSome_iff_exists.1 (htables name hname)
  rw [Bool.eq_false_iff]
  intro hnamed
  have hsame : sameName table.name i.name = true := by
    rw [Database.sameName_congr_right hnamed]
    simpa using List.find?_some htable
  rw [hspace table (List.mem_of_find?_eq_some htable) i hi] at hsame
  cases hsame

theorem apart_empty (t other : StoreTables) : t.Apart other .empty := fun _ hi => by cases hi

/-- Calls to whatever stores keep two stores apart. -/
theorem apart_after (calls : StoreCalls) (hdb : t.Apart other db) :
    t.Apart other (calls.after db) := by
  induction calls generalizing db with
  | nil => exact hdb
  | cons e calls ih => exact ih (((e.2.perform_confined e.1).leaves db).apart hdb)

/-! ## Among calls to both -/

theorem answers_own (t : StoreTables) (c : StoreCall) (calls : StoreCalls) (db : Database) :
    t.answers ((t, c) :: calls) db =
      ((c.perform t).run db).1 :: t.answers calls ((c.perform t).run db).2 := if_pos rfl

theorem answers_other (h : other ≠ t) (c : StoreCall) (calls : StoreCalls) (db : Database) :
    t.answers ((other, c) :: calls) db = t.answers calls ((c.perform other).run db).2 := if_neg h

theorem of_own (t : StoreTables) (c : StoreCall) (calls : StoreCalls) :
    StoreCalls.of ((t, c) :: calls) t = (t, c) :: StoreCalls.of calls t :=
  List.filter_cons_of_pos (decide_eq_true rfl)

theorem of_other (h : other ≠ t) (c : StoreCall) (calls : StoreCalls) :
    StoreCalls.of ((other, c) :: calls) t = StoreCalls.of calls t :=
  List.filter_cons_of_neg (by simpa using h)

/-- A store answers as if there were no calls to the other, wherever it finds the same. -/
theorem answers_alone (hne : sameName t.tablePrefix other.tablePrefix = false)
    (hcalls : ∀ e ∈ calls, e.1 = t ∨ e.1 = other) (hdb : t.Apart other db)
    (hview : t.SameView db db') : t.answers calls db = t.answers (calls.of t) db' := by
  have hdiffers : other ≠ t := by
    rintro rfl
    rw [Database.sameName_refl] at hne
    cases hne
  -- the second database takes part in the calls to `t` only; `t` finds the same in both throughout
  induction calls generalizing db db' with
  | nil => rfl
  | cons e calls ih =>
    obtain ⟨s, c⟩ := e
    obtain ⟨hs, hrest⟩ := List.forall_mem_cons.1 hcalls
    have hconfined := c.perform_confined s
    have hleaves := hconfined.leaves db
    rcases hs with rfl | rfl
    case inl =>
      obtain ⟨hanswer, hview'⟩ := hconfined.mirrors hview
      rw [of_own, answers_own, answers_own, hanswer, ih hrest (hleaves.apart hdb) hview']
    case inr =>
      have hview' := (hleaves.sameView hne hdb).symm.trans hview
      rw [of_other hdiffers, answers_other hdiffers, ih hrest (hleaves.apart hdb) hview']

/-! ## Isolation -/

/-- Among calls to two stores, one answers as if the other did not exist: the same as without the
calls to it, and without its tables. -/
structure Isolated (t other : StoreTables) (calls : StoreCalls) (db : Database) : Prop where
  alone : t.answers calls db = t.answers (calls.of t) db
  without : t.answers calls db = t.answers (calls.of t) ((Store.dropSchema other).run db).2

theorem isolated (hne : sameName t.tablePrefix other.tablePrefix = false)
    (hcalls : ∀ e ∈ calls, e.1 = t ∨ e.1 = other) (hdb : t.Apart other db) :
    t.Isolated other calls db where
  alone := answers_alone hne hcalls hdb (.refl t db)
  without := by
    have hdrop : other.Confined (Store.dropSchema other) := .change .dropTables
    exact answers_alone hne hcalls hdb ((hdrop.leaves db).sameView hne hdb)

/-- **Prefixes isolate stores.** Two stores whose prefixes differ by more than the case of letters
have no name in common; and however the calls to them are mixed, each of them answers as if the
other did not exist. This is so on every database in which no index on a table of one has the name
of a table of the other: on those that stores have made, and on those in which both stores have
their tables. -/
theorem prefixes_isolate {p q : StoreTables}
    (hne : sameName p.tablePrefix q.tablePrefix = false) :
    (∀ own ∈ p.names, ∀ name ∈ q.names, sameName own name = false) ∧
      (∀ db, p.Apart q db → q.Apart p db → ∀ calls : StoreCalls,
        (∀ e ∈ calls, e.1 = p ∨ e.1 = q) → p.Isolated q calls db ∧ q.Isolated p calls db) ∧
      (∀ earlier : StoreCalls,
        p.Apart q (earlier.after .empty) ∧ q.Apart p (earlier.after .empty)) ∧
      ∀ db : Database, db.OneNameSpace →
        (∀ name ∈ p.tableNames ++ q.tableNames, (db.table? name).isSome) →
          p.Apart q db ∧ q.Apart p db := by
  refine ⟨sameName_names hne, ?_, ?_, ?_⟩
  · intro db hp hq calls hcalls
    constructor
    · exact isolated hne hcalls hp
    · exact isolated (Database.sameName_comm _ _ ▸ hne) (fun e he => (hcalls e he).symm) hq
  · intro earlier
    constructor
    · exact apart_after earlier (apart_empty p q)
    · exact apart_after earlier (apart_empty q p)
  · intro db hspace htables
    constructor
    · exact apart_of_tables hspace fun name hname => htables name (List.mem_append_left _ hname)
    · exact apart_of_tables hspace fun name hname => htables name (List.mem_append_right _ hname)

/-- Calls to a store, and to one whose names imitate those of the first and that is dropped
again. -/
def mixedCalls : StoreCalls :=
  [(⟨"a_"⟩, .open), (⟨"a_idx_"⟩, .open),
    (⟨"a_"⟩, .change (.insert (.skipped "p1" none "no definition"))), (⟨"a_idx_"⟩, .dropSchema),
    (⟨"a_"⟩, .version), (⟨"a_"⟩, .exists "p1"), (⟨"a_idx_"⟩, .version)]

/-- The first store keeps its version and its record. -/
theorem imitated_store_is_isolated :
    (StoreTables.mk "a_").Isolated ⟨"a_idx_"⟩ mixedCalls .empty ∧
      (StoreTables.mk "a_idx_").Isolated ⟨"a_"⟩ mixedCalls .empty ∧
      (StoreTables.mk "a_").answers mixedCalls .empty =
        [.ok .done, .ok .done, .ok (.version 1), .ok (.truth true)] := by
  have hne : sameName (StoreTables.mk "a_").tablePrefix (StoreTables.mk "a_idx_").tablePrefix =
      false := by decide
  obtain ⟨-, hisolated, hapart, -⟩ := prefixes_isolate hne
  obtain ⟨hp, hq⟩ := hapart []
  obtain ⟨hleft, hright⟩ := hisolated .empty hp hq mixedCalls (by simp [mixedCalls])
  exact ⟨hleft, hright, rfl⟩

end StoreTables
end ProcessMigration
