import ProcessMigration.Mapping.Store

/-!
# Histories of a mapping store

A caller changes a store record by record, directly or inside transactions, brings the schema up to
date, or closes the store and opens it again. Inside a transaction a change that fails does not end
it: the caller goes on with the next one, and at the end commits all that was done or drops it.

* `RecordChange.perform` and `StoreOperation.perform` do one step of a history;
* `StoreTables.after` is the database after a history, `StoreTables.visible` what the store shows
  when a transaction has begun since then.
-/

namespace ProcessMigration

/-- The outcome of an action instead of its failure. -/
def Action.attempt {σ ε α : Type} (x : Action σ ε α) : Action σ ε (Except ε α) := fun s =>
  match x.run s with
  | (r, s) => (.ok r, s)

/-- A change of one record. -/
inductive RecordChange where
  | insert (record : MappingRecord)
  | update (legacyId : String) (targetKey : Int)
  deriving DecidableEq, Repr

/-- A call to a store. -/
inductive StoreOperation where
  | change (c : RecordChange)
  /-- Changes in one transaction, which is committed or dropped. -/
  | transaction (changes : List RecordChange) (commit : Bool)
  | migrate
  | reopen
  deriving DecidableEq, Repr

namespace RecordChange

/-- Changes one record. -/
def perform (t : StoreTables) : RecordChange → StoreAction Unit
  | insert record => Store.insert t record
  | update legacyId targetKey => Store.update t legacyId targetKey

/-- Tries changes one after the other and tells how each of them ended. -/
def performAll (t : StoreTables) : List RecordChange → StoreAction (List (Except StoreError Unit))
  | [] => return []
  | c :: rest => do
    let outcome ← (c.perform t).attempt
    let outcomes ← performAll t rest
    return outcome :: outcomes

/-- The changes of a list that succeed when all of it is tried. -/
def succeeding (t : StoreTables) (db : Database) : List RecordChange → List RecordChange
  | [] => []
  | c :: rest =>
    match (c.perform t).run db with
    | (.ok (), db) => c :: succeeding t db rest
    | (.error _, db) => succeeding t db rest

end RecordChange

namespace StoreOperation

/-- Carries out a call. -/
def perform (t : StoreTables) : StoreOperation → StoreAction Unit
  | change c => c.perform t
  | transaction changes commit => do
    let _ ← Store.transaction commit (RecordChange.performAll t changes)
    return ()
  | migrate => Store.migrate t
  | reopen => do
    let _ ← Store.open t.tablePrefix
    return ()

end StoreOperation

namespace StoreTables

/-- The database after some calls, whether they succeed or fail. -/
def after (t : StoreTables) (ops : List StoreOperation) (db : Database) : Database :=
  ops.foldl (fun db op => ((op.perform t).run db).2) db

/-- What the store shows after some calls and, in a transaction begun since, some changes. -/
def visible (t : StoreTables) (ops : List StoreOperation) (changes : List RecordChange)
    (db : Database) : Database :=
  ((RecordChange.performAll t changes).run (t.after ops db)).2

end StoreTables
end ProcessMigration
