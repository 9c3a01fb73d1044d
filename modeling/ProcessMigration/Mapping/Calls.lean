import ProcessMigration.Mapping.History

/-!
# Calls to the stores of a database

Stores of different prefixes can share a database. Each of them is called on its own, and the calls
come in any order; a transaction of one store is over before the next call is made.

* `StoreCall` is what a store can be asked or told, `StoreAnswer` what it answers;
* `StoreTables.answers` are the answers of one store among calls to several.
-/

namespace ProcessMigration

/-- A step of a transaction. -/
inductive TransactionStep where
  | «exists» (legacyId : String)
  | change (c : RecordChange)
  deriving DecidableEq, Repr

/-- What a store can be asked or told. -/
inductive StoreCall where
  | version
  | tableExists
  | «exists» (legacyId : String)
  | find (legacyId : String)
  | targetKey (legacyId : String)
  | latest (type : EntityType)
  | skipped (type : EntityType) (offset limit : Nat)
  | migrated (type : EntityType) (offset limit : Nat)
  | countSkipped (type : EntityType)
  | countMigrated (type : EntityType)
  | change (c : RecordChange)
  /-- Steps in one transaction, which is committed or dropped. -/
  | transaction (steps : List TransactionStep) (commit : Bool)
  | migrate
  | dropSchema
  /-- The store is opened, be it again or for the first time. -/
  | «open»
  deriving DecidableEq, Repr

/-- What a store answers. -/
inductive StoreAnswer where
  | done
  | truth (b : Bool)
  | version (n : Int)
  | count (n : Nat)
  | key (k : Option Int)
  | place (c : Option Cursor)
  | record (r : Option MappingRecord)
  | records (rs : List MappingRecord)
  /-- How each step of a transaction ended. -/
  | steps (outcomes : List (Except StoreError StoreAnswer))

namespace TransactionStep

/-- Carries out a step. -/
def perform (t : StoreTables) : TransactionStep → StoreAction StoreAnswer
  | «exists» legacyId => do return .truth (← Store.exists t legacyId)
  | change c => do
    c.perform t
    return .done

/-- Tries steps one after the other and tells how each of them ended. -/
def performAll (t : StoreTables) :
    List TransactionStep → StoreAction (List (Except StoreError StoreAnswer))
  | [] => return []
  | s :: rest => do
    let outcome ← (s.perform t).attempt
    let outcomes ← performAll t rest
    return outcome :: outcomes

end TransactionStep

/-- Carries out a call. -/
def StoreCall.perform (t : StoreTables) : StoreCall → StoreAction StoreAnswer
  | version => do return .version (← Store.version t)
  | tableExists => do return .truth (← Store.tableExists t)
  | «exists» legacyId => do return .truth (← Store.exists t legacyId)
  | find legacyId => do return .record (← Store.find? t legacyId)
  | targetKey legacyId => do return .key (← Store.targetKey? t legacyId)
  | latest type => do return .place (← Store.latest? t type)
  | skipped type offset limit => do return .records (← Store.skipped t type offset limit)
  | migrated type offset limit => do return .records (← Store.migrated t type offset limit)
  | countSkipped type => do return .count (← Store.countSkipped t type)
  | countMigrated type => do return .count (← Store.countMigrated t type)
  | change c => do
    c.perform t
    return .done
  | transaction steps commit => do
    return .steps (← Store.transaction commit (TransactionStep.performAll t steps))
  | migrate => do
    Store.migrate t
    return .done
  | dropSchema => do
    Store.dropSchema t
    return .done
  | «open» => do
    let _ ← Store.open t.tablePrefix
    return .done

/-- Calls to the stores of a database, in the order in which they are made. -/
abbrev StoreCalls := List (StoreTables × StoreCall)

namespace StoreCalls

/-- The database after calls, whether they succeed or fail. -/
def after (calls : StoreCalls) (db : Database) : Database :=
  calls.foldl (fun db e => ((e.2.perform e.1).run db).2) db

/-- The calls to one store. -/
def of (calls : StoreCalls) (t : StoreTables) : StoreCalls := calls.filter fun e => e.1 = t

end StoreCalls

/-- The answers that a store gives among calls to several. -/
def StoreTables.answers (t : StoreTables) :
    StoreCalls → Database → List (Except StoreError StoreAnswer)
  | [], _ => []
  | (other, c) :: rest, db =>
    let (answer, db) := (c.perform other).run db
    if other = t then answer :: t.answers rest db else t.answers rest db

end ProcessMigration
