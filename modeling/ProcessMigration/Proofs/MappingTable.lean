import Mathlib.Data.List.Nodup
import ProcessMigration.Mapping.Store
import ProcessMigration.Proofs.Interruption

/-!
# The rows of the mapping table

The mapping store works on one list of rows. `StoreTables.Holds` names that list, and the operations
of the store are specified by what they make of it.

* The questions leave the database as it is; `Store.exists_run` and `Store.targetKey?_run` give their
  answers, `Store.latest?_found` says where an answer of `latest?` comes from;
* `Store.insert_run` and `Store.update_run` give the outcome of a change for each list of rows: an
  accepted record is a new row at the end, with an id that no row had; an accepted update flips the
  skipped row of its id, and no other row changes; a refused change leaves the rows as they were;
* `Store.Kept` says how rows are kept, `Store.Maps` which key they give to an id: no change of the
  store takes a key away or gives it to another id;
* `Store.insertKey_triple`, `Store.insertSkipped_triple` and `Store.updateKey_triple` say the same of
  the keys that the store answers.
-/

namespace ProcessMigration

open ProcessMigration.Action (Triple ReadOnly)

/-! ## Content of a table -/

namespace Database

theorem rows_setContent {db : Database} {name : String} {rows : List Row}
    (h : db.rows name = .ok rows) (rows' : List Row) :
    (db.setContent name (.mapping rows')).rows name = .ok rows' := by
  have htable : ∃ t, db.table? name = some t := by
    unfold Database.rows at h
    cases ht : db.table? name with
    | none => rw [ht] at h; cases h
    | some t => exact ⟨t, rfl⟩
  obtain ⟨t, ht⟩ := htable
  unfold table? at ht
  have hname := List.find?_some ht
  -- no table changes its name, so the same table is found first
  have hfound : (db.setContent name (.mapping rows')).table? name =
      some { t with content := .mapping rows' } := by
    unfold table? setContent
    rw [List.find?_map]
    have hsame : ((fun t : Table => sameName t.name name) ∘ fun t =>
        if sameName t.name name then { t with content := .mapping rows' } else t) =
        fun t => sameName t.name name := by
      funext t
      show sameName (if sameName t.name name then _ else t).name name = _
      split <;> rfl
    rw [hsame, ht]
    simp [hname]
  unfold Database.rows
  rw [hfound]

end Database

/-- These are the rows of the mapping table. -/
def StoreTables.Holds (t : StoreTables) (rows : List Row) (db : Database) : Prop :=
  db.rows t.mapping = .ok rows

namespace Store

variable {α : Type} {t : StoreTables} {rows : List Row} {db : Database}

/-! ## Questions -/

theorem ask_readOnly (question : Database → Except DatabaseError α) : ReadOnly (ask question) :=
  fun _ => rfl

theorem row?_readOnly (legacyId : String) : ReadOnly (row? t legacyId) := ask_readOnly _

theorem exists_readOnly (legacyId : String) : ReadOnly (Store.exists t legacyId) :=
  ReadOnly.bind (row?_readOnly legacyId) fun _ => ReadOnly.pure _

theorem targetKey?_readOnly (legacyId : String) : ReadOnly (targetKey? t legacyId) :=
  ReadOnly.bind (row?_readOnly legacyId) fun _ => ReadOnly.pure _

theorem countSkipped_readOnly (type : EntityType) : ReadOnly (countSkipped t type) :=
  ask_readOnly _

theorem skipped_readOnly (type : EntityType) (offset limit : Nat) :
    ReadOnly (skipped t type offset limit) :=
  ReadOnly.bind (ask_readOnly _) fun _ => ReadOnly.ofExcept _

theorem latest?_readOnly (type : EntityType) : ReadOnly (latest? t type) := by
  refine ReadOnly.bind (ask_readOnly _) ?_
  intro rows
  split
  · exact ReadOnly.pure _
  · split
    · exact ReadOnly.pure _
    · exact ReadOnly.fail _

theorem rows_run (h : t.Holds rows db) :
    (ask fun db => db.rows t.mapping : StoreAction _).run db = (.ok rows, db) := by
  show ((db.rows t.mapping).mapError _, db) = _
  rw [show db.rows t.mapping = .ok rows from h]
  rfl

theorem row?_run (h : t.Holds rows db) (legacyId : String) :
    (row? t legacyId).run db = (.ok (rows.find? fun r => r.legacyId == legacyId), db) := by
  show ((((db.rows t.mapping).map _).mapError _ : Except StoreError _), db) = _
  rw [show db.rows t.mapping = .ok rows from h]
  rfl

theorem exists_run (h : t.Holds rows db) (legacyId : String) :
    (Store.exists t legacyId).run db =
      (.ok (rows.find? fun r => r.legacyId == legacyId).isSome, db) := by
  unfold Store.exists
  rw [Action.run_bind, row?_run h]
  rfl

theorem not_exists_of_run (h : t.Holds rows db) {legacyId : String}
    (hrun : ((Store.exists t legacyId).run db).1 = .ok false) :
    ¬∃ r ∈ rows, r.legacyId = legacyId := by
  rintro ⟨r, hr, hid⟩
  rw [exists_run h] at hrun
  have hnone := Option.isNone_iff_eq_none.1 (Option.isSome_eq_false_iff.1 (Except.ok.inj hrun))
  exact List.find?_eq_none.1 hnone r hr (beq_iff_eq.2 hid)

theorem targetKey?_run (h : t.Holds rows db) (legacyId : String) :
    (targetKey? t legacyId).run db =
      (.ok ((rows.find? fun r => r.legacyId == legacyId).bind (·.targetKey)), db) := by
  unfold targetKey?
  rw [Action.run_bind, row?_run h]
  rfl

/-- The place that a resumed listing starts behind is that of some row. -/
theorem latest?_found {type : EntityType} {c : Cursor} (h : t.Holds rows db)
    (hrun : ((latest? t type).run db).1 = .ok (some c)) :
    ∃ r ∈ rows, r.legacyId = c.legacyId ∧ Row.readDate r.startDate = .ok c.startTime := by
  unfold latest? at hrun
  rw [Action.run_bind, rows_run h] at hrun
  simp only at hrun
  cases hlast : (Row.sorted (rows.filter (Row.isOf type))).getLast? with
  | none =>
    rw [hlast] at hrun
    cases hrun
  | some r =>
    rw [hlast] at hrun
    have hmem : r ∈ rows := by
      have hsorted := List.mem_of_getLast? hlast
      exact (List.mem_filter.1 ((List.mergeSort_perm _ _).mem_iff.1 hsorted)).1
    cases hdate : Row.readDate r.startDate with
    | error e =>
      simp only [hdate] at hrun
      cases hrun
    | ok date =>
      simp only [hdate] at hrun
      cases hrun
      exact ⟨r, hmem, rfl, hdate⟩

/-- Before the first record a listing starts at the beginning. -/
theorem latest?_nil (h : t.Holds [] db) (type : EntityType) :
    (latest? t type).run db = (.ok none, db) := by
  unfold latest?
  rw [Action.run_bind, rows_run h]
  simp [Row.sorted]

/-! ## Changes -/

/-- A record with one outcome is a new row at the end, or its id has a row already. -/
theorem insert_run {t : StoreTables} {rows : List Row} {db : Database} (h : t.Holds rows db)
    (record : MappingRecord) :
    (insert t record).run db =
      if (Row.ofRecord record).hasOneOutcome = true then
        if ∃ r ∈ rows, r.legacyId = record.legacyId then
          (.error (.duplicateKey record.legacyId), db)
        else (.ok (), db.setContent t.mapping (.mapping (rows ++ [.ofRecord record])))
      else (.error (.database .outcomeCheck), db) := by
  have hrows : db.rows t.mapping = .ok rows := h
  have hany : (rows.any fun r => r.legacyId == (Row.ofRecord record).legacyId) = true ↔
      ∃ r ∈ rows, r.legacyId = record.legacyId := by
    rw [List.any_eq_true]
    simp only [beq_iff_eq]
    rfl
  unfold Action.run insert Database.insertRow
  simp only [hrows]
  by_cases hone : (Row.ofRecord record).hasOneOutcome = true
  · by_cases hdup : ∃ r ∈ rows, r.legacyId = record.legacyId
    · simp only [hone, hany.2 hdup, hdup, Bool.not_true, Bool.false_eq_true, if_false, if_true]
    · simp only [hone, mt hany.1 hdup, hdup, Bool.not_true, Bool.false_eq_true, if_false, if_true]
  · simp only [hone, Bool.not_false, if_true, if_false, Bool.false_eq_true]

/-- A record with one outcome and a new id is a new row at the end. -/
theorem insert_new {t : StoreTables} {rows : List Row} {db : Database} (h : t.Holds rows db)
    {record : MappingRecord} (hone : (Row.ofRecord record).hasOneOutcome = true)
    (hnew : ¬∃ r ∈ rows, r.legacyId = record.legacyId) :
    (insert t record).run db =
      (.ok (), db.setContent t.mapping (.mapping (rows ++ [.ofRecord record]))) := by
  rw [insert_run h, if_pos hone, if_neg hnew]

/-- An accepted record is a new row with a new id. -/
theorem insert_triple (t : StoreTables) (rows : List Row) (record : MappingRecord) :
    Triple (t.Holds rows) (insert t record)
      (fun _ db => t.Holds (rows ++ [.ofRecord record]) db ∧
        ∀ r ∈ rows, r.legacyId ≠ record.legacyId)
      (t.Holds rows) := by
  intro db hdb
  rw [insert_run hdb]
  by_cases hone : (Row.ofRecord record).hasOneOutcome = true
  · rw [if_pos hone]
    by_cases hdup : ∃ r ∈ rows, r.legacyId = record.legacyId
    · rw [if_pos hdup]
      exact hdb
    · rw [if_neg hdup]
      exact ⟨Database.rows_setContent hdb _, fun r hr heq => hdup ⟨r, hr, heq⟩⟩
  · rw [if_neg hone]
    exact hdb

/-- The first record of a store is accepted. -/
theorem insert_nil (t : StoreTables) (id : String) (key : Int) (startTime : Option Instant) :
    Triple (t.Holds []) (insert t (.migrated id key startTime))
      (fun _ db => t.Holds [.ofRecord (.migrated id key startTime)] db) (fun _ => False) := by
  intro db hdb
  rw [insert_new hdb rfl (by simp)]
  exact Database.rows_setContent hdb _

/-- An id has a skipped row. -/
def flips (legacyId : String) (r : Row) : Bool := r.legacyId == legacyId && r.isSkipped

/-- The rows after an update. -/
def flippedRows (legacyId : String) (targetKey : Int) (rows : List Row) : List Row :=
  rows.map fun r => if flips legacyId r then flipped targetKey r else r

theorem flips_iff {legacyId : String} {r : Row} :
    flips legacyId r = true ↔ r.legacyId = legacyId ∧ r.isSkipped = true := by
  unfold flips
  rw [Bool.and_eq_true, beq_iff_eq]

/-- An id that no row is about flips nothing. -/
theorem flippedRows_of_absent {legacyId : String} {rows : List Row}
    (h : ∀ r ∈ rows, r.legacyId ≠ legacyId) (targetKey : Int) :
    flippedRows legacyId targetKey rows = rows := by
  refine (List.map_congr_left ?_).trans (List.map_id rows)
  intro r hr
  exact if_neg fun hflips => h r hr (flips_iff.1 hflips).1

/-- A row that is flipped is still about the same id. -/
theorem legacyIds_flippedRows (legacyId : String) (targetKey : Int) (rows : List Row) :
    (flippedRows legacyId targetKey rows).map (·.legacyId) = rows.map (·.legacyId) := by
  unfold flippedRows
  rw [List.map_map]
  apply List.map_congr_left
  intro r _
  show (if flips legacyId r then flipped targetKey r else r).legacyId = _
  split <;> rfl

/-- An update flips the skipped row of its id, or it is refused. -/
theorem update_run {t : StoreTables} {rows : List Row} {db : Database} (h : t.Holds rows db)
    (legacyId : String) (targetKey : Int) :
    (update t legacyId targetKey).run db =
      if ∃ r ∈ rows, r.legacyId = legacyId ∧ r.isSkipped = true then
        (.ok (), db.setContent t.mapping (.mapping (flippedRows legacyId targetKey rows)))
      else (.error (.notSkipped legacyId), db) := by
  have hrows : db.rows t.mapping = .ok rows := h
  have hany : rows.any (flips legacyId) = true ↔
      ∃ r ∈ rows, r.legacyId = legacyId ∧ r.isSkipped = true := by
    rw [List.any_eq_true]
    simp only [flips_iff]
  unfold Action.run update
  simp only [hrows]
  by_cases hfound : ∃ r ∈ rows, r.legacyId = legacyId ∧ r.isSkipped = true
  · have hflips := hany.2 hfound
    unfold flips at hflips
    simp only [hflips, hfound, if_true]
    rfl
  · have hflips := mt hany.1 hfound
    unfold flips at hflips
    simp only [hflips, hfound, Bool.false_eq_true, if_false]

/-- An accepted update found a skipped row of its id and flips it. -/
theorem update_triple (t : StoreTables) (rows : List Row) (legacyId : String) (targetKey : Int) :
    Triple (t.Holds rows) (update t legacyId targetKey)
      (fun _ db => t.Holds (flippedRows legacyId targetKey rows) db ∧
        ∃ r ∈ rows, r.legacyId = legacyId ∧ r.isSkipped)
      (t.Holds rows) := by
  intro db hdb
  rw [update_run hdb]
  by_cases hfound : ∃ r ∈ rows, r.legacyId = legacyId ∧ r.isSkipped = true
  · rw [if_pos hfound]
    exact ⟨Database.rows_setContent hdb _, hfound⟩
  · rw [if_neg hfound]
    exact hdb

/-! ## Keys of ids -/

/-- The rows give this key to this id. -/
def Maps (rows : List Row) (legacyId : String) (key : Int) : Prop :=
  ∃ r ∈ rows, r.legacyId = legacyId ∧ r.targetKey = some key

/-- Rows as the store keeps them: one for each id, and a row with a key is not skipped. -/
structure Kept (rows : List Row) : Prop where
  ids : (rows.map (·.legacyId)).Nodup
  outcome : ∀ r ∈ rows, r.targetKey.isSome = true → r.isSkipped = false

theorem kept_nil : Kept [] := ⟨.nil, fun _ h => by cases h⟩

namespace Kept

variable {id id' : String} {key key' : Int}

theorem eq_of_legacyId (h : Kept rows) {r r' : Row} (hr : r ∈ rows) (hr' : r' ∈ rows)
    (hid : r.legacyId = r'.legacyId) : r = r' :=
  List.inj_on_of_nodup_map h.ids hr hr' hid

/-- An id has one key at most. -/
theorem key_unique (h : Kept rows) (hmaps : Maps rows id key) (hmaps' : Maps rows id key') :
    key = key' := by
  obtain ⟨r, hr, hid, hkey⟩ := hmaps
  obtain ⟨r', hr', hid', hkey'⟩ := hmaps'
  have hsame := h.eq_of_legacyId hr hr' (hid.trans hid'.symm)
  subst hsame
  rw [hkey] at hkey'
  exact Option.some.inj hkey'

/-- The store answers with the key that the rows give. -/
theorem targetKey?_iff (h : Kept rows) (hdb : t.Holds rows db) :
    ((targetKey? t id).run db).1 = .ok (some key) ↔ Maps rows id key := by
  rw [targetKey?_run hdb]
  constructor
  · intro hfound
    obtain ⟨r, hr, hkey⟩ := Option.bind_eq_some_iff.1 (Except.ok.inj hfound)
    have hid := List.find?_some hr
    exact ⟨r, List.mem_of_find?_eq_some hr, by simpa using hid, hkey⟩
  · rintro ⟨r, hr, hid, hkey⟩
    have hfind : rows.find? (fun r => r.legacyId == id) = some r := by
      cases hfind : rows.find? (fun r => r.legacyId == id) with
      | none => exact absurd hid (by simpa using List.find?_eq_none.1 hfind r hr)
      | some r' =>
        have hid' : r'.legacyId = id := by simpa using List.find?_some hfind
        rw [h.eq_of_legacyId (List.mem_of_find?_eq_some hfind) hr (hid'.trans hid.symm)]
    show Except.ok _ = _
    rw [hfind]
    exact congrArg Except.ok hkey

theorem append (h : Kept rows) {record : MappingRecord}
    (hnew : ∀ r ∈ rows, r.legacyId ≠ record.legacyId)
    (hone : record.targetKey.isSome = true → record.skipReason = none) :
    Kept (rows ++ [.ofRecord record]) where
  ids := by
    rw [List.map_append]
    refine List.nodup_append.2 ⟨h.ids, by simp, ?_⟩
    intro id hid id' hid' heq
    obtain ⟨r, hr, rfl⟩ := List.mem_map.1 hid
    exact hnew r hr (heq.trans (List.mem_singleton.1 hid'))
  outcome r hr hkey := by
    rcases List.mem_append.1 hr with hr | hr
    · exact h.outcome r hr hkey
    · rw [List.mem_singleton.1 hr] at hkey ⊢
      unfold Row.isSkipped Row.ofRecord
      rw [hone hkey]
      rfl

theorem flippedRows (h : Kept rows) (id : String) (key : Int) :
    Kept (Store.flippedRows id key rows) where
  ids := by
    rw [legacyIds_flippedRows]
    exact h.ids
  outcome r hr hkey := by
    obtain ⟨r', hr', rfl⟩ := List.mem_map.1 hr
    by_cases hflips : flips id r'
    · rw [if_pos hflips]
      rfl
    · rw [if_neg hflips] at hkey ⊢
      exact h.outcome r' hr' hkey

end Kept

namespace Maps

variable {id id' : String} {key key' : Int}

theorem append (h : Maps rows id key) (r : Row) : Maps (rows ++ [r]) id key := by
  obtain ⟨r', hr', hid, hkey⟩ := h
  exact ⟨r', List.mem_append_left _ hr', hid, hkey⟩

theorem of_append {r : Row} (h : Maps (rows ++ [r]) id key) :
    Maps rows id key ∨ (r.legacyId = id ∧ r.targetKey = some key) := by
  obtain ⟨r', hr', hid, hkey⟩ := h
  rcases List.mem_append.1 hr' with hr' | hr'
  · exact .inl ⟨r', hr', hid, hkey⟩
  · rw [List.mem_singleton.1 hr'] at hid hkey
    exact .inr ⟨hid, hkey⟩

/-- A row with a key is not skipped, so no flip touches it. -/
theorem flippedRows (h : Maps rows id key) (hkept : Kept rows) (id' : String) (key' : Int) :
    Maps (Store.flippedRows id' key' rows) id key := by
  obtain ⟨r, hr, hid, hkey⟩ := h
  refine ⟨r, ?_, hid, hkey⟩
  have hskipped := hkept.outcome r hr (by rw [hkey]; rfl)
  refine List.mem_map.2 ⟨r, hr, if_neg ?_⟩
  intro hflips
  rw [(flips_iff.1 hflips).2] at hskipped
  cases hskipped

theorem of_flippedRows (h : Maps (Store.flippedRows id' key' rows) id key) :
    Maps rows id key ∨ (id = id' ∧ key = key') := by
  obtain ⟨r, hr, hid, hkey⟩ := h
  obtain ⟨r', hr', rfl⟩ := List.mem_map.1 hr
  by_cases hflips : flips id' r'
  · rw [if_pos hflips] at hid hkey
    exact .inr ⟨hid.symm.trans (flips_iff.1 hflips).1, (Option.some.inj hkey).symm⟩
  · rw [if_neg hflips] at hid hkey
    exact .inl ⟨r', hr', hid, hkey⟩

/-- A flipped row gives its id the key. -/
theorem of_flips (h : ∃ r ∈ rows, r.legacyId = id ∧ r.isSkipped = true) (key : Int) :
    Maps (Store.flippedRows id key rows) id key := by
  obtain ⟨r, hr, hid, hskipped⟩ := h
  exact ⟨flipped key r, List.mem_map.2 ⟨r, hr, if_pos (flips_iff.2 ⟨hid, hskipped⟩)⟩, hid, rfl⟩

end Maps

end Store

/-! ## Keys in a database -/

namespace StoreTables

/-- The mapping store answers this key for this id. -/
def MapsTo (t : StoreTables) (db : Database) (id : String) (key : Int) : Prop :=
  ((Store.targetKey? t id).run db).1 = .ok (some key)

/-- The rows are as the store keeps them. -/
def IsKept (t : StoreTables) (db : Database) : Prop := ∃ rows, t.Holds rows db ∧ Store.Kept rows

/-- Two databases give the same keys. -/
def MapsAlike (t : StoreTables) (db db' : Database) : Prop :=
  ∀ id key, t.MapsTo db' id key ↔ t.MapsTo db id key

/-- A database gives the same keys as another one, and one key more. -/
def Gains (t : StoreTables) (db db' : Database) (id : String) (key : Int) : Prop :=
  ∀ id' key', t.MapsTo db' id' key' ↔ t.MapsTo db id' key' ∨ (id' = id ∧ key' = key)

variable {t : StoreTables} {db : Database} {id : String} {key : Int}

theorem IsKept.key_unique (h : t.IsKept db) {key' : Int} (hmaps : t.MapsTo db id key)
    (hmaps' : t.MapsTo db id key') : key = key' := by
  obtain ⟨rows, hrows, hkept⟩ := h
  exact hkept.key_unique ((hkept.targetKey?_iff hrows).1 hmaps) ((hkept.targetKey?_iff hrows).1 hmaps')

end StoreTables

namespace Store

variable {t : StoreTables} {db₀ : Database} {id : String} {key : Int}

/-- A refused change leaves the keys as they were. -/
theorem mapsAlike_of_holds {rows : List Row} (hkept : Kept rows) (h₀ : t.Holds rows db₀)
    {db : Database} (h : t.Holds rows db) : t.MapsAlike db₀ db := by
  intro _ _
  exact (hkept.targetKey?_iff h).trans (hkept.targetKey?_iff h₀).symm

/-- The record of a started instance gives its id the key. -/
theorem insertKey_triple (h : t.IsKept db₀) (id : String) (key : Int) (startTime : Option Instant) :
    Triple (fun db => db = db₀) (insert t (.migrated id key startTime))
      (fun _ db => t.IsKept db ∧ t.Gains db₀ db id key)
      (fun db => t.IsKept db ∧ t.MapsAlike db₀ db) := by
  obtain ⟨rows, hrows, hkept⟩ := h
  refine (insert_triple t rows _).conseq (fun _ h => h ▸ hrows) ?_ ?_
  · intro _ db ⟨hdb, hnew⟩
    have hkept' := hkept.append hnew fun _ => rfl
    refine ⟨⟨_, hdb, hkept'⟩, ?_⟩
    intro id' key'
    refine ((hkept'.targetKey?_iff hdb).trans ?_).trans
      (or_congr_left (hkept.targetKey?_iff hrows).symm)
    constructor
    · intro hmaps
      refine hmaps.of_append.imp_right ?_
      rintro ⟨rfl, hkey⟩
      cases hkey
      exact ⟨rfl, rfl⟩
    · rintro (hmaps | ⟨rfl, rfl⟩)
      · exact hmaps.append _
      · exact ⟨_, List.mem_append_right _ List.mem_cons_self, rfl, rfl⟩
  · intro db hdb
    exact ⟨⟨rows, hdb, hkept⟩, mapsAlike_of_holds hkept hrows hdb⟩

/-- The record of a skipped instance gives no key. -/
theorem insertSkipped_triple (h : t.IsKept db₀) (id : String) (startTime : Option Instant)
    (reason : String) :
    Triple (fun db => db = db₀) (insert t (.skipped id startTime reason))
      (fun _ db => t.IsKept db ∧ t.MapsAlike db₀ db)
      (fun db => t.IsKept db ∧ t.MapsAlike db₀ db) := by
  obtain ⟨rows, hrows, hkept⟩ := h
  refine (insert_triple t rows _).conseq (fun _ h => h ▸ hrows) ?_ ?_
  · intro _ db ⟨hdb, hnew⟩
    have hkept' := hkept.append hnew fun h => by cases h
    refine ⟨⟨_, hdb, hkept'⟩, ?_⟩
    intro id' key'
    refine ((hkept'.targetKey?_iff hdb).trans ?_).trans (hkept.targetKey?_iff hrows).symm
    constructor
    · intro hmaps
      rcases hmaps.of_append with hmaps | ⟨_, hkey⟩
      · exact hmaps
      · cases hkey
    · intro hmaps
      exact hmaps.append _
  · intro db hdb
    exact ⟨⟨rows, hdb, hkept⟩, mapsAlike_of_holds hkept hrows hdb⟩

/-- An accepted update gives the id of the skipped row the key. -/
theorem updateKey_triple (h : t.IsKept db₀) (id : String) (key : Int) :
    Triple (fun db => db = db₀) (update t id key)
      (fun _ db => t.IsKept db ∧ t.Gains db₀ db id key)
      (fun db => t.IsKept db ∧ t.MapsAlike db₀ db) := by
  obtain ⟨rows, hrows, hkept⟩ := h
  refine (update_triple t rows id key).conseq (fun _ h => h ▸ hrows) ?_ ?_
  · intro _ db ⟨hdb, hflips⟩
    have hkept' := hkept.flippedRows id key
    refine ⟨⟨_, hdb, hkept'⟩, ?_⟩
    intro id' key'
    refine ((hkept'.targetKey?_iff hdb).trans ?_).trans
      (or_congr_left (hkept.targetKey?_iff hrows).symm)
    constructor
    · intro hmaps
      exact hmaps.of_flippedRows
    · rintro (hmaps | ⟨rfl, rfl⟩)
      · exact hmaps.flippedRows hkept _ _
      · exact Maps.of_flips hflips _
  · intro db hdb
    exact ⟨⟨rows, hdb, hkept⟩, mapsAlike_of_holds hkept hrows hdb⟩

end Store
end ProcessMigration
