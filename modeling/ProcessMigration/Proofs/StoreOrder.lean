import Mathlib.Data.List.Perm.Basic
import ProcessMigration.Proofs.ByteOrder
import ProcessMigration.Proofs.ReadBack

/-!
# The order of a store

The tables hold dates as texts and are sorted by these texts. Where all years have four digits this
is the order of time, and where several records have one date, that of the bytes of their ids.

* `StoreTables.visible_written`: whatever is done to a store, its rows are those of records;
* `Store.cut_eq_slice`: how a page is cut out of a listing;
* `Store.page_listsInOrder`: the pages of a kind of records are the slices of one listing in order
  of time, and one after the other they are the whole of it;
* `Store.latest?_greatest`: the place of the last record is the greatest;
* `StoreTables.order_is_time_order` is the sum of it for all states that a store can reach.
-/

namespace ProcessMigration

open ProcessMigration.Action (Triple)

variable {t : StoreTables} {rows : List Row} {db : Database} {records : List MappingRecord}

/-! ## Rows of records -/

/-- Every row is that of a record. -/
def Store.Written (rows : List Row) : Prop := ∀ r ∈ rows, ∃ record, r = Row.ofRecord record

namespace Store.Written

theorem exists_records (h : Written rows) :
    ∃ records : List MappingRecord, rows = records.map Row.ofRecord := by
  induction rows with
  | nil => exact ⟨[], rfl⟩
  | cons r rest ih =>
    obtain ⟨record, rfl⟩ := h r List.mem_cons_self
    obtain ⟨records, rfl⟩ := ih fun r' hr' => h r' (List.mem_cons_of_mem _ hr')
    exact ⟨record :: records, rfl⟩

theorem append (h : Written rows) (record : MappingRecord) :
    Written (rows ++ [.ofRecord record]) := by
  intro r hr
  rcases List.mem_append.1 hr with hold | hnew
  · exact h r hold
  · exact ⟨record, List.mem_singleton.1 hnew⟩

theorem flippedRows (h : Written rows) (legacyId : String) (key : Int) :
    Written (Store.flippedRows legacyId key rows) := by
  intro r hr
  obtain ⟨r', hr', rfl⟩ := List.mem_map.1 hr
  obtain ⟨record, rfl⟩ := h r' hr'
  split
  · exact ⟨{ record with targetKey := some key, skipReason := none }, rfl⟩
  · exact ⟨record, rfl⟩

end Store.Written

/-- The rows of the table are those of records. -/
def StoreTables.HoldsWritten (t : StoreTables) (db : Database) : Prop :=
  ∃ rows, t.Holds rows db ∧ Store.Written rows

theorem RecordChange.perform_written (c : RecordChange) (h : t.HoldsWritten db) :
    t.HoldsWritten ((c.perform t).run db).2 := by
  obtain ⟨rows, hrows, hwritten⟩ := h
  cases c with
  | insert record =>
    unfold perform
    rw [Store.insert_run hrows]
    split
    · split
      · exact ⟨rows, hrows, hwritten⟩
      · exact ⟨_, Database.rows_setContent hrows _, hwritten.append record⟩
    · exact ⟨rows, hrows, hwritten⟩
  | update legacyId key =>
    unfold perform
    rw [Store.update_run hrows]
    split
    · exact ⟨_, Database.rows_setContent hrows _, hwritten.flippedRows legacyId key⟩
    · exact ⟨rows, hrows, hwritten⟩

theorem RecordChange.performAll_written (changes : List RecordChange) (h : t.HoldsWritten db) :
    t.HoldsWritten ((performAll t changes).run db).2 := by
  rw [performAll_state]
  induction changes generalizing db with
  | nil => exact h
  | cons c rest ih => exact ih (c.perform_written h)

/-- The step lemma: a call leaves rows of records. -/
theorem StoreOperation.perform_written (op : StoreOperation) (h : t.HoldsWritten db) :
    t.HoldsWritten ((op.perform t).run db).2 := by
  cases op with
  | change c => exact c.perform_written h
  | transaction changes commit =>
    rw [run_transaction]
    by_cases hcommit : commit
    · rw [if_pos hcommit]
      exact RecordChange.performAll_written changes h
    · rw [if_neg hcommit]
      exact h
  | migrate =>
    obtain ⟨rows, hrows, hwritten⟩ := h
    exact ⟨rows, (Store.migrate_keeps t t rows).state hrows, hwritten⟩
  | reopen =>
    obtain ⟨rows, hrows, hwritten⟩ := h
    have htriple : Triple (t.Holds rows) (perform t .reopen) (fun _ => t.Holds rows)
        (t.Holds rows) :=
      Triple.bind (Store.open_keeps t t rows) fun _ => Triple.pure fun _ h => h
    exact ⟨rows, htriple.state hrows, hwritten⟩

/-- The run lemma: whatever is done to a store, its rows are those of records. -/
theorem StoreTables.visible_written (ops : List StoreOperation) (changes : List RecordChange)
    (h : t.HoldsWritten db) : t.HoldsWritten (t.visible ops changes db) := by
  refine RecordChange.performAll_written changes ?_
  unfold after
  induction ops generalizing db with
  | nil => exact h
  | cons op rest ih => exact ih (op.perform_written h)

/-! ## The order of records -/

/-- One record is before another in time: by start date, a missing one before all others, and on the
same date by the bytes of the id. -/
def MappingRecord.Precedes (a b : MappingRecord) : Prop :=
  Instant.before a.startDate b.startDate = true ∨
    (a.startDate = b.startDate ∧ Text.bytes a.legacyId < Text.bytes b.legacyId)

namespace MappingRecord

instance : DecidableRel Precedes := fun _ _ => inferInstanceAs (Decidable (_ ∨ _))

theorem precedes_iff {a b : MappingRecord} : a.Precedes b ↔ a.cursor.lt b.cursor = true := by
  rw [Cursor.lt_iff, Text.lt_iff_bytes_lt]
  rfl

theorem Precedes.asymm {a b : MappingRecord} (h : a.Precedes b) : ¬b.Precedes a := by
  rw [precedes_iff] at *
  intro h'
  exact Cursor.lt_irrefl _ (Cursor.lt_trans h h')

end MappingRecord

namespace Store

theorem isDated_of_dated (h : ∀ r ∈ records, Instant.Dated r.startDate) :
    ∀ row ∈ records.map Row.ofRecord, row.IsDated := by
  intro row hrow
  obtain ⟨record, hrecord, rfl⟩ := List.mem_map.1 hrow
  exact ⟨record, rfl, h record hrecord⟩

theorem readAs_ofRecord (h : ∀ r ∈ records, Instant.Dated r.startDate) :
    ReadAs (records.map Row.ofRecord) (records.map MappingRecord.cut) := by
  rw [ReadAs, List.forall₂_map_left_iff, List.forall₂_map_right_iff, List.forall₂_same]
  intro record hrecord
  exact Row.read_ofRecord (h record hrecord)

/-- The sorted rows of records are read as a listing of them in order of time. -/
theorem exists_listing (hids : ((records.map Row.ofRecord).map (·.legacyId)).Nodup)
    (hdated : ∀ r ∈ records, Instant.Dated r.startDate) :
    ∃ listing, ReadAs (Row.sorted (records.map Row.ofRecord)) listing ∧
      listing.Perm (records.map MappingRecord.cut) ∧
      listing.Pairwise MappingRecord.Precedes := by
  -- sorting the rows and reading them are done to the records in the opposite order
  obtain ⟨listing, hread, hperm⟩ :=
    List.perm_comp_forall₂ (Row.sorted_perm (records.map Row.ofRecord)) (readAs_ofRecord hdated)
  have hrows : ∀ r ∈ Row.sorted (records.map Row.ofRecord), r.IsDated :=
    fun r hr => isDated_of_dated hdated r (Row.mem_sorted.1 hr)
  have hascending := ReadAs.ascending hread hrows (Row.sorted_ascending hids)
  exact ⟨listing, hread, hperm, hascending.imp MappingRecord.precedes_iff.2⟩

/-! ## Pages -/

/-- A page is the slice of the listing from the offset on. A limit beyond the signed numbers counts
as none, which makes no difference as long as the listing has no more items than there are such
numbers. -/
theorem cut_eq_slice {α : Type} {offset limit : Nat} {xs : List α} (hoffset : offset < 2 ^ 63)
    (hlimit : limit < 2 ^ 64) (hroom : limit < 2 ^ 63 ∨ xs.length ≤ 2 ^ 63) :
    cut offset limit xs = (xs.drop offset).take limit := by
  by_cases hsmall : limit < 2 ^ 63
  · exact cut_of_lt hoffset hsmall xs
  · rw [cut_of_le hoffset (by omega) hlimit, List.take_of_length_le]
    rw [List.length_drop]
    omega

/-- Reads a page at the offset and further ones of these sizes, each where the one before ends. -/
def readPages (page : Nat → Nat → StoreAction (List MappingRecord)) :
    Nat → List Nat → StoreAction (List MappingRecord)
  | _, [] => return []
  | offset, size :: rest => do
    let found ← page offset size
    let others ← readPages page (offset + size) rest
    return found ++ others

/-- The pages of some records are the slices of a listing of them in order of time, their start
dates cut to microseconds. -/
structure ListsInOrder (db : Database) (query : Nat → Nat → StoreAction (List MappingRecord))
    (total : StoreAction Nat) (records listing : List MappingRecord) : Prop where
  /-- Each record is listed once. -/
  lists : listing.Perm (records.map MappingRecord.cut)
  ascending : listing.Pairwise MappingRecord.Precedes
  count : total.run db = (.ok listing.length, db)
  page : ∀ offset limit, offset < 2 ^ 63 → limit < 2 ^ 64 →
    (limit < 2 ^ 63 ∨ listing.length ≤ 2 ^ 63) →
    (query offset limit).run db = (.ok ((listing.drop offset).take limit), db)
  /-- Consecutive pages of whatever sizes go through the listing from the beginning on. -/
  pages : ∀ sizes : List Nat, (∀ size ∈ sizes, size < 2 ^ 64) →
    ((∀ size ∈ sizes, size < 2 ^ 63) ∨ listing.length ≤ 2 ^ 63) →
    (∀ earlier size later, sizes = earlier ++ size :: later → earlier.sum < 2 ^ 63) →
    (readPages query 0 sizes).run db = (.ok (listing.take sizes.sum), db)
  /-- As many pages of one size as there can be are the whole listing. -/
  whole : ∀ size, 1 ≤ size → size < 2 ^ 64 → listing.length ≤ 2 ^ 63 →
    (readPages query 0 (List.replicate ((listing.length + size - 1) / size) size)).run db =
      (.ok listing, db)

/-- There is one way to list records in order of time. -/
theorem ListsInOrder.unique {query : Nat → Nat → StoreAction (List MappingRecord)}
    {total : StoreAction Nat} {listing others : List MappingRecord}
    (h : ListsInOrder db query total records listing)
    (hothers : others.Perm (records.map MappingRecord.cut))
    (hascending : others.Pairwise MappingRecord.Precedes) : listing = others := by
  refine List.Perm.eq_of_pairwise ?_ h.ascending hascending (h.lists.trans hothers.symm)
  intro a b _ _ hab hba
  exact absurd hba hab.asymm

theorem readPages_run {page : Nat → Nat → StoreAction (List MappingRecord)}
    {listing : List MappingRecord}
    (hpage : ∀ offset limit, offset < 2 ^ 63 → limit < 2 ^ 64 →
      (limit < 2 ^ 63 ∨ listing.length ≤ 2 ^ 63) →
      (page offset limit).run db = (.ok ((listing.drop offset).take limit), db))
    (sizes : List Nat) (hsizes : ∀ size ∈ sizes, size < 2 ^ 64)
    (hroom : (∀ size ∈ sizes, size < 2 ^ 63) ∨ listing.length ≤ 2 ^ 63) (offset : Nat)
    (hstarts : ∀ earlier size later, sizes = earlier ++ size :: later →
      offset + earlier.sum < 2 ^ 63) :
    (readPages page offset sizes).run db = (.ok ((listing.drop offset).take sizes.sum), db) := by
  induction sizes generalizing offset with
  | nil => rfl
  | cons size rest ih =>
    have hfirst := hpage offset size (hstarts [] size rest rfl) (hsizes size List.mem_cons_self)
      (hroom.imp_left fun h => h size List.mem_cons_self)
    have hrest := ih (fun n hn => hsizes n (List.mem_cons_of_mem size hn))
      (hroom.imp_left fun h n hn => h n (List.mem_cons_of_mem size hn)) (offset + size) (by
        intro earlier n later hsplit
        have hstart := hstarts (size :: earlier) n later (by rw [hsplit, List.cons_append])
        rw [List.sum_cons] at hstart
        omega)
    unfold readPages
    rw [Action.run_bind_ok hfirst, Action.run_bind_ok hrest, List.sum_cons, List.take_add,
      List.drop_drop]
    rfl

/-- As many pages of a size as there can be: they reach the end, and none starts there. -/
theorem pages_of_size (length : Nat) {size : Nat} (hpos : 1 ≤ size) :
    length ≤ (length + size - 1) / size * size ∧
      ∀ earlier, earlier < (length + size - 1) / size → earlier * size < length := by
  constructor
  · have hdiv := Nat.div_add_mod (length + size - 1) size
    have hmod := Nat.mod_lt (length + size - 1) hpos
    rw [Nat.mul_comm] at hdiv
    omega
  · intro earlier hlt
    have hmul := (Nat.le_div_iff_mul_le hpos).1 (Nat.succ_le_of_lt hlt)
    rw [Nat.succ_mul] at hmul
    omega

/-- As many pages of a size as there can be are the whole listing. -/
theorem readPages_whole {page : Nat → Nat → StoreAction (List MappingRecord)}
    {listing : List MappingRecord}
    (hpage : ∀ offset limit, offset < 2 ^ 63 → limit < 2 ^ 64 →
      (limit < 2 ^ 63 ∨ listing.length ≤ 2 ^ 63) →
      (page offset limit).run db = (.ok ((listing.drop offset).take limit), db))
    {size : Nat} (hpos : 1 ≤ size) (hsize : size < 2 ^ 64) (hroom : listing.length ≤ 2 ^ 63) :
    (readPages page 0 (List.replicate ((listing.length + size - 1) / size) size)).run db =
      (.ok listing, db) := by
  obtain ⟨hend, hstart⟩ := pages_of_size listing.length hpos
  have hsizes : ∀ n ∈ List.replicate ((listing.length + size - 1) / size) size, n < 2 ^ 64 :=
    fun n hn => (List.mem_replicate.1 hn).2 ▸ hsize
  have hstarts : ∀ earlier n later,
      List.replicate ((listing.length + size - 1) / size) size = earlier ++ n :: later →
        0 + earlier.sum < 2 ^ 63 := by
    intro earlier n later hsplit
    obtain ⟨hlength, hearlier, -⟩ := List.replicate_eq_append_iff.1 hsplit
    rw [List.length_cons] at hlength
    rw [hearlier, List.sum_replicate_nat, Nat.zero_add]
    exact Nat.lt_of_lt_of_le (hstart earlier.length (by omega)) hroom
  rw [readPages_run hpage _ hsizes (.inr hroom) 0 hstarts, List.sum_replicate_nat, List.drop_zero,
    List.take_of_length_le hend]

/-- The pages of the rows of a kind are the slices of one listing in order of time. -/
theorem page_listsInOrder (h : t.Holds (records.map Row.ofRecord) db)
    (hids : ((records.map Row.ofRecord).map (·.legacyId)).Nodup)
    (hdated : ∀ r ∈ records, Instant.Dated r.startDate) (keep : Row → Bool) :
    ∃ listing, ListsInOrder db (page t .processInstance keep) (count t .processInstance keep)
      (records.filter fun r => keep (.ofRecord r)) listing := by
  have hkept : ((records.map Row.ofRecord).filter fun r => r.isOf .processInstance && keep r) =
      (records.filter fun r => keep (.ofRecord r)).map Row.ofRecord := by
    rw [List.filter_map]
    refine congrArg _ (List.filter_congr ?_)
    intro r _
    show (Row.isOf .processInstance (.ofRecord r) && keep (.ofRecord r)) = keep (.ofRecord r)
    rw [Row.isOf_ofRecord, Bool.true_and]
  have hdatedKept : ∀ r ∈ records.filter fun r => keep (.ofRecord r), Instant.Dated r.startDate :=
    fun r hr => hdated r (List.mem_filter.1 hr).1
  generalize (records.filter fun r => keep (.ofRecord r)) = kept at hkept hdatedKept
  have hidsKept : ((kept.map Row.ofRecord).map (·.legacyId)).Nodup := by
    rw [← hkept]
    exact hids.sublist (List.filter_sublist.map _)
  obtain ⟨listing, hread, hperm, hascending⟩ := exists_listing hidsKept hdatedKept
  have hlength : (Row.sorted (kept.map Row.ofRecord)).length = listing.length := hread.length_eq
  have hpage : ∀ offset limit, offset < 2 ^ 63 → limit < 2 ^ 64 →
      (limit < 2 ^ 63 ∨ listing.length ≤ 2 ^ 63) →
      (page t .processInstance keep offset limit).run db =
        (.ok ((listing.drop offset).take limit), db) := by
    intro offset limit hoffset hlimit hroom
    rw [page_run h, hkept, cut_eq_slice hoffset hlimit (hlength ▸ hroom)]
    rw [readAs_iff.2 (List.forall₂_take _ (List.forall₂_drop _ hread))]
  refine ⟨listing, hperm, hascending, ?count, hpage, ?pages, ?whole⟩
  case count =>
    rw [count_run h, List.countP_eq_length_filter, hkept, ← hlength, (Row.sorted_perm _).length_eq]
  case pages =>
    intro sizes hsizes hroom hstarts
    refine readPages_run hpage sizes hsizes hroom 0 ?_
    intro earlier size later hsplit
    rw [Nat.zero_add]
    exact hstarts earlier size later hsplit
  case whole => exact fun size hpos hsize hroom => readPages_whole hpage hpos hsize hroom

/-! ## The last record -/

/-- The place of the last record is that of the greatest one. -/
theorem latest?_greatest (h : t.Holds (records.map Row.ofRecord) db)
    (hids : ((records.map Row.ofRecord).map (·.legacyId)).Nodup)
    (hdated : ∀ r ∈ records, Instant.Dated r.startDate) (hsome : records ≠ []) :
    ∃ r ∈ records, (latest? t .processInstance).run db = (.ok (some r.cut.cursor), db) ∧
      ∀ r' ∈ records, r'.legacyId ≠ r.legacyId → r'.cut.Precedes r.cut := by
  have hall : (records.map Row.ofRecord).filter (Row.isOf .processInstance) =
      records.map Row.ofRecord :=
    List.filter_eq_self.2 fun row hrow => (isDated_of_dated hdated row hrow).isOf
  have hlisted : Row.sorted (records.map Row.ofRecord) ≠ [] := by
    intro hnil
    have hlength := (Row.sorted_perm (records.map Row.ofRecord)).length_eq
    rw [hnil, List.length_map] at hlength
    exact hsome (List.length_eq_zero_iff.1 hlength.symm)
  obtain ⟨earlier, last, hsplit⟩ : ∃ earlier last,
      Row.sorted (records.map Row.ofRecord) = earlier ++ [last] :=
    ⟨_, _, (List.dropLast_append_getLast hlisted).symm⟩
  have hmem : ∀ row, row ∈ earlier ++ [last] ↔ row ∈ records.map Row.ofRecord := by
    intro row
    rw [← hsplit, Row.mem_sorted]
  obtain ⟨r, hr, rfl⟩ :=
    List.mem_map.1 ((hmem last).1 (List.mem_append_right _ List.mem_cons_self))
  -- the row that is read is the last of the sorted ones, so all others come before it
  refine ⟨r, hr, ?_, ?_⟩
  · unfold latest?
    rw [Action.run_bind_ok (rows_run h), hall, hsplit, List.getLast?_concat]
    have hdate : Row.readDate (Row.ofRecord r).startDate = .ok (r.startDate.map Instant.cut) :=
      Row.readDate_microText (hdated r hr)
    simp only [hdate]
    rfl
  · intro r' hr' hne
    have horder := Row.sorted_ascending hids
    rw [hsplit, List.pairwise_append] at horder
    have hlisted' := (hmem (.ofRecord r')).2 (List.mem_map_of_mem hr')
    rcases List.mem_append.1 hlisted' with hearlier | hlast
    · have hlt := horder.2.2 _ hearlier _ List.mem_cons_self
      have hread := Row.read_ofRecord (hdated r hr)
      have hread' := Row.read_ofRecord (hdated r' hr')
      exact MappingRecord.precedes_iff.2
        (Row.cursor_lt ⟨r', rfl, hdated r' hr'⟩ ⟨r, rfl, hdated r hr⟩ hread' hread hlt)
    · exact absurd (congrArg Row.legacyId (List.mem_singleton.1 hlast)) hne

end Store

/-! ## Histories -/

namespace StoreTables

/-- The answers of a store about its records are in the order of time. -/
structure InTimeOrder (t : StoreTables) (db : Database) (records : List MappingRecord) : Prop where
  ids : (records.map (·.legacyId)).Nodup
  /-- Without records there is no place of the last one. -/
  empty : records = [] → (Store.latest? t .processInstance).run db = (.ok none, db)
  /-- The place of the last record is that of the greatest. -/
  latest : records ≠ [] → ∃ r ∈ records,
    (Store.latest? t .processInstance).run db = (.ok (some r.cut.cursor), db) ∧
      ∀ r' ∈ records, r'.legacyId ≠ r.legacyId → r'.cut.Precedes r.cut
  skipped : ∃ listing, Store.ListsInOrder db (Store.skipped t .processInstance)
    (Store.countSkipped t .processInstance) (records.filter fun r => r.skipReason.isSome) listing
  migrated : ∃ listing, Store.ListsInOrder db (Store.migrated t .processInstance)
    (Store.countMigrated t .processInstance) (records.filter fun r => r.targetKey.isSome) listing

/-- Whatever is done to a store, directly or in transactions: its rows are those of records, and as
long as their start dates are missing or have a year of four digits, the last record and the pages
are those in the order of time. -/
theorem order_is_time_order {db₀ : Database}
    (hopen : (Store.open t.tablePrefix).run db₀ = (.ok t, db))
    (hstart : t.Fresh db₀ ∨ ∃ rows, t.Holds rows db₀ ∧ Store.Lawful rows ∧ Store.Written rows)
    (ops : List StoreOperation) (changes : List RecordChange) :
    (∃ records : List MappingRecord,
      t.Holds (records.map Row.ofRecord) (t.visible ops changes db)) ∧
    ∀ records : List MappingRecord,
      t.Holds (records.map Row.ofRecord) (t.visible ops changes db) →
      (∀ r ∈ records, Instant.Dated r.startDate) →
      t.InTimeOrder (t.visible ops changes db) records := by
  have hnil : Store.Lawful [] ∧ Store.Written [] := ⟨Store.lawful_nil, fun r hr => by cases hr⟩
  obtain ⟨rows₀, hrows₀, hlaw₀, hwritten₀⟩ := Store.holds_open hnil hopen hstart
  constructor
  · obtain ⟨rows, hrows, hwritten⟩ := visible_written ops changes ⟨rows₀, hrows₀, hwritten₀⟩
    obtain ⟨records, rfl⟩ := hwritten.exists_records
    exact ⟨records, hrows⟩
  · intro records hrecords hdated
    -- the store holds one list of rows, so these are the lawful ones that the calls left
    obtain ⟨rows, hrows, hlaw, -⟩ := visible_lawful ops changes hrows₀ hlaw₀
    have hids : ((records.map Row.ofRecord).map (·.legacyId)).Nodup := by
      rw [← hrows.unique hrecords] at hlaw
      exact hlaw.ids
    constructor
    case ids =>
      rw [List.map_map] at hids
      exact hids
    case empty =>
      rintro rfl
      have hsorted : Row.sorted [] = [] := List.mergeSort_nil
      unfold Store.latest?
      rw [Action.run_bind_ok (Store.rows_run hrecords), List.map_nil, List.filter_nil, hsorted]
      rfl
    case latest => exact Store.latest?_greatest hrecords hids hdated
    case skipped => exact Store.page_listsInOrder hrecords hids hdated Row.isSkipped
    case migrated => exact Store.page_listsInOrder hrecords hids hdated Row.isMigrated

/-- Orders of no date, of a leap second and of the second after it, recorded in the opposite
order. -/
theorem orders_around_leap_second :
    let t : StoreTables := ⟨""⟩
    let db : Database := ((Store.open "").run Database.empty).2
    let records : List MappingRecord :=
      [.skipped "a" (some ⟨1483228800, 0⟩) "late",
        .skipped "b" (some ⟨1483228799, 1500000000⟩) "leap", .skipped "c" none "undated"]
    let ops : List StoreOperation := records.map fun r => .change (.insert r)
    t.InTimeOrder (t.visible ops [] db) records ∧
      ((Store.skipped t .processInstance 0 100).run (t.visible ops [] db)).1 =
        .ok records.reverse := by
  intro t db records ops
  have hopen : (Store.open "").run Database.empty = (.ok t, db) := by decide +kernel
  have hfresh : t.Fresh Database.empty := ⟨rfl, rfl⟩
  have hrecords : t.Holds (records.map Row.ofRecord) (t.visible ops [] db) := by
    unfold Holds
    decide +kernel
  have hdated : ∀ r ∈ records, Instant.Dated r.startDate := by
    intro r hr
    simp only [records, List.mem_cons, List.not_mem_nil, or_false] at hr
    rcases hr with rfl | rfl | rfl <;> intro time htime <;> cases htime <;>
      (unfold Instant.OnClock; decide)
  have horder := (order_is_time_order hopen (.inl hfresh) ops []).2 records hrecords hdated
  refine ⟨horder, ?_⟩
  obtain ⟨listing, hlists⟩ := horder.skipped
  have hreverse : listing = records.reverse :=
    hlists.unique (List.reverse_perm records) (by decide +kernel)
  rw [hlists.page 0 100 (by decide) (by decide) (.inl (by decide)), hreverse]
  rfl

end StoreTables
end ProcessMigration
