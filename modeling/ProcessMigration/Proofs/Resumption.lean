import ProcessMigration.Proofs.Books
import ProcessMigration.Proofs.Sessions
import ProcessMigration.Proofs.StartDate

/-!
# Interrupted migrations are resumed where they stopped

The rows of the mapping table are at any time those of the first instances of the listing, in order,
one for each: `Accounted`. A migrating pass resumes behind the place of some row. That place is cut
to microseconds, so it may lie before its instance, but never behind it; so what the pass does not
list has a row already.

* `Workspace.migrateInstance_accounts`: an instance whose predecessors have rows gets its row, or the
  pass ends with the rows as they were;
* `Workspace.migratePass_accounts`: a pass that comes to its end leaves a row for every instance;
* `Session.after_accounted`: whatever happens, the rows are those of a first part of the listing;
* `Workspace.run_rests`: once all instances have rows, a pass starts no instance and changes
  no row.
-/

namespace ProcessMigration

open ProcessMigration.Action (Triple)

/-! ## First parts of the listing -/

/-- What a row says of the instance it is about, whatever became of that instance. -/
def Row.stamp (r : Row) : String × Option String := (r.legacyId, r.startDate)

/-- What the row of an instance says of it. -/
def SourceInstance.stamp (i : SourceInstance) : String × Option String :=
  (i.id, i.startTime.map Instant.microText)

/-- The rows are those of the first instances of a listing, of `n` instances at least. -/
structure FirstRows (listing : List SourceInstance) (n : Nat) (rows : List Row) : Prop where
  first : rows.map Row.stamp <+: listing.map SourceInstance.stamp
  atLeast : n ≤ rows.length

namespace FirstRows

variable {listing : List SourceInstance} {n k : Nat} {rows : List Row} {i : SourceInstance}

theorem length_le (h : FirstRows listing n rows) : rows.length ≤ listing.length := by
  have hlen := h.first.length_le
  simpa using hlen

theorem mono {n' : Nat} (h : FirstRows listing n rows) (hn : n' ≤ n) : FirstRows listing n' rows :=
  ⟨h.first, Nat.le_trans hn h.atLeast⟩

/-- The row of a number is that of the instance of this number. -/
theorem getElem? (h : FirstRows listing n rows) {r : Row} (hr : rows[k]? = some r) :
    ∃ i, listing[k]? = some i ∧ r.stamp = i.stamp := by
  have hrow : (rows.map Row.stamp)[k]? = some r.stamp := by
    rw [List.getElem?_map, hr]
    rfl
  obtain ⟨rest, hrest⟩ := h.first
  have hinst : (listing.map SourceInstance.stamp)[k]? = some r.stamp := by
    rw [← hrest, List.getElem?_append_left (List.getElem?_eq_some_iff.1 hrow).1]
    exact hrow
  rw [List.getElem?_map, Option.map_eq_some_iff] at hinst
  obtain ⟨i, hi, hstamp⟩ := hinst
  exact ⟨i, hi, hstamp.symm⟩

/-- An instance that has a row is among the first. -/
theorem lt_of_mem (h : FirstRows listing n rows) (hids : (listing.map (·.id)).Nodup)
    (hk : listing[k]? = some i) {r : Row} (hr : r ∈ rows) (hid : r.legacyId = i.id) :
    k < rows.length := by
  obtain ⟨j, hj⟩ := List.mem_iff_getElem?.1 hr
  obtain ⟨i', hi', hstamp⟩ := h.getElem? hj
  have hsame : i'.id = i.id := by
    rw [← hid]
    exact (congrArg Prod.fst hstamp).symm
  -- distinct ids stand at one place only
  have hjk : j = k := by
    obtain ⟨hjl, rfl⟩ := List.getElem?_eq_some_iff.1 hi'
    obtain ⟨hkl, rfl⟩ := List.getElem?_eq_some_iff.1 hk
    have hpair := List.pairwise_iff_getElem.1 hids
    simp only [List.length_map, List.getElem_map] at hpair
    rcases Nat.lt_trichotomy j k with hlt | heq | hgt
    · exact absurd hsame (hpair j k hjl hkl hlt)
    · exact heq
    · exact absurd hsame.symm (hpair k j hkl hjl hgt)
  obtain ⟨hjr, _⟩ := List.getElem?_eq_some_iff.1 hj
  omega

/-- An instance of the first has a row. -/
theorem exists_row (h : FirstRows listing n rows) (hk : listing[k]? = some i)
    (hlt : k < rows.length) : ∃ r ∈ rows, r.legacyId = i.id := by
  obtain ⟨i', hi', hstamp⟩ := h.getElem? (List.getElem?_eq_getElem hlt)
  rw [hk] at hi'
  cases hi'
  exact ⟨rows[k], List.getElem_mem hlt, congrArg Prod.fst hstamp⟩

/-- The row of the next instance. -/
theorem append (h : FirstRows listing n rows) (hk : listing[rows.length]? = some i) {r : Row}
    (hr : r.stamp = i.stamp) : FirstRows listing (rows.length + 1) (rows ++ [r]) := by
  refine ⟨?_, by simp⟩
  obtain ⟨rest, hrest⟩ := h.first
  have hnext : rest.head? = some i.stamp := by
    have hget : (listing.map SourceInstance.stamp)[rows.length]? = some i.stamp := by
      rw [List.getElem?_map, hk]
      rfl
    rw [← hrest, List.getElem?_append_right (by simp)] at hget
    simpa [List.head?_eq_getElem?] using hget
  obtain ⟨tail, rfl⟩ := List.head?_eq_some_iff.1 hnext
  refine ⟨tail, ?_⟩
  rw [List.map_append, List.map_singleton, hr, List.append_assoc, List.singleton_append]
  exact hrest

/-- Flipping a row says nothing new of its instance. -/
theorem flippedRows (h : FirstRows listing n rows) (legacyId : String) (key : Int) :
    FirstRows listing n (Store.flippedRows legacyId key rows) := by
  have hsame : (Store.flippedRows legacyId key rows).map Row.stamp = rows.map Row.stamp := by
    unfold Store.flippedRows
    rw [List.map_map]
    apply List.map_congr_left
    intro r _
    show Row.stamp (if Store.flips legacyId r then Store.flipped key r else r) = r.stamp
    split <;> rfl
  refine ⟨hsame ▸ h.first, ?_⟩
  rw [show (Store.flippedRows legacyId key rows).length = rows.length from List.length_map ..]
  exact h.atLeast

end FirstRows

/-! ## What has a row -/

/-- The books of a migration of this snapshot: the rows are those of the first instances, of `n` at
least. -/
structure Accounted (source : SnapshotSource) (definitions : List Definition) (tables : StoreTables)
    (n : Nat) (b : Books) : Prop where
  sameSource : b.source = source
  sameDefinitions : b.definitions = definitions
  sameTables : b.tables = tables
  rows : ∃ rows, tables.Holds rows b.database ∧ FirstRows source.listing n rows

namespace Workspace

variable {source : SnapshotSource} {definitions : List Definition} {tables : StoreTables}
  {settings : MigrationSettings} {pipeline : Pipeline} {n k : Nat} {i : SourceInstance}

theorem Accounted.mono {n' : Nat} {b : Books} (h : Accounted source definitions tables n b)
    (hn : n' ≤ n) : Accounted source definitions tables n' b := by
  obtain ⟨rows, hrows, hfirst⟩ := h.rows
  exact ⟨h.sameSource, h.sameDefinitions, h.sameTables, rows, hrows, hfirst.mono hn⟩

theorem Accounted.withRows {b : Books} {rows : List Row} {db : Database}
    (h : Accounted source definitions tables n b) (hrows : tables.Holds rows db)
    (hfirst : FirstRows source.listing k rows) :
    Accounted source definitions tables k { b with tables, database := db } :=
  ⟨h.sameSource, h.sameDefinitions, rfl, rows, hrows, hfirst⟩

/-- The record of the next instance is a new row at the end. -/
theorem insert_accounts (hk : source.listing[k]? = some i) {record : MappingRecord}
    (hid : record.legacyId = i.id) (hdate : record.startDate = i.startTime) :
    Triple (BooksAre (Accounted source definitions tables k))
      (Run.store ((interruptedMigrator settings pipeline).env.store.insert record))
      (fun _ => BooksAre (Accounted source definitions tables (k + 1)))
      (BooksAre (Accounted source definitions tables 0)) := by
  refine store_changes_books (Ψ := fun _ => Accounted source definitions tables (k + 1))
    (fun t => Store.insert t record) ?_ (fun b hb => Accounted.mono hb (Nat.zero_le _))
    fun _ b hb => Accounted.mono hb (Nat.zero_le _)
  intro b hb
  obtain ⟨rows, hrows, hfirst⟩ := hb.rows
  rw [hb.sameTables]
  refine (Store.insert_triple tables rows record).conseq (fun db hdb => hdb ▸ hrows) ?_ ?_
  · intro _ db ⟨hdb, hnew⟩
    -- a row of the instance itself would have refused the record
    have hlength : rows.length = k := by
      rcases Nat.lt_or_eq_of_le hfirst.atLeast with hlt | heq
      · obtain ⟨r, hr, hsame⟩ := hfirst.exists_row hk hlt
        exact absurd (hsame.trans hid.symm) (hnew r hr)
      · exact heq.symm
    subst hlength
    refine Accounted.withRows hb hdb (hfirst.append hk ?_)
    show (record.legacyId, record.startDate.map Instant.microText) = i.stamp
    rw [hid, hdate]
    rfl
  · intro db hdb
    exact Accounted.withRows hb hdb (hfirst.mono (Nat.zero_le _))

/-- An update writes no new row. -/
theorem update_accounts (legacyId : String) (key : Int) :
    Triple (BooksAre (Accounted source definitions tables n))
      (Run.store ((interruptedMigrator settings pipeline).env.store.update legacyId key))
      (fun _ => BooksAre (Accounted source definitions tables n))
      (BooksAre (Accounted source definitions tables n)) := by
  refine store_changes_books (Ψ := fun _ => Accounted source definitions tables n)
    (fun t => Store.update t legacyId key) ?_ (fun b hb => hb) fun _ b hb => hb
  intro b hb
  obtain ⟨rows, hrows, hfirst⟩ := hb.rows
  rw [hb.sameTables]
  refine (Store.update_triple tables rows legacyId key).conseq (fun db hdb => hdb ▸ hrows) ?_ ?_
  · intro _ db ⟨hdb, _⟩
    exact Accounted.withRows hb hdb (hfirst.flippedRows legacyId key)
  · intro db hdb
    exact Accounted.withRows hb hdb hfirst

theorem create_accounts (request : CreateRequest) :
    Triple (BooksAre (Accounted source definitions tables n))
      (Run.engine ((interruptedMigrator settings pipeline).env.target.createInstance request))
      (fun _ => BooksAre (Accounted source definitions tables n))
      (BooksAre (Accounted source definitions tables n)) :=
  create_keeps_books request fun _ hb =>
    ⟨hb.sameSource, hb.sameDefinitions, hb.sameTables, hb.rows⟩

/-- The store tells whether an instance is among the first. -/
theorem exists_accounted (hids : (source.listing.map (·.id)).Nodup)
    (hk : source.listing[k]? = some i) :
    Triple (BooksAre (Accounted source definitions tables k))
      (Run.store ((interruptedMigrator settings pipeline).env.store.exists i.id))
      (fun found s => BooksAre (Accounted source definitions tables k) s ∧
        (found = true → BooksAre (Accounted source definitions tables (k + 1)) s))
      (BooksAre (Accounted source definitions tables k)) := by
  refine (store_reads_books (fun t => Store.exists t i.id) fun _ => Store.exists_readOnly _).post ?_
  intro found s ⟨hb, hfound⟩
  refine ⟨hb, ?_⟩
  intro htrue
  obtain ⟨rows, hrows, hfirst⟩ := hb.rows
  rw [hb.sameTables, Store.exists_run hrows, htrue] at hfound
  have hsome : (rows.find? fun r => r.legacyId == i.id).isSome = true := Except.ok.inj hfound
  obtain ⟨r, hr⟩ := Option.isSome_iff_exists.1 hsome
  have hid := List.find?_some hr
  have hlt := hfirst.lt_of_mem hids hk (List.mem_of_find?_eq_some hr) (by simpa using hid)
  exact ⟨hb.sameSource, hb.sameDefinitions, hb.sameTables, rows, hrows, hfirst.first, hlt⟩

theorem keeps_accounted : (interruptedMigrator settings pipeline).Keeps
    (BooksAre (Accounted source definitions tables n))
    (BooksAre (Accounted source definitions tables n))
    (BooksAre (Accounted source definitions tables n)) :=
  keeps_books (fun _ hb => hb.sameSource) fun _ hb => hb.sameDefinitions

/-- An instance whose predecessors have rows gets its row. -/
theorem migrateInstance_accounts (hids : (source.listing.map (·.id)).Nodup)
    (hk : source.listing[k]? = some i) :
    Triple (BooksAre (Accounted source definitions tables k))
      ((interruptedMigrator settings pipeline).migrateInstance i)
      (fun _ => BooksAre (Accounted source definitions tables (k + 1)))
      (BooksAre (Accounted source definitions tables 0)) := by
  have hzero : ∀ s : RunState (Interrupted Workspace),
      BooksAre (Accounted source definitions tables k) s →
        BooksAre (Accounted source definitions tables 0) s :=
    fun s hs => Accounted.mono hs (Nat.zero_le _)
  unfold Migrator.migrateInstance
  refine Triple.bind (M := fun _ => BooksAre (Accounted source definitions tables k))
    (Triple.modify fun s hs => hs) ?_
  intro _
  refine Triple.bind ((exists_accounted hids hk).ends (fun _ _ h => h) hzero) ?_
  intro found
  cases found with
  | true =>
    rw [if_pos rfl]
    exact Triple.modify fun s hs => hs.2 rfl
  | false =>
    rw [if_neg Bool.false_ne_true]
    refine Triple.bind ((prepare_keeps_books (fun _ hb => hb.sameDefinitions) i).conseq
      (fun s hs => hs.1) (fun _ s hs => hs.1) hzero) ?_
    intro p
    cases p with
    | ready prepared =>
      refine Triple.bind (M := fun _ => BooksAre (Accounted source definitions tables (k + 1))) ?_
        fun _ => Triple.modify fun s hs => hs
      unfold Migrator.start
      refine Triple.bind ((create_accounts prepared.request).ends (fun _ _ h => h)
        hzero) ?_
      intro handle
      refine Triple.bind (insert_accounts hk ?_ ?_) fun _ => Triple.modify fun s hs => hs
      · rfl
      · rfl
    | skip reason =>
      refine Triple.bind (insert_accounts hk ?_ ?_) fun _ => Triple.modify fun s hs => hs
      · rfl
      · rfl

/-! ## The pages of a pass -/

/-- The times of a snapshot are those of a clock, in years of four digits. -/
def ClockTimes (source : SnapshotSource) : Prop :=
  ∀ i ∈ source.listing, ∀ t, i.startTime = some t → t.OnClock ∧ 0 ≤ t.date.year ∧ t.date.year ≤ 9999

/-- How many instances a listing that is resumed at a place passes over. -/
def passedOver (source : SnapshotSource) : Option Cursor → Nat
  | none => 0
  | some c => source.notAfter c

theorem listAfter_passedOver (hs : source.Ascending) (resume : Option Cursor) (limit : Nat) :
    source.listAfter resume limit = (source.listing.drop (passedOver source resume)).take limit := by
  cases resume with
  | none => exact source.listAfter_none limit
  | some c => exact source.listAfter_eq hs c limit

/-- What is passed over has rows, though the place is cut to microseconds. -/
theorem latest_accounted (hs : source.Ascending) (htimes : ClockTimes source) :
    Triple (BooksAre (Accounted source definitions tables 0))
      (Run.store (interruptedMigrator settings pipeline).env.store.latest?)
      (fun resume => BooksAre (Accounted source definitions tables (passedOver source resume)))
      (BooksAre (Accounted source definitions tables 0)) := by
  refine (store_reads_books (fun t => Store.latest? t .processInstance) fun _ =>
    Store.latest?_readOnly _).post ?_
  intro resume s ⟨hb, hlatest⟩
  cases resume with
  | none => exact hb
  | some c =>
    obtain ⟨rows, hrows, hfirst⟩ := hb.rows
    rw [hb.sameTables] at hlatest
    obtain ⟨r, hr, hid, hdate⟩ := Store.latest?_found hrows hlatest
    obtain ⟨j, hj⟩ := List.mem_iff_getElem?.1 hr
    obtain ⟨i, hi, hstamp⟩ := hfirst.getElem? hj
    have hstart : c.startTime = i.startTime.map Instant.cut := by
      have hread := Row.readDate_microText (htimes i (List.mem_of_getElem? hi))
      have hwritten : r.startDate = i.startTime.map Instant.microText := congrArg Prod.snd hstamp
      rw [hwritten] at hdate
      exact Except.ok.inj (hdate.symm.trans hread)
    have hsame : c.legacyId = i.id := hid.symm.trans (congrArg Prod.fst hstamp)
    -- the place of the row is at most that of its instance
    have hplace : ¬i.cursor.lt c = true := by
      intro hlt
      rcases Cursor.lt_iff.1 hlt with hbefore | ⟨_, hless⟩
      · rw [hstart] at hbefore
        cases htime : i.startTime with
        | none => simp [SourceInstance.cursor, htime, Instant.before] at hbefore
        | some t =>
          simp only [SourceInstance.cursor, htime, Option.map_some, Instant.before] at hbefore
          exact t.not_lt_cut hbefore
      · rw [hsame] at hless
        exact String.lt_irrefl _ hless
    have hpassed := SnapshotSource.notAfter_le hs hi hplace
    obtain ⟨hjr, _⟩ := List.getElem?_eq_some_iff.1 hj
    exact ⟨hb.sameSource, hb.sameDefinitions, hb.sameTables, rows, hrows, hfirst.first,
      Nat.le_trans hpassed hjr⟩

/-- A paging that has visited the instances from number `start` on. -/
structure Visited (source : SnapshotSource) (start : Nat) (p : Paging SourceInstance) : Prop where
  mode : p.mode = .after
  total : p.total = some source.listing.length
  pageSize : 0 < p.pageSize
  within : start + p.itemsVisited ≤ source.listing.length
  last : (p.itemsVisited = 0 ∧ p.last = none) ∨
    ∃ k i, k + 1 = start + p.itemsVisited ∧ source.listing[k]? = some i ∧ p.last = some i
  done : p.exhausted = true → source.listing.length ≤ start + p.itemsVisited

namespace Visited

variable {start : Nat} {p : Paging SourceInstance}

theorem atStart (hstart : start ≤ source.listing.length) (pageSize : Nat) :
    Visited source start (Paging.start .after pageSize (some source.listing.length)) where
  mode := rfl
  total := rfl
  pageSize := by
    show 0 < max pageSize 1
    omega
  within := hstart
  last := .inl ⟨rfl, rfl⟩
  done h := by cases h

/-- The next page begins where the visited instances end. -/
theorem page_eq (h : Visited source (passedOver source resume) p) (hs : source.Ascending)
    {request : PageRequest SourceInstance} (hrequest : p.request? = some request) :
    source.listAfter ((request.after.map SourceInstance.cursor).or resume) request.limit =
      (source.listing.drop (passedOver source resume + p.itemsVisited)).take p.pageSize := by
  unfold Paging.request? at hrequest
  split at hrequest
  · cases hrequest
  · cases hrequest
    simp only [h.mode]
    rcases h.last with ⟨hzero, hlast⟩ | ⟨k, i, hk, hi, hlast⟩
    · rw [hlast, hzero]
      exact listAfter_passedOver hs resume _
    · rw [hlast, ← hk]
      show source.listAfter (some i.cursor) _ = _
      rw [SnapshotSource.listAfter_eq hs, SnapshotSource.notAfter_cursor hs hi]

omit source in
theorem getElem?_of_page {listing page : List SourceInstance} {first size j : Nat}
    {i : SourceInstance} (hpage : page = (listing.drop first).take size) (hj : page[j]? = some i) :
    listing[first + j]? = some i := by
  rw [hpage, List.getElem?_take] at hj
  split at hj
  · rw [List.getElem?_drop] at hj
    exact hj
  · cases hj

theorem received (h : Visited source start p) {page : List SourceInstance}
    (hpage : page = (source.listing.drop (start + p.itemsVisited)).take p.pageSize) :
    Visited source start (p.received page) := by
  have hlength : page.length = min p.pageSize (source.listing.length - (start + p.itemsVisited)) := by
    rw [hpage, List.length_take, List.length_drop]
  have hsize := h.pageSize
  have hwithin := h.within
  by_cases hempty : page = []
  · subst hempty
    simp only [List.length_nil] at hlength
    refine ⟨h.mode, h.total, h.pageSize, h.within, h.last, ?_⟩
    intro _
    show source.listing.length ≤ start + p.itemsVisited
    omega
  · have hisEmpty : page.isEmpty = false := by simpa using hempty
    have hpos : 0 < page.length := List.length_pos_iff.2 hempty
    unfold Paging.received
    rw [hisEmpty]
    refine ⟨h.mode, h.total, h.pageSize, ?_, .inr ?_, ?_⟩
    · show start + (p.itemsVisited + page.length) ≤ _
      omega
    · refine ⟨start + p.itemsVisited + (page.length - 1), page.getLast hempty, ?_, ?_, ?_⟩
      · show _ = start + (p.itemsVisited + page.length)
        omega
      · refine getElem?_of_page hpage ?_
        rw [← List.getLast?_eq_getElem?, List.getLast?_eq_some_getLast hempty]
      · show (if p.mode = .after then page.getLast? else p.last) = _
        rw [if_pos h.mode, List.getLast?_eq_some_getLast hempty]
    · intro hshort
      have hless : page.length < p.pageSize := by
        simp only [Bool.false_eq_true, if_false, Bool.and_eq_true, decide_eq_true_eq] at hshort
        exact hshort.2
      show source.listing.length ≤ start + (p.itemsVisited + page.length)
      omega

/-- Where there is no further request, all instances are visited. -/
theorem all_of_request? (h : Visited source start p) (hnone : p.request? = none) :
    source.listing.length ≤ start + p.itemsVisited := by
  rcases Paging.request?_eq_none.1 hnone with hexhausted | htotal
  · exact h.done hexhausted
  · have hreached := (Paging.totalReached_of_total h.total).1 htotal
    omega

end Visited

/-! ## Migrating passes -/

section

variable (hs : source.Ascending) (hids : (source.listing.map (·.id)).Nodup)
include hs hids

omit hs in
theorem page_accounts {start : Nat} {page : List SourceInstance}
    (hpage : ∀ j i, page[j]? = some i → source.listing[start + j]? = some i) :
    Triple (BooksAre (Accounted source definitions tables start))
      (Action.forAll page (interruptedMigrator settings pipeline).migrateInstance)
      (fun _ => BooksAre (Accounted source definitions tables (start + page.length)))
      (BooksAre (Accounted source definitions tables 0)) := by
  refine Triple.forAll (I := fun done =>
    BooksAre (Accounted source definitions tables (start + done.length))) ?_
  intro done i rest hsplit
  have hi : source.listing[start + done.length]? = some i := by
    refine hpage done.length i ?_
    rw [hsplit, List.getElem?_append_right (Nat.le_refl _), Nat.sub_self]
    rfl
  rw [List.length_append]
  exact migrateInstance_accounts hids hi

/-- The pages of a pass that is resumed where the rows end. -/
theorem pages_accounted (resume : Option Cursor) :
    Triple (BooksAre (Accounted source definitions tables (passedOver source resume)))
      (Paging.forPages ((interruptedMigrator settings pipeline).instancePage resume)
        (fun paging page => do
          Action.forAll page (interruptedMigrator settings pipeline).migrateInstance
          (interruptedMigrator settings pipeline).drainWhenFull
          return paging)
        (Paging.enough source.listing.length)
        (Paging.start .after settings.pageSize (some source.listing.length)))
      (fun _ => BooksAre (Accounted source definitions tables source.listing.length))
      (BooksAre (Accounted source definitions tables 0)) := by
  -- `start` instances are passed over; the invariant counts those that were visited
  refine (Triple.forPages
    (I := fun p s => BooksAre (Accounted source definitions tables
      (passedOver source resume + p.itemsVisited)) s ∧ Visited source (passedOver source resume) p)
    (M := fun p page s => ∃ before, p.itemsVisited = before + page.length ∧
      (∀ j i, page[j]? = some i →
        source.listing[passedOver source resume + before + j]? = some i) ∧
      BooksAre (Accounted source definitions tables (passedOver source resume + before)) s ∧
      Visited source (passedOver source resume) p)
    ?_ ?_ _ _ (Paging.fueled_start .after settings.pageSize source.listing.length)).conseq
    ?_ ?_ fun _ h => h
  · intro p request hrequest
    apply Triple.of_state
    rintro s₀ ⟨hb₀, hvisited⟩
    have hlist : Triple (BooksAre (Accounted source definitions tables
        (passedOver source resume + p.itemsVisited)))
        ((interruptedMigrator settings pipeline).instancePage resume request)
        (fun page s => BooksAre (Accounted source definitions tables
          (passedOver source resume + p.itemsVisited)) s ∧
          page = (source.listing.drop (passedOver source resume + p.itemsVisited)).take p.pageSize)
        (BooksAre (Accounted source definitions tables
          (passedOver source resume + p.itemsVisited))) := by
      refine (Run.engine_reads (stable_booksAre _) (onSource_readOnly fun s =>
        .ok (s.listAfter ((request.after.map SourceInstance.cursor).or resume) request.limit))).post ?_
      intro page s ⟨hb, hanswer⟩
      refine ⟨hb, ?_⟩
      rw [← hvisited.page_eq hs hrequest, ← hb.sameSource]
      exact (Except.ok.inj hanswer).symm
    refine hlist.conseq (fun s h => h ▸ hb₀) ?_ fun s hb => Accounted.mono hb (Nat.zero_le _)
    intro page s ⟨hb, hpage⟩
    split
    · next hnil =>
      subst hnil
      exact ⟨hb, hvisited.received hpage⟩
    · refine ⟨p.itemsVisited, Paging.itemsVisited_received p page, ?_, hb, hvisited.received hpage⟩
      intro j i hj
      exact Visited.getElem?_of_page hpage hj
  · intro p page
    apply Triple.of_state
    rintro s₀ ⟨before, hcount, hpage, hb₀, hvisited⟩
    refine Triple.bind ((page_accounts hids hpage).pre fun s h => h ▸ hb₀) ?_
    intro _
    refine Triple.bind (keeps_accounted.drainWhenFull.ends (fun _ _ h => h)
      fun s hb => Accounted.mono hb (Nat.zero_le _)) ?_
    intro _
    apply Triple.pure
    intro s hb
    refine ⟨⟨?_, hvisited⟩, rfl, rfl⟩
    rw [hcount, ← Nat.add_assoc]
    exact hb
  · intro s hb
    obtain ⟨rows, _, hfirst⟩ := hb.rows
    exact ⟨hb, Visited.atStart (Nat.le_trans hfirst.atLeast hfirst.length_le) settings.pageSize⟩
  · intro _ s ⟨p, ⟨hb, hvisited⟩, hnone⟩
    exact Accounted.mono hb (hvisited.all_of_request? hnone)

/-- A pass that comes to its end leaves a row for every instance. -/
theorem migratePass_accounts (htimes : ClockTimes source) :
    Triple (BooksAre (Accounted source definitions tables 0))
      (interruptedMigrator settings pipeline).migratePass
      (fun _ => BooksAre (Accounted source definitions tables source.listing.length))
      (BooksAre (Accounted source definitions tables 0)) := by
  have hzero : ∀ n (s : RunState (Interrupted Workspace)),
      BooksAre (Accounted source definitions tables n) s →
        BooksAre (Accounted source definitions tables 0) s :=
    fun n s hb => Accounted.mono hb (Nat.zero_le _)
  unfold Migrator.migratePass
  refine Triple.bind (latest_accounted hs htimes) ?_
  intro resume
  have hcount : Triple (BooksAre (Accounted source definitions tables (passedOver source resume)))
      (Run.engine (interruptedMigrator settings pipeline).env.source.count)
      (fun total s => BooksAre (Accounted source definitions tables (passedOver source resume)) s ∧
        total = source.listing.length)
      (BooksAre (Accounted source definitions tables (passedOver source resume))) := by
    refine (Run.engine_reads (stable_booksAre _) (onSource_readOnly fun s => .ok s.count)).post ?_
    intro total s ⟨hb, hanswer⟩
    refine ⟨hb, ?_⟩
    rw [← hb.sameSource, ← Except.ok.inj hanswer]
    exact (List.length_map ..).symm
  refine Triple.bind (hcount.ends (fun _ _ h => h) (hzero _)) ?_
  intro total
  apply Triple.of_state
  rintro s₀ ⟨hb₀, htotal⟩
  subst htotal
  refine Triple.bind ((pages_accounted hs hids resume).pre fun s h => h ▸ hb₀) ?_
  intro _
  exact keeps_accounted.drain.ends (fun _ _ h => h) (hzero _)

theorem run_accounts (htimes : ClockTimes source) :
    Triple (BooksAre (Accounted source definitions tables 0))
      ((interruptedMigrator settings pipeline).run .migrate)
      (fun _ => BooksAre (Accounted source definitions tables source.listing.length))
      (BooksAre (Accounted source definitions tables 0)) :=
  keeps_accounted.run (migratePass_accounts hs hids htimes)

end

/-! ## Other passes -/

theorem keepsRetrying_accounted : (interruptedMigrator settings pipeline).KeepsRetrying
    (BooksAre (Accounted source definitions tables n))
    (BooksAre (Accounted source definitions tables n))
    (BooksAre (Accounted source definitions tables n)) (· ∈ source.listing) fun _ _ => True where
  toKeeps := keeps_accounted
  find id := (find_keeps_books (fun _ hb => hb.sameSource) id).post fun _ _ h =>
    ⟨h.1, fun i hi => (h.2 i hi).1⟩
  prepare i _ := (prepare_keeps_books (fun _ hb => hb.sameDefinitions) i).post fun _ _ h =>
    ⟨h.1, fun _ _ => trivial⟩
  startAgain i prepared _ _ := by
    unfold Migrator.start
    refine Triple.bind (create_accounts prepared.request) ?_
    intro handle
    exact Triple.bind (update_accounts i.id _) fun _ => Triple.modify fun s hs => hs

/-- A run of any mode leaves the rows of a first part of the listing, even if it is broken off. -/
theorem run_accounted (hs : source.Ascending) (hids : (source.listing.map (·.id)).Nodup)
    (htimes : ClockTimes source) (mode : Mode) :
    Triple (BooksAre (Accounted source definitions tables 0))
      ((interruptedMigrator settings pipeline).run mode)
      (fun _ => BooksAre (Accounted source definitions tables 0))
      (BooksAre (Accounted source definitions tables 0)) := by
  cases mode with
  | migrate =>
    exact (run_accounts hs hids htimes).post fun _ s hb => Accounted.mono hb (Nat.zero_le _)
  | retrySkipped => exact keepsRetrying_accounted.run
  | listSkipped => exact keeps_accounted.runListing

/-- The books of a migration with a row for every instance. -/
structure Settled (source : SnapshotSource) (definitions : List Definition) (tables : StoreTables)
    (rows : List Row) (started : List CreateRequest) (b : Books) : Prop where
  sameSource : b.source = source
  sameDefinitions : b.definitions = definitions
  holds : b.tables = tables ∧ tables.Holds rows b.database
  sameStarted : b.started = started

/-- Once all instances have rows, a migrating run starts none and changes no row. -/
theorem run_rests {rows : List Row} {started : List CreateRequest}
    (hall : ∀ i ∈ source.listing, ∃ r ∈ rows, r.legacyId = i.id) :
    Triple (BooksAre (Settled source definitions tables rows started))
      ((interruptedMigrator settings pipeline).run .migrate)
      (fun _ => BooksAre (Settled source definitions tables rows started))
      (BooksAre (Settled source definitions tables rows started)) := by
  -- the store has a record of every instance that is listed, so the steps behind that question are
  -- never reached
  have hkeeps : (interruptedMigrator settings pipeline).KeepsMigrating
      (BooksAre (Settled source definitions tables rows started))
      (BooksAre (Settled source definitions tables rows started))
      (BooksAre (Settled source definitions tables rows started)) (· ∈ source.listing)
      (fun _ => False) fun _ _ => True :=
    { toKeeps := keeps_books (fun _ hb => hb.sameSource) fun _ hb => hb.sameDefinitions
      latest := (store_reads_books (fun t => Store.latest? t .processInstance) fun _ =>
        Store.latest?_readOnly _).post fun _ _ h => h.1
      count := (Run.engine_reads (stable_booksAre _) (onSource_readOnly fun s => .ok s.count)).post
        fun _ _ h => h.1
      list := fun after limit => by
        refine (Run.engine_reads (stable_booksAre _) (onSource_readOnly fun s =>
          .ok (s.listAfter after limit))).post ?_
        intro page s ⟨hb, hanswer⟩
        refine ⟨hb, ?_⟩
        intro i hi
        have hpage : page = source.listAfter after limit := by
          rw [← hb.sameSource]
          exact (Except.ok.inj hanswer).symm
        subst hpage
        exact (List.mem_filter.1 (List.mem_of_mem_take hi)).1
      «exists» := fun i hi => by
        refine (store_reads_books (fun t => Store.exists t i.id) fun _ =>
          Store.exists_readOnly _).post ?_
        intro found s ⟨hb, hfound⟩
        refine ⟨hb, ?_⟩
        intro hfalse
        obtain ⟨r, hr, hid⟩ := hall i hi
        rw [hb.holds.1, Store.exists_run hb.holds.2, hfalse] at hfound
        have hnone := Except.ok.inj hfound
        rw [Option.isSome_eq_false_iff, Option.isNone_iff_eq_none, List.find?_eq_none] at hnone
        exact hnone r hr (by simpa using hid)
      prepare := fun i _ => (prepare_keeps_books (fun _ hb => hb.sameDefinitions) i).post
        fun _ _ h => ⟨h.1, fun _ _ => trivial⟩
      startNew := fun _ _ _ hno => hno.elim
      skip := fun _ _ _ hno => hno.elim }
  exact hkeeps.run

end Workspace

/-! ## Sessions -/

namespace Session

open Workspace

variable {source : SnapshotSource} {tables : StoreTables}

/-- The session of a migration of this snapshot, whatever the definitions are. -/
def IsAccounted (source : SnapshotSource) (tables : StoreTables) (n : Nat) (s : Session) : Prop :=
  ∃ definitions, Accounted source definitions tables n s.state.books

/-- What happens between the passes changes no row. -/
theorem between_accounted {n : Nat} {e : Event} (he : e.KeepsSnapshot) (hpass : ∀ p, e ≠ .pass p)
    {s : Session} (h : IsAccounted source tables n s) : IsAccounted source tables n (s.step e) := by
  obtain ⟨definitions, hb⟩ := h
  cases e with
  | pass p => exact absurd rfl (hpass p)
  | rebuild => exact ⟨definitions, hb⟩
  | reopen definitions' =>
    refine step_reopen ⟨definitions, hb⟩ ?_
    intro target _
    exact ⟨target.definitions, hb.sameSource, rfl, hb.sameTables, hb.rows⟩
  | reload source' => exact he.elim
  | startByOther request =>
    refine ⟨definitions, ?_⟩
    show Accounted source definitions tables n (s.state.startByOther jobEngine request).books
    rw [Interrupted.books_startByOther]
    exact hb

section

variable (hs : source.Ascending) (hids : (source.listing.map (·.id)).Nodup)
  (htimes : ClockTimes source)
include hs hids htimes

/-- Whatever happens, the rows are those of a first part of the listing. -/
theorem step_accounted {e : Event} (he : e.KeepsSnapshot) {s : Session}
    (h : IsAccounted source tables 0 s) : IsAccounted source tables 0 (s.step e) := by
  cases e with
  | pass p =>
    obtain ⟨definitions, hb⟩ := h
    exact step_pass (run_accounted hs hids htimes p.mode) hb fun r hr => ⟨definitions, hr⟩
  | rebuild => exact between_accounted he (fun _ h => by cases h) h
  | reopen definitions => exact between_accounted he (fun _ h => by cases h) h
  | reload source' => exact he.elim
  | startByOther request => exact between_accounted he (fun _ h => by cases h) h

theorem after_accounted {events : List Event} (hfixed : ∀ e ∈ events, e.KeepsSnapshot)
    {s : Session} (h : IsAccounted source tables 0 s) :
    IsAccounted source tables 0 (s.after events) :=
  after_keeps (fun e he _ hs' => step_accounted hs hids htimes (hfixed e he) hs') h

/-- A migrating pass that comes to its end leaves a row for every instance. -/
theorem complete_of_ok {s : Session} (h : IsAccounted source tables 0 s) {p : Pass}
    (hmode : p.mode = .migrate) {report : Report} (hok : (s.perform p).1 = .ok report) :
    IsAccounted source tables source.listing.length (s.step (.pass p)) := by
  obtain ⟨definitions, hb⟩ := h
  have hrun : Triple (BooksAre (Accounted source definitions tables 0))
      ((interruptedMigrator p.settings p.pipeline).run p.mode)
      (fun _ => BooksAre (Accounted source definitions tables source.listing.length))
      (BooksAre (Accounted source definitions tables 0)) := by
    rw [hmode]
    exact run_accounts hs hids htimes
  exact ⟨definitions, hrun.ok (s := s.runState p) hb hok⟩

end

/-- Once all instances have rows, a migrating pass changes no row and starts no instance. -/
theorem migrate_rests {s : Session}
    (h : IsAccounted source tables source.listing.length s) {p : Pass} (hmode : p.mode = .migrate) :
    IsAccounted source tables source.listing.length (s.step (.pass p)) ∧
      (s.step (.pass p)).state.started = s.state.started ∧
      ∃ rows, s.Records rows ∧ (s.step (.pass p)).Records rows := by
  obtain ⟨definitions, hb⟩ := h
  obtain ⟨rows, hrows, hfirst⟩ := hb.rows
  have hall : ∀ i ∈ source.listing, ∃ r ∈ rows, r.legacyId = i.id := by
    intro i hi
    obtain ⟨k, hk⟩ := List.mem_iff_getElem?.1 hi
    obtain ⟨hkl, _⟩ := List.getElem?_eq_some_iff.1 hk
    exact hfirst.exists_row hk (Nat.lt_of_lt_of_le hkl hfirst.atLeast)
  have hsettled : Settled source definitions tables rows s.state.started s.state.books :=
    ⟨hb.sameSource, hb.sameDefinitions, ⟨hb.sameTables, hrows⟩, rfl⟩
  have hend : Settled source definitions tables rows s.state.started
      (s.step (.pass p)).state.books := by
    refine step_pass (P := fun s' => Settled source definitions tables rows s.state.started
      s'.state.books) (I := BooksAre (Settled source definitions tables rows s.state.started)) ?_
      (s := s) (p := p) hsettled fun r hr => hr
    rw [hmode]
    exact run_rests hall
  refine ⟨⟨definitions, hend.sameSource, hend.sameDefinitions, hend.holds.1, rows, hend.holds.2,
    hfirst⟩, hend.sameStarted, rows, ?_, ?_⟩
  · have htables : s.world.tables = tables := hb.sameTables
    show s.world.tables.Holds rows s.world.database
    rw [htables]
    exact hrows
  · have htables : (s.step (.pass p)).world.tables = tables := hend.holds.1
    show (s.step (.pass p)).world.tables.Holds rows _
    rw [htables]
    exact hend.holds.2

/-- Nothing makes a row for every instance undone. -/
theorem after_complete {events : List Event} (hfixed : ∀ e ∈ events, e.KeepsSnapshot) {s : Session}
    (h : IsAccounted source tables source.listing.length s) :
    IsAccounted source tables source.listing.length (s.after events) := by
  refine after_keeps ?_ h
  intro e he s hs
  cases e with
  | pass p =>
    cases hmode : p.mode with
    | migrate => exact (migrate_rests hs hmode).1
    | retrySkipped =>
      obtain ⟨definitions, hb⟩ := hs
      refine step_pass (I := BooksAre (Accounted source definitions tables source.listing.length))
        ?_ hb fun r hr => ⟨definitions, hr⟩
      rw [hmode]
      exact keepsRetrying_accounted.run
    | listSkipped =>
      obtain ⟨definitions, hb⟩ := hs
      refine step_pass (I := BooksAre (Accounted source definitions tables source.listing.length))
        ?_ hb fun r hr => ⟨definitions, hr⟩
      rw [hmode]
      exact keeps_accounted.runListing
  | rebuild => exact between_accounted (hfixed _ he) (fun _ h => by cases h) hs
  | reopen definitions => exact between_accounted (hfixed _ he) (fun _ h => by cases h) hs
  | reload source' => exact (hfixed _ he).elim
  | startByOther request => exact between_accounted (hfixed _ he) (fun _ h => by cases h) hs

theorem IsAccounted.exists_rows {n : Nat} {s : Session} (h : IsAccounted source tables n s) :
    ∃ rows, s.Records rows ∧ FirstRows source.listing n rows := by
  obtain ⟨definitions, hb⟩ := h
  obtain ⟨rows, hrows, hfirst⟩ := hb.rows
  have htables : s.world.tables = tables := hb.sameTables
  refine ⟨rows, ?_, hfirst⟩
  show s.world.tables.Holds rows s.world.database
  rw [htables]
  exact hrows

/-- Migrations are resumable, lose nothing and are idempotent. Wherever passes over a snapshot lead,
and wherever each of them is broken off, the ids that have a row are those of a first part of the
listing, each once. As soon as a migrating pass comes to its end every instance has its row, and no
later migrating pass asks for an instance to be started or changes a row. -/
theorem migration_resumes (xs : List SnapshotInstance) (w : Workspace) (events : List Event)
    (hids : (xs.map (·.inst.id)).Nodup)
    (htimes : ∀ x ∈ xs, ∀ t, x.inst.startTime = some t →
      t.OnClock ∧ 0 ≤ t.date.year ∧ t.date.year ≤ 9999)
    (hsource : w.source = .ofInstances xs) (hempty : w.tables.Holds [] w.database)
    (hfixed : ∀ e ∈ events, e.KeepsSnapshot) :
    ∃ listing : List SnapshotInstance, listing.Perm xs ∧
      (listing.Pairwise fun a b => a.inst.cursor.lt b.inst.cursor = true) ∧
      (∃ rows, ((start w).after events).Records rows ∧
        rows.map (·.legacyId) <+: listing.map (·.inst.id) ∧ (rows.map (·.legacyId)).Nodup) ∧
      ∀ p report, p.mode = .migrate → (((start w).after events).perform p).1 = .ok report →
        let s := ((start w).after events).step (.pass p)
        (∃ rows, s.Records rows ∧ rows.map (·.legacyId) = listing.map (·.inst.id)) ∧
        ∀ later q, (∀ e ∈ later, e.KeepsSnapshot) → q.mode = .migrate →
          let s' := s.after later
          (s'.step (.pass q)).state.started = s'.state.started ∧
            ∃ rows, s'.Records rows ∧ (s'.step (.pass q)).Records rows := by
  have hperm := SnapshotSource.ofInstances_perm xs
  have hs := SnapshotSource.ofInstances_ascending hids
  have hids' : ((SnapshotSource.ofInstances xs).listing.map (·.id)).Nodup := by
    unfold SnapshotSource.listing
    rw [List.map_map]
    exact (hperm.map _).nodup_iff.2 hids
  have htimes' : ClockTimes (.ofInstances xs) := by
    intro i hi t ht
    obtain ⟨x, hx, rfl⟩ := List.mem_map.1 hi
    exact htimes x (hperm.mem_iff.1 hx) t ht
  -- rows are accounted for by their stamps, of which the id is a part
  have hlisted : ∀ rows : List Row, rows.map Row.stamp <+:
      (SnapshotSource.ofInstances xs).listing.map SourceInstance.stamp →
      rows.map (·.legacyId) <+: (SnapshotSource.ofInstances xs).instances.map (·.inst.id) := by
    intro rows hfirst
    have hprefix := hfirst.map Prod.fst
    unfold SnapshotSource.listing at hprefix
    rw [List.map_map, List.map_map, List.map_map] at hprefix
    exact hprefix
  have hstart : IsAccounted (.ofInstances xs) w.tables 0 (start w) :=
    ⟨w.target.definitions, hsource, rfl, rfl, [], hempty, List.nil_prefix, Nat.le_refl 0⟩
  have hreached := after_accounted hs hids' htimes' hfixed hstart
  refine ⟨_, hperm, List.pairwise_map.1 hs, ?_, ?_⟩
  · obtain ⟨rows, hrows, hfirst⟩ := hreached.exists_rows
    have hprefix := hlisted rows hfirst.first
    refine ⟨rows, hrows, hprefix, hprefix.sublist.nodup ?_⟩
    exact (hperm.map _).nodup_iff.2 hids
  · intro p report hmode hok
    have hcomplete := complete_of_ok hs hids' htimes' hreached hmode hok
    refine ⟨?_, ?_⟩
    · obtain ⟨rows, hrows, hfirst⟩ := hcomplete.exists_rows
      refine ⟨rows, hrows, (hlisted rows hfirst.first).eq_of_length ?_⟩
      have hle := hfirst.length_le
      have hge := hfirst.atLeast
      have hlen : (SnapshotSource.ofInstances xs).listing.length =
          (SnapshotSource.ofInstances xs).instances.length := List.length_map ..
      rw [List.length_map, List.length_map]
      omega
    · intro later q hlater hq
      -- what is complete stays so, and no later pass meets an instance without a row
      exact (migrate_rests (after_complete hlater hcomplete) hq).2

/-- Two instances of one microsecond, the later one with the smaller id. -/
def neighbours : List SnapshotInstance :=
  [⟨⟨"a", "order", "order:1", none, some ⟨0, 900⟩⟩, default, [], .empty⟩,
    ⟨⟨"b", "order", "order:1", none, some ⟨0, 100⟩⟩, default, [], .empty⟩]

/-- A workspace with these instances, no definitions, and no records yet. -/
def neighbourhood : Workspace :=
  ⟨.ofInstances neighbours, ⟨[], .absent, .start []⟩, ⟨""⟩,
    ⟨[⟨"migration_mapping", .mapping []⟩], []⟩⟩

/-- A pass over the neighbours whose sixth call is carried out but not answered: it writes the record
of the first instance. -/
def brokenOff : Pass where
  mode := .migrate
  settings := { pageSize := 1 }
  pipeline := .empty
  incidents := List.replicate 5 {} ++ [{ fate := .cutOff "connection lost" }]

/-- After a broken-off pass the neighbours are resumed in the order of their nanoseconds, although
the records do not tell them apart. -/
theorem migration_resumes_between_neighbours :
    ∃ rows, ((start neighbourhood).after [.pass brokenOff, .rebuild]).Records rows ∧
      (rows.map (·.legacyId) <+: ["b", "a"]) := by
  obtain ⟨listing, hperm, hascending, ⟨rows, hrows, hprefix, _⟩, _⟩ :=
    migration_resumes neighbours neighbourhood [.pass brokenOff, .rebuild] (by decide)
      (by
        intro x hx t ht
        simp only [neighbours, List.mem_cons, List.not_mem_nil, or_false] at hx
        rcases hx with rfl | rfl <;> cases ht <;> unfold Instant.OnClock <;> decide)
      rfl (by simp [StoreTables.Holds, Database.rows, Database.table?, Database.sameName,
        StoreTables.mapping, neighbourhood])
      (by simp [Event.KeepsSnapshot])
  refine ⟨rows, hrows, ?_⟩
  -- of the two orders of the instances only one ascends
  have hids : listing.map (·.inst.id) = ["b", "a"] := by
    rcases listing with _ | ⟨x, _ | ⟨y, _ | ⟨z, rest⟩⟩⟩
    all_goals have hlength := hperm.length_eq
    all_goals try (simp [neighbours] at hlength; done)
    have hx := hperm.mem_iff.1 (show x ∈ [x, y] by simp)
    have hy := hperm.mem_iff.1 (show y ∈ [x, y] by simp)
    have hlt := (List.pairwise_cons.1 hascending).1 y (by simp)
    simp only [neighbours, List.mem_cons, List.not_mem_nil, or_false] at hx hy
    rcases hx with rfl | rfl <;> rcases hy with rfl | rfl <;> revert hlt <;> decide
  rw [hids] at hprefix
  exact hprefix

end Session
end ProcessMigration
