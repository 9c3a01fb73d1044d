import ProcessMigration.Proofs.Failures
import ProcessMigration.Proofs.RowOrder
import ProcessMigration.Proofs.WorkspaceRuns

/-!
# Reading back what was written

The mapping store writes start dates in one form and reads them in a stricter one: a year that is
not between 0 and 9999 is written with a sign, and the reader takes no sign. A record with such a
start date is accepted and cannot be read again.

* `ZonedTime.read_microText_signed`: the reader refuses a signed year, and `Row.dateLt_signed`: such
  a date sorts before every date that can be read;
* `Row.isReadable_ofRecord_iff`: which records can be read back;
* `Store.pages_answered_iff` and `Store.latest?_answered_iff`: which rows must be readable for the
  listings and for the place of the last record;
* `Store.Legible` collects what the passes read, and `Workspace.run_reads`: where it can be read,
  every run reads it, and leaves it so;
* `Store.accepted_record_is_read_back_iff` is the sum of it: what an accepted record does to the
  reading of the store, now and in all later runs.
-/

namespace ProcessMigration

open ProcessMigration.Action (Triple Fails ReadOnly)

/-! ## Signed years -/

namespace Time

theorem pair_of_not_digit {c : Char} (hc : c.isDigit = false) (rest : List Char) :
    pair (c :: rest) = .error .invalid := by
  unfold pair
  cases rest with
  | nil => rfl
  | cons d rest => simp [hc]

theorem yearChars_signed {year : Int} (h : ¬(0 ≤ year ∧ year ≤ 9999)) :
    ∃ sign digits, yearChars year = sign :: digits ∧ sign < '0' := by
  unfold yearChars
  rw [if_neg h]
  split
  · exact ⟨'-', _, rfl, by decide⟩
  · exact ⟨'+', _, rfl, by decide⟩

theorem not_digit_of_lt {c : Char} (hc : c < '0') : c.isDigit = false := by
  rw [Bool.eq_false_iff]
  intro hdigit
  have hrange := (Char.isDigit_iff_toNat.1 hdigit).1
  exact absurd hc (Nat.not_lt.2 hrange)

/-- The reader begins with a digit. -/
theorem strictZoned_invalid {c : Char} {rest : List Char} (hc : c.isDigit = false)
    (hlen : 19 ≤ (c :: rest).length) : strictZoned (c :: rest) = .error .invalid := by
  have hsize : ¬byteLength (c :: rest) < 19 := by
    have hle := length_le_byteLength (c :: rest)
    omega
  unfold strictZoned strictDate
  simp only [hsize, if_false, bind, Except.bind, pair_of_not_digit hc]

theorem digit_of_strictZoned {cs : List Char} {z : ZonedTime} (h : strictZoned cs = .ok z) :
    ∃ c rest, cs = c :: rest ∧ c.isDigit = true := by
  have hlong : ¬byteLength cs < 19 := by
    intro hshort
    unfold strictZoned at h
    simp only [hshort, if_true] at h
    cases h
  cases cs with
  | nil => exact absurd (show (0 : Nat) < 19 by omega) hlong
  | cons c rest =>
    refine ⟨c, rest, rfl, ?_⟩
    by_contra hc
    unfold strictZoned strictDate at h
    simp only [hlong, if_false, bind, Except.bind, pair_of_not_digit (Bool.eq_false_iff.2 hc)] at h
    cases h

end Time

open Time

/-- A year with a sign is written in front of the date. -/
theorem Instant.microText_signed {t : Instant} (hyear : ¬(0 ≤ t.date.year ∧ t.date.year ≤ 9999)) :
    ∃ sign rest, t.microText.toList = sign :: rest ∧ sign < '0' := by
  obtain ⟨sign, digits, hchars, hsign⟩ := yearChars_signed hyear
  rw [t.microText_toList]
  unfold dateChars
  rw [hchars]
  exact ⟨sign, _, rfl, hsign⟩

/-- A start date with a signed year cannot be read back. -/
theorem ZonedTime.read_microText_signed {t : Instant}
    (hyear : ¬(0 ≤ t.date.year ∧ t.date.year ≤ 9999)) :
    ZonedTime.read t.microText = .error .invalid := by
  obtain ⟨sign, rest, hchars, hsign⟩ := Instant.microText_signed hyear
  have hlen := t.length_microText_ge
  unfold ZonedTime.read
  rw [hchars] at hlen ⊢
  exact strictZoned_invalid (not_digit_of_lt hsign) hlen

/-- A start date with a signed year sorts before every start date that can be read. -/
theorem Row.dateLt_signed {t : Instant} (hyear : ¬(0 ≤ t.date.year ∧ t.date.year ≤ 9999))
    {text : String} {date : Option Instant} (hread : Row.readDate (some text) = .ok date) :
    Row.dateLt (some t.microText) (some text) = true := by
  obtain ⟨sign, rest, hchars, hsign⟩ := Instant.microText_signed hyear
  have hdigit : ∃ c rest, text.toList = c :: rest ∧ c.isDigit = true := by
    unfold Row.readDate at hread
    dsimp only at hread
    split at hread
    · next z hz => exact digit_of_strictZoned hz
    · cases hread
  obtain ⟨c, rest', htext, hc⟩ := hdigit
  have hlt : sign < c := Nat.lt_of_lt_of_le hsign (Char.isDigit_iff_toNat.1 hc).1
  unfold Row.dateLt
  rw [decide_eq_true_eq, String.lt_iff, hchars, htext]
  exact List.cons_lt_cons_iff.2 (.inl hlt)

/-! ## Rows that can be read -/

/-- The source decoder can produce this start date. -/
def Instant.Decodable (start : Option Instant) : Prop :=
  ∀ t, start = some t → ∃ text, Instant.read? text = some t

/-- A start date of a document fails to be dated by its year only. -/
theorem Instant.signed_of_decodable {start : Option Instant} (h : Decodable start)
    (hdated : ¬Dated start) : ∃ t, start = some t ∧ ¬(0 ≤ t.date.year ∧ t.date.year ≤ 9999) := by
  unfold Dated at hdated
  push Not at hdated
  obtain ⟨t, ht, hyear⟩ := hdated
  obtain ⟨text, hread⟩ := h t ht
  refine ⟨t, ht, ?_⟩
  intro hplain
  have hlate := hyear (Instant.read?_onClock hread) hplain.1
  omega

/-- The record with its start date cut to microseconds. -/
def MappingRecord.cut (r : MappingRecord) : MappingRecord :=
  { r with startDate := r.startDate.map Instant.cut }

namespace Row

/-- The row can be read as a record. -/
def IsReadable (r : Row) : Prop := ∃ record, Store.read r = .ok record

/-- What can be read is of the one entity type, and its start date can be read. -/
theorem isReadable_iff {r : Row} : r.IsReadable ↔
    r.isOf .processInstance = true ∧ ∃ date, readDate r.startDate = .ok date := by
  have htype : r.isOf .processInstance = true ↔
      EntityType.ofTag? r.entityType = some .processInstance := by
    unfold isOf EntityType.ofTag?
    simp
  have hone : ∀ type, EntityType.ofTag? r.entityType = some type → type = .processInstance := by
    intro type _
    cases type
    rfl
  rw [htype]
  unfold IsReadable Store.read Row.record
  constructor
  · rintro ⟨record, hread⟩
    cases hof : EntityType.ofTag? r.entityType with
    | none =>
      rw [hof] at hread
      cases hread
    | some type =>
      refine ⟨congrArg some (hone type hof), ?_⟩
      rw [hof] at hread
      cases hdate : readDate r.startDate with
      | ok date => exact ⟨date, rfl⟩
      | error e =>
        rw [hdate] at hread
        cases hread
  · rintro ⟨hof, date, hdate⟩
    rw [hof, hdate]
    exact ⟨_, rfl⟩

theorem read_ofRecord_signed {record : MappingRecord} {t : Instant} (ht : record.startDate = some t)
    (hyear : ¬(0 ≤ t.date.year ∧ t.date.year ≤ 9999)) :
    Store.read (.ofRecord record) =
      .error (.database (.unreadable 3 (.timestamp t.microText .invalid))) := by
  have hdate : readDate (record.startDate.map Instant.microText) =
      .error (.timestamp t.microText .invalid) := by
    rw [ht]
    unfold readDate
    simp only [Option.map_some, ZonedTime.read_microText_signed hyear]
  rw [read_ofRecord_eq, hdate]

/-- A record with a start date of a document can be read back if its year needs no sign. -/
theorem isReadable_ofRecord_iff {record : MappingRecord}
    (hdecodable : Instant.Decodable record.startDate) :
    (ofRecord record).IsReadable ↔ Instant.Dated record.startDate := by
  constructor
  · rintro ⟨record', hread⟩
    by_contra hdated
    obtain ⟨t, ht, hyear⟩ := Instant.signed_of_decodable hdecodable hdated
    rw [read_ofRecord_signed ht hyear] at hread
    cases hread
  · intro hdated
    exact ⟨_, read_ofRecord hdated⟩

end Row

/-! ## Reading the store -/

namespace Store

variable {t : StoreTables} {rows : List Row} {db db' : Database}

theorem exists_readAs_iff {rows : List Row} :
    (∃ records, ReadAs rows records) ↔ ∀ r ∈ rows, r.IsReadable := by
  constructor
  · rintro ⟨records, hread⟩ r hr
    obtain ⟨k, hk, rfl⟩ := List.mem_iff_getElem.1 hr
    have hlen : k < records.length := hread.length_eq ▸ hk
    exact ⟨_, hread.get hk hlen⟩
  · intro hreadable
    induction rows with
    | nil => exact ⟨[], .nil⟩
    | cons r rest ih =>
      obtain ⟨record, hr⟩ := hreadable r List.mem_cons_self
      obtain ⟨records, hrest⟩ := ih fun r' hr' => hreadable r' (List.mem_cons_of_mem r hr')
      exact ⟨record :: records, .cons hr hrest⟩

/-- Where the limit counts as none, a cut from the beginning leaves nothing out. -/
theorem cut_whole {α : Type} {limit : Nat} (hlimit : signed limit < 0) (xs : List α) :
    cut 0 limit xs = xs := by
  have hzero : signed 0 = 0 := rfl
  unfold cut
  rw [hzero, if_pos hlimit]
  rfl

/-- There is a limit that counts as none. -/
theorem exists_signed_neg : ∃ limit, signed limit < 0 := ⟨2 ^ 63, by decide⟩

/-- A page of a whole listing is answered only if the rows of the listing can be read. -/
theorem readable_of_whole_page (h : t.Holds rows db) (keep : Row → Bool) {limit : Nat}
    (hlimit : signed limit < 0) {records : List MappingRecord}
    (hpage : ((page t .processInstance keep 0 limit).run db).1 = .ok records) :
    ∀ r ∈ rows, r.isOf .processInstance = true → keep r = true → r.IsReadable := by
  intro r hr htype hkeep
  rw [page_run h, cut_whole hlimit] at hpage
  refine exists_readAs_iff.1 ⟨records, readAs_iff.1 hpage⟩ r ?_
  rw [Row.mem_sorted, List.mem_filter, htype, hkeep]
  exact ⟨hr, rfl⟩

/-- Every page of a listing is answered exactly if the rows of the listing can be read. -/
theorem pages_answered_iff (h : t.Holds rows db) (keep : Row → Bool) :
    (∀ offset limit, ∃ records,
      ((page t .processInstance keep offset limit).run db).1 = .ok records) ↔
      ∀ r ∈ rows, r.isOf .processInstance = true → keep r = true → r.IsReadable := by
  constructor
  · intro hpages
    obtain ⟨limit, hlimit⟩ := exists_signed_neg
    obtain ⟨records, hpage⟩ := hpages 0 limit
    exact readable_of_whole_page h keep hlimit hpage
  · intro hreadable offset limit
    have hcut : ∀ r ∈ cut offset limit (Row.sorted (rows.filter fun r =>
        r.isOf .processInstance && keep r)), r.IsReadable := by
      intro r hr
      have hlisted := Row.mem_sorted.1 ((cut_sublist offset limit _).subset hr)
      rw [List.mem_filter, Bool.and_eq_true] at hlisted
      exact hreadable r hlisted.1 hlisted.2.1 hlisted.2.2
    obtain ⟨records, hread⟩ := exists_readAs_iff.2 hcut
    refine ⟨records, ?_⟩
    rw [page_run h]
    dsimp only
    exact readAs_iff.2 hread

/-- The row has the last start date of the listing. -/
def HasLastDate (rows : List Row) (r : Row) : Prop :=
  r ∈ rows ∧ r.isOf .processInstance = true ∧
    ∀ r' ∈ rows, r'.isOf .processInstance = true → Row.dateLt r.startDate r'.startDate = false

/-- The last row of a listing has the last start date. -/
theorem hasLastDate_of_getLast? {r : Row}
    (h : (Row.sorted (rows.filter (Row.isOf .processInstance))).getLast? = some r) :
    HasLastDate rows r := by
  obtain ⟨earlier, hlisting⟩ := List.getLast?_eq_some_iff.1 h
  have hlisted : ∀ r', r' ∈ rows ∧ r'.isOf .processInstance = true ↔ r' ∈ earlier ++ [r] := by
    intro r'
    rw [← hlisting, Row.mem_sorted, List.mem_filter]
  have hlast := (hlisted r).2 (List.mem_append_right _ List.mem_cons_self)
  refine ⟨hlast.1, hlast.2, ?_⟩
  intro r' hr' htype
  rcases List.mem_append.1 ((hlisted r').1 ⟨hr', htype⟩) with hbefore | hsame
  · -- a listing is in order
    have horder := Row.sorted_pairwise (rows.filter (Row.isOf .processInstance))
    rw [hlisting] at horder
    have hle := (List.pairwise_append.1 horder).2.2 r' hbefore r List.mem_cons_self
    rw [Bool.not_eq_true'] at hle
    rw [Bool.eq_false_iff] at hle ⊢
    intro hdate
    exact hle (Row.lt_iff.2 (.inl hdate))
  · rw [List.mem_singleton.1 hsame]
    exact Row.dateLt_irrefl _

/-- The place of the last record is answered exactly if the last start date can be read. -/
theorem latest?_answered_iff (h : t.Holds rows db) :
    (∃ place, ((latest? t .processInstance).run db).1 = .ok place) ↔
      ∀ r, HasLastDate rows r → ∃ date, Row.readDate r.startDate = .ok date := by
  unfold latest?
  rw [Action.run_bind, rows_run h]
  dsimp only
  cases hlast : (Row.sorted (rows.filter (Row.isOf .processInstance))).getLast? with
  | none =>
    refine ⟨?_, fun _ => ⟨none, rfl⟩⟩
    intro _ r hr
    rw [List.getLast?_eq_none_iff] at hlast
    have hmem : r ∈ Row.sorted (rows.filter (Row.isOf .processInstance)) :=
      Row.mem_sorted.2 (List.mem_filter.2 ⟨hr.1, hr.2.1⟩)
    rw [hlast] at hmem
    cases hmem
  | some last =>
    have hlatest := hasLastDate_of_getLast? hlast
    dsimp only
    constructor
    · rintro ⟨place, hplace⟩ r hr
      -- two rows with the last start date have the same one
      have hsame : r.startDate = last.startDate := by
        rcases Row.dateLt_connex r.startDate last.startDate with hlt | heq | hgt
        · rw [hr.2.2 last hlatest.1 hlatest.2.1] at hlt
          cases hlt
        · exact heq
        · rw [hlatest.2.2 r hr.1 hr.2.1] at hgt
          cases hgt
      rw [hsame]
      cases hdate : Row.readDate last.startDate with
      | ok date => exact ⟨date, rfl⟩
      | error e =>
        rw [hdate] at hplace
        cases hplace
    · intro hreadable
      obtain ⟨date, hdate⟩ := hreadable last hlatest
      rw [hdate]
      exact ⟨_, rfl⟩

/-- The answer to a request for a record. -/
theorem find?_run (h : t.Holds rows db) (id : String) :
    (find? t id).run db =
      (match rows.find? fun r => r.legacyId == id with
        | none => .ok none
        | some r => (read r).map some, db) := by
  unfold find?
  rw [Action.run_bind, row?_run h]
  dsimp only
  cases rows.find? fun r => r.legacyId == id with
  | none => rfl
  | some r =>
    dsimp only
    rw [Action.run_bind, Action.run_ofExcept]
    cases read r <;> rfl

/-! ## Failures to read -/

/-- A question that is answered where the rows are such does not fail there. -/
theorem fails_unless {α : Type} {x : StoreAction α} {J : Database → Prop} (hasks : ReadOnly x)
    (hx : ∀ db, J db → ∃ a, (x.run db).1 = .ok a) :
    Fails x fun e db => e.IsUnreadable → ¬J db := by
  intro db
  have hstays := hasks db
  have hanswered := hx db
  rcases hrun : x.run db with ⟨r, db'⟩
  rw [hrun] at hstays hanswered
  simp only at hstays
  subst hstays
  cases r with
  | ok a => trivial
  | error e =>
    intro _ hdb
    obtain ⟨a, ha⟩ := hanswered hdb
    cases ha

theorem not_unreadable_of_rows {name : String} {cause : DatabaseError}
    (h : db.rows name = .error cause) : ¬(StoreError.database cause).IsUnreadable := by
  unfold Database.rows at h
  split at h
  · cases h
  · cases h
    rintro ⟨column, cause, h⟩
    cases h

/-- A record is refused for another reason than that something cannot be read. -/
theorem insert_readably (record : MappingRecord) :
    Fails (insert t record) fun e _ => ¬e.IsUnreadable := by
  intro db
  cases hrows : db.rows t.mapping with
  | ok rows =>
    rw [insert_run hrows]
    split_ifs
    · rintro ⟨column, cause, h⟩
      cases h
    · trivial
    · rintro ⟨column, cause, h⟩
      cases h
  | error cause =>
    have hrun : (insert t record).run db = (.error (.database cause), db) := by
      have hmissing : ∀ table column, cause ≠ .notUnique table column := by
        rintro table column rfl
        unfold Database.rows at hrows
        split at hrows <;> cases hrows
      unfold Action.run insert Database.insertRow
      rw [hrows]
      cases cause with
      | notUnique table column => exact absurd rfl (hmissing table column)
      | _ => rfl
    rw [hrun]
    exact not_unreadable_of_rows hrows

/-- So is an update. -/
theorem update_readably (legacyId : String) (key : Int) :
    Fails (update t legacyId key) fun e _ => ¬e.IsUnreadable := by
  intro db
  cases hrows : db.rows t.mapping with
  | ok rows =>
    rw [update_run hrows]
    split_ifs
    · trivial
    · rintro ⟨column, cause, h⟩
      cases h
  | error cause =>
    have hrun : (update t legacyId key).run db = (.error (.database cause), db) := by
      unfold Action.run update
      rw [hrows]
    rw [hrun]
    exact not_unreadable_of_rows hrows

/-- The place of the last record is not answered only because its start date cannot be read. -/
theorem latest?_unreadable (h : t.Holds rows db) {e : StoreError}
    (hrun : ((latest? t .processInstance).run db).1 = .error e) : e.IsUnreadable := by
  unfold latest? at hrun
  rw [Action.run_bind, rows_run h] at hrun
  dsimp only at hrun
  split at hrun
  · cases hrun
  · split at hrun
    · cases hrun
    · cases hrun
      exact ⟨_, _, rfl⟩

/-! ## What the passes read -/

/-- What the passes read can be read: the skipped rows, and the last start date. -/
structure Legible (rows : List Row) : Prop where
  skipped : ∀ r ∈ rows, r.isOf .processInstance = true → r.isSkipped = true → r.IsReadable
  latest : ∀ r, HasLastDate rows r → ∃ date, Row.readDate r.startDate = .ok date

theorem legible_of_readable (h : ∀ r ∈ rows, r.IsReadable) : Legible rows where
  skipped r hr _ _ := h r hr
  latest r hr := (Row.isReadable_iff.1 (h r hr.1)).2

/-- A row with the last start date has it among fewer rows. -/
theorem HasLastDate.of_append {later : List Row} {r : Row} (h : HasLastDate (rows ++ later) r)
    (hr : r ∈ rows) : HasLastDate rows r :=
  ⟨hr, h.2.1, fun r' hr' => h.2.2 r' (List.mem_append_left later hr')⟩

theorem Legible.append (h : Legible rows) {r : Row} (hr : r.IsReadable) :
    Legible (rows ++ [r]) where
  skipped r' hr' htype hskipped := by
    rcases List.mem_append.1 hr' with hold | hnew
    · exact h.skipped r' hold htype hskipped
    · rw [List.mem_singleton.1 hnew]
      exact hr
  latest r' hr' := by
    rcases List.mem_append.1 hr'.1 with hold | hnew
    · exact h.latest r' (hr'.of_append hold)
    · rw [List.mem_singleton.1 hnew]
      exact (Row.isReadable_iff.1 hr).2

/-- A flip leaves fewer skipped rows and all start dates. -/
theorem Legible.flippedRows (h : Legible rows) (legacyId : String) (key : Int) :
    Legible (Store.flippedRows legacyId key rows) where
  skipped r hr htype hskipped := by
    obtain ⟨r', hr', rfl⟩ := List.mem_map.1 hr
    by_cases hflips : flips legacyId r'
    · rw [if_pos hflips] at hskipped
      cases hskipped
    · rw [if_neg hflips] at htype hskipped ⊢
      exact h.skipped r' hr' htype hskipped
  latest r hr := by
    have hsame : ∀ r', (if flips legacyId r' then flipped key r' else r').startDate = r'.startDate ∧
        (if flips legacyId r' then flipped key r' else r').isOf .processInstance =
          r'.isOf .processInstance := by
      intro r'
      split <;> exact ⟨rfl, rfl⟩
    obtain ⟨hmem, htype, hlast⟩ := hr
    obtain ⟨r', hr', rfl⟩ := List.mem_map.1 hmem
    rw [(hsame r').2] at htype
    rw [(hsame r').1]
    refine h.latest r' ⟨hr', htype, ?_⟩
    intro r₂ hr₂ htype₂
    have hbefore := hlast _ (List.mem_map_of_mem hr₂) ((hsame r₂).2.trans htype₂)
    rw [(hsame r').1, (hsame r₂).1] at hbefore
    exact hbefore

end Store

/-- What the passes read of these tables can be read. -/
def StoreTables.Legible (t : StoreTables) (db : Database) : Prop :=
  ∃ rows, Store.Legible rows ∧ t.Holds rows db

namespace Store

variable {t : StoreTables} {rows : List Row} {db db' : Database}

theorem insert_legible {record : MappingRecord} (hdated : Instant.Dated record.startDate) :
    Triple t.Legible (insert t record) (fun _ => t.Legible) t.Legible := by
  apply Triple.of_exists
  intro rows
  apply Triple.of_and
  intro hlegible
  refine (insert_triple t rows record).ends ?_ ?_
  · intro _ db ⟨hdb, _⟩
    exact ⟨_, hlegible.append ⟨_, Row.read_ofRecord hdated⟩, hdb⟩
  · intro db hdb
    exact ⟨rows, hlegible, hdb⟩

theorem update_legible (legacyId : String) (key : Int) :
    Triple t.Legible (update t legacyId key) (fun _ => t.Legible) t.Legible := by
  apply Triple.of_exists
  intro rows
  apply Triple.of_and
  intro hlegible
  refine (update_triple t rows legacyId key).ends ?_ ?_
  · intro _ db ⟨hdb, _⟩
    exact ⟨_, hlegible.flippedRows legacyId key, hdb⟩
  · intro db hdb
    exact ⟨rows, hlegible, hdb⟩

end Store

/-! ## Runs -/

/-- The run has failed to read a column of some row. -/
def MigrationError.IsUnreadable (e : MigrationError) : Prop :=
  ∃ cause, e = .store cause ∧ cause.IsUnreadable

namespace Workspace

variable {m : Migrator Workspace} {source : SnapshotSource} {t : StoreTables}

/-- The call fails to read something only if something cannot be read. -/
def ReadsLegibly (e : StoreError) (w : Workspace) : Prop :=
  e.IsUnreadable → ¬w.tables.Legible w.database

theorem onStore_reads {α : Type} {x : StoreTables → StoreAction α}
    (hx : ∀ t, Fails (x t) fun e db => e.IsUnreadable → ¬t.Legible db) :
    Fails (onStore x) ReadsLegibly := by
  intro w
  have hpart : Fails ((x w.tables).onPart Workspace.database
      fun database (w : Workspace) => { w with database }) fun e w' =>
        e.IsUnreadable → ¬w.tables.Legible w'.database :=
    Fails.onPart fun _ => hx w.tables
  have hrun := hpart w
  have htables : ((onStore x).run w).2.tables = w.tables := rfl
  unfold Action.run at hrun htables ⊢
  unfold onStore at htables ⊢
  split at hrun
  · trivial
  · next e w' heq =>
    rw [heq] at htables
    unfold ReadsLegibly
    rw [htables]
    exact hrun

theorem asksStore_reads {α : Type} {x : StoreTables → StoreAction α} (hasks : ∀ t, ReadOnly (x t))
    (hx : ∀ t rows db, Store.Legible rows → t.Holds rows db → ∃ a, ((x t).run db).1 = .ok a) :
    Fails (onStore x) ReadsLegibly := by
  apply onStore_reads
  intro t
  refine Store.fails_unless (hasks t) ?_
  rintro db ⟨rows, hlegible, hrows⟩
  exact hx t rows db hlegible hrows

/-- Each call of a store asks for no more than what the passes can read. -/
theorem recordStore_refuses : recordStore.Refuses ReadsLegibly := by
  have hwrites : ∀ x : StoreTables → StoreAction Unit,
      (∀ t, Fails (x t) fun e _ => ¬e.IsUnreadable) → Fails (onStore x) ReadsLegibly := by
    intro _ hx
    exact onStore_reads fun t => (hx t).mono fun _ _ hnot h => absurd h hnot
  constructor
  case latest =>
    refine asksStore_reads (x := fun t => Store.latest? t .processInstance)
      (fun _ => Store.latest?_readOnly _) ?_
    intro t rows db hlegible hrows
    exact (Store.latest?_answered_iff hrows).2 hlegible.latest
  case «exists» =>
    intro id
    refine asksStore_reads (x := fun t => Store.exists t id) (fun _ => Store.exists_readOnly id) ?_
    intro t rows db _ hrows
    rw [Store.exists_run hrows id]
    exact ⟨_, rfl⟩
  case targetKey =>
    intro id
    refine asksStore_reads (x := fun t => Store.targetKey? t id)
      (fun _ => Store.targetKey?_readOnly id) ?_
    intro t rows db _ hrows
    rw [Store.targetKey?_run hrows id]
    exact ⟨_, rfl⟩
  case insert =>
    intro record
    exact hwrites (fun t => Store.insert t record) fun t => Store.insert_readably record
  case update =>
    intro id key
    exact hwrites (fun t => Store.update t id key) fun t => Store.update_readably id key
  case countSkipped =>
    refine asksStore_reads (x := fun t => Store.countSkipped t .processInstance)
      (fun _ => Store.countSkipped_readOnly _) ?_
    intro t rows db _ hrows
    rw [Store.countSkipped_answered hrows]
    exact ⟨_, rfl⟩
  case skipped =>
    intro offset limit
    refine asksStore_reads (x := fun t => Store.skipped t .processInstance offset limit)
      (fun _ => Store.skipped_readOnly _ _ _) ?_
    intro t rows db hlegible hrows
    exact (Store.pages_answered_iff hrows Row.isSkipped).2 hlegible.skipped offset limit

theorem store_refuses (hm : m.OnFiles) : m.env.store.Refuses ReadsLegibly := by
  have hrefused : Fails (Action.fail (.database .readOnly) : Action Workspace StoreError Unit)
      ReadsLegibly := by
    apply Fails.fail
    intro w
    rintro ⟨column, cause, h⟩
    cases h
  rcases hm with h | h
  · rw [h]
    exact recordStore_refuses
  · -- a store that takes no writes refuses them without reading
    rw [h]
    exact { recordStore_refuses with insert := fun _ => hrefused, update := fun _ _ => hrefused }

/-- Where the passes can read the store, over a snapshot whose start times are missing or have a
year of four digits, a run does not fail to read it and leaves it so. -/
theorem run_reads (hm : m.OnFiles) (hdated : ∀ i ∈ source.listing, Instant.Dated i.startTime)
    (mode : Mode) {s : RunState Workspace} (hs : Run.Over source t t.Legible s) :
    (∀ e, ((m.run mode).run s).1 = .error e → ¬e.IsUnreadable) ∧
      Run.Over source t t.Legible ((m.run mode).run s).2 := by
  have hinsert : ∀ record, source.Has record →
      Triple t.Legible (Store.insert t record) (fun _ => t.Legible) t.Legible := by
    rintro record ⟨i, hi, _, hstart⟩
    exact Store.insert_legible (hstart ▸ hdated i hi)
  have hkept : Run.Over source t t.Legible ((m.run mode).run s).2 :=
    (run_keeps_over hm hinsert Store.update_legible mode).state hs
  refine ⟨?_, hkept⟩
  rintro e hrun ⟨cause, rfl, hcause⟩
  have hblames := (Migrator.run_fails (store_refuses hm) mode).error hrun cause rfl hcause
  rw [hkept.2.1] at hblames
  exact hblames hkept.2.2

/-! ## Runs that cannot read -/

/-- Where the last start date cannot be read, no run that migrates comes any further. -/
theorem migrate_unreadable (settings : MigrationSettings) (pipeline : Pipeline)
    {s : RunState Workspace} {rows : List Row} (hrows : s.world.tables.Holds rows s.world.database)
    (hlatest : ¬∀ r, Store.HasLastDate rows r → ∃ date, Row.readDate r.startDate = .ok date) :
    ∃ e, (((migrator settings pipeline).run .migrate).run s).1 = .error e ∧ e.IsUnreadable := by
  have hstore := Store.latest?_answered_iff hrows
  have hunread := fun e => Store.latest?_unreadable (e := e) hrows
  cases hrun : ((Store.latest? s.world.tables .processInstance).run s.world.database).1 with
  | ok place => exact absurd (hstore.1 ⟨place, hrun⟩) hlatest
  | error e =>
    refine ⟨.store e, ?_, e, rfl, hunread e hrun⟩
    have hcall : (Run.store (migrator settings pipeline).env.store.latest?).run
        (Migrator.fresh .migrate s) = (.error (.store e), Migrator.fresh .migrate s) :=
      Run.run_query (x := fun t => Store.latest? t .processInstance)
        (s := Migrator.fresh .migrate s) (r := .error e) (fun _ => Store.latest?_readOnly _) hrun
    have hpass : ((migrator settings pipeline).pass .migrate).run (Migrator.fresh .migrate s) =
        (.error (.store e), Migrator.fresh .migrate s) := Action.run_bind_error hcall _
    rw [Migrator.run_error hpass]

/-- Where a skipped row cannot be read, there is no page of all the skipped ones. -/
theorem page_unreadable {w : Workspace} {rows : List Row} (hrows : w.tables.Holds rows w.database)
    (hskipped : ¬∀ r ∈ rows, r.isOf .processInstance = true → r.isSkipped = true → r.IsReadable) :
    ∃ limit e, ((Store.skipped w.tables .processInstance 0 (max limit 1)).run w.database).1 =
      .error e ∧ e.IsUnreadable := by
  obtain ⟨limit, hlimit⟩ := Store.exists_signed_neg
  have hmax : max limit 1 = limit := by
    refine Nat.max_eq_left (Nat.one_le_iff_ne_zero.2 ?_)
    rintro rfl
    exact absurd hlimit (by decide)
  refine ⟨limit, ?_⟩
  rw [hmax]
  cases hanswer : ((Store.skipped w.tables .processInstance 0 limit).run w.database).1 with
  | ok records =>
    exact absurd (Store.readable_of_whole_page hrows Row.isSkipped hlimit hanswer) hskipped
  | error e =>
    rw [Store.skipped_run hrows] at hanswer
    dsimp only at hanswer
    exact ⟨e, rfl, Store.mapM_read_eq_error hanswer⟩

/-- Where a skipped row cannot be read, a run that lists the skipped ones on one page fails to. -/
theorem list_unreadable {s : RunState Workspace} {rows : List Row}
    (hrows : s.world.tables.Holds rows s.world.database)
    (hskipped : ¬∀ r ∈ rows, r.isOf .processInstance = true → r.isSkipped = true → r.IsReadable) :
    ∃ settings pipeline e,
      (((migrator settings pipeline).run .listSkipped).run s).1 = .error e ∧ e.IsUnreadable := by
  obtain ⟨limit, e, hpage, hunread⟩ := page_unreadable hrows hskipped
  have htotal : ¬(rows.countP fun r => r.isOf .processInstance && r.isSkipped) = 0 := by
    intro hnone
    apply hskipped
    intro r hr htype hskip
    refine absurd ?_ (List.countP_eq_zero.1 hnone r hr)
    rw [htype, hskip]
    rfl
  let m := migrator { pageSize := limit } .empty
  let s₀ : RunState Workspace := Migrator.fresh .listSkipped s
  let s₁ : RunState Workspace := { s₀ with output := ⟨Migrator.skippedHeading, none⟩ }
  have hcount : (Run.store m.env.store.countSkipped).run s₀ =
      (.ok (rows.countP fun r => r.isOf .processInstance && r.isSkipped), s₀) :=
    Run.run_query (x := fun t => Store.countSkipped t .processInstance) (s := s₀) (r := .ok _)
      (fun _ => Store.countSkipped_readOnly _)
      (congrArg Prod.fst (Store.countSkipped_answered hrows))
  have hheading : (Run.print Migrator.skippedHeading).run s₀ = (.ok (), s₁) := Run.run_print rfl _
  have hfetch : (m.skippedPage ⟨0, max limit 1, none⟩).run s₁ = (.error (.store e), s₁) :=
    Run.run_query (x := fun t => Store.skipped t .processInstance 0 (max limit 1)) (s := s₁)
      (r := .error e) (fun _ => Store.skipped_readOnly _ _ _) hpage
  have hlist : m.listSkipped.run s₀ = (.error (.store e), s₁) := by
    unfold Migrator.listSkipped
    rw [Action.run_bind_ok hcount, if_neg htotal, Action.run_bind_ok hheading]
    refine Action.run_bind_error (Paging.forPages_error ?_ hfetch _) _
    unfold Paging.request? Paging.totalReached Paging.start
    simp [htotal]
    rfl
  have hpass : (m.pass .listSkipped).run s₀ = (.error (.store e), s₁) :=
    Action.run_bind_error hlist _
  refine ⟨{ pageSize := limit }, .empty, .store e, ?_, e, rfl, hunread⟩
  exact congrArg Prod.fst (Migrator.run_error hpass)

end Workspace

/-! ## All later runs -/

/-- A run to be made. -/
structure PlannedRun where
  mode : Mode
  settings : MigrationSettings
  pipeline : Pipeline

namespace Workspace

/-- Makes a run. -/
def perform (s : RunState Workspace) (p : PlannedRun) :
    Except MigrationError Report × RunState Workspace :=
  ((migrator p.settings p.pipeline).run p.mode).run s

/-- The state after some runs, one after the other. -/
def afterRuns (s : RunState Workspace) (ps : List PlannedRun) : RunState Workspace :=
  ps.foldl (fun s p => (perform s p).2) s

/-- Whatever runs are made over this workspace, none of them fails to read the mapping store. -/
def StaysReadable (w : Workspace) : Prop :=
  ∀ earlier p e, (perform (afterRuns { world := w } earlier) p).1 = .error e → ¬e.IsUnreadable

variable {source : SnapshotSource} {t : StoreTables} {rows : List Row}

theorem afterRuns_legible (hdated : ∀ i ∈ source.listing, Instant.Dated i.startTime)
    (ps : List PlannedRun) {s : RunState Workspace} (hs : Run.Over source t t.Legible s) :
    Run.Over source t t.Legible (afterRuns s ps) := by
  induction ps generalizing s with
  | nil => exact hs
  | cons p ps ih => exact ih (run_reads (.inl rfl) hdated p.mode hs).2

/-- All runs can read a store exactly if the skipped rows and the last start date can be read. -/
theorem staysReadable_iff {w : Workspace} (hrows : w.tables.Holds rows w.database)
    (hdated : ∀ i ∈ w.source.listing, Instant.Dated i.startTime) :
    w.StaysReadable ↔ Store.Legible rows := by
  constructor
  · intro hreadable
    constructor
    · by_contra hskipped
      obtain ⟨settings, pipeline, e, hrun, hunread⟩ :=
        list_unreadable (s := { world := w }) hrows hskipped
      exact hreadable [] ⟨.listSkipped, settings, pipeline⟩ e hrun hunread
    · by_contra hlatest
      obtain ⟨e, hrun, hunread⟩ :=
        migrate_unreadable {} .empty (s := { world := w }) hrows hlatest
      exact hreadable [] ⟨.migrate, {}, .empty⟩ e hrun hunread
  · intro hlegible earlier p e hrun
    have hstart : Run.Over w.source w.tables w.tables.Legible { world := w } :=
      ⟨rfl, rfl, rows, hlegible, hrows⟩
    exact (run_reads (.inl rfl) hdated p.mode (afterRuns_legible hdated earlier hstart)).1 e hrun

end Workspace

namespace Store

variable {t : StoreTables} {rows : List Row} {db db' : Database} {record : MappingRecord}

/-- A record whose start date cannot be read has the last one only if no other row has a start
date. -/
theorem lastDate_append_iff (hreadable : ∀ r ∈ rows, r.IsReadable)
    (hdecodable : Instant.Decodable record.startDate) :
    (∀ r, HasLastDate (rows ++ [.ofRecord record]) r →
      ∃ date, Row.readDate r.startDate = .ok date) ↔
      Instant.Dated record.startDate ∨ ∃ r ∈ rows, r.startDate.isSome = true := by
  have hnew := Row.isReadable_ofRecord_iff hdecodable
  constructor
  · intro hlast
    by_contra hnot
    push Not at hnot
    obtain ⟨hdated, hnone⟩ := hnot
    have hlastDate : HasLastDate (rows ++ [.ofRecord record]) (.ofRecord record) := by
      refine ⟨List.mem_append_right _ List.mem_cons_self, Row.isOf_ofRecord record, ?_⟩
      intro r hr _
      rcases List.mem_append.1 hr with hold | hsame
      · -- a missing start date sorts first
        have hmissing : r.startDate = none := by
          simpa using hnone r hold
        rw [hmissing]
        cases (Row.ofRecord record).startDate <;> rfl
      · rw [List.mem_singleton.1 hsame]
        exact Row.dateLt_irrefl _
    obtain ⟨date, hdate⟩ := hlast _ hlastDate
    exact hdated (hnew.1 (Row.isReadable_iff.2 ⟨Row.isOf_ofRecord record, date, hdate⟩))
  · rintro hor r hr
    by_cases hdated : Instant.Dated record.startDate
    · exact ((legible_of_readable hreadable).append (hnew.2 hdated)).latest r hr
    · obtain ⟨r', hr', hsome⟩ := hor.resolve_left hdated
      rcases List.mem_append.1 hr.1 with hold | hsame
      · exact (Row.isReadable_iff.1 (hreadable r hold)).2
      · -- the signed date sorts before the other one
        obtain ⟨time, htime, hyear⟩ := Instant.signed_of_decodable hdecodable hdated
        obtain ⟨htype, date, hdate⟩ := Row.isReadable_iff.1 (hreadable r' hr')
        obtain ⟨text, htext⟩ := Option.isSome_iff_exists.1 hsome
        have hbefore := hr.2.2 r' (List.mem_append_left _ hr') htype
        rw [htext] at hdate hbefore
        rw [List.mem_singleton.1 hsame] at hbefore
        have hlt := Row.dateLt_signed hyear hdate
        unfold Row.ofRecord at hbefore
        rw [htime] at hbefore
        rw [Option.map_some, hlt] at hbefore
        cases hbefore

/-- What becomes of the reading of the store when a record is added to rows that can be read. -/
theorem legible_append_iff (hreadable : ∀ r ∈ rows, r.IsReadable)
    (hdecodable : Instant.Decodable record.startDate) :
    Legible (rows ++ [.ofRecord record]) ↔ Instant.Dated record.startDate ∨
      (record.skipReason = none ∧ ∃ r ∈ rows, r.startDate.isSome = true) := by
  have hlatest := lastDate_append_iff hreadable hdecodable
  have hnew := Row.isReadable_ofRecord_iff hdecodable
  constructor
  · rintro ⟨hskipped, hlast⟩
    by_cases hdated : Instant.Dated record.startDate
    · exact .inl hdated
    · refine .inr ⟨?_, (hlatest.1 hlast).resolve_left hdated⟩
      by_contra hreason
      refine hdated (hnew.1 (hskipped _ (List.mem_append_right _ List.mem_cons_self)
        (Row.isOf_ofRecord record) ?_))
      exact Option.isSome_iff_ne_none.2 hreason
  · rintro (hdated | ⟨hreason, hsome⟩)
    · exact (legible_of_readable hreadable).append (hnew.2 hdated)
    · refine ⟨?_, hlatest.2 (.inr hsome)⟩
      intro r hr htype hskipped
      rcases List.mem_append.1 hr with hold | hsame
      · exact hreadable r hold
      · rw [List.mem_singleton.1 hsame] at hskipped
        unfold Row.isSkipped Row.ofRecord at hskipped
        rw [hreason] at hskipped
        cases hskipped

theorem find?_append_iff (hrows : t.Holds (rows ++ [.ofRecord record]) db)
    (hids : ∀ r ∈ rows, r.legacyId ≠ record.legacyId)
    (hdecodable : Instant.Decodable record.startDate) :
    ((find? t record.legacyId).run db).1 = .ok (some record.cut) ↔
      Instant.Dated record.startDate := by
  have hfound : (rows ++ [Row.ofRecord record]).find? (fun r => r.legacyId == record.legacyId) =
      some (.ofRecord record) := by
    have hbefore : rows.find? (fun r => r.legacyId == record.legacyId) = none :=
      List.find?_eq_none.2 fun r hr => by simpa using hids r hr
    rw [List.find?_append, hbefore]
    simp [Row.ofRecord]
  rw [find?_run hrows, hfound]
  dsimp only
  constructor
  · intro hread
    cases hrecord : read (.ofRecord record) with
    | ok record' => exact (Row.isReadable_ofRecord_iff hdecodable).1 ⟨record', hrecord⟩
    | error e =>
      rw [hrecord] at hread
      cases hread
  · intro hdated
    rw [Row.read_ofRecord hdated]
    rfl

theorem pages_append_iff (hrows : t.Holds (rows ++ [.ofRecord record]) db)
    (hreadable : ∀ r ∈ rows, r.IsReadable) (hone : (Row.ofRecord record).hasOneOutcome = true)
    (hdecodable : Instant.Decodable record.startDate) :
    (∀ offset limit,
      (∃ page, ((skipped t .processInstance offset limit).run db).1 = .ok page) ∧
        ∃ page, ((migrated t .processInstance offset limit).run db).1 = .ok page) ↔
      Instant.Dated record.startDate := by
  have hskipped := pages_answered_iff hrows Row.isSkipped
  have hmigrated := pages_answered_iff hrows Row.isMigrated
  have hnew := Row.isReadable_ofRecord_iff hdecodable
  constructor
  · intro hpages
    have hmem : Row.ofRecord record ∈ rows ++ [.ofRecord record] :=
      List.mem_append_right _ List.mem_cons_self
    have htype := Row.isOf_ofRecord record
    -- the new row is on one of the two listings
    have hkind := isMigrated_of_hasOneOutcome hone
    cases hreason : (Row.ofRecord record).isSkipped with
    | true =>
      exact hnew.1 (hskipped.1 (fun offset limit => (hpages offset limit).1) _ hmem htype hreason)
    | false =>
      rw [hreason] at hkind
      exact hnew.1 (hmigrated.1 (fun offset limit => (hpages offset limit).2) _ hmem htype hkind)
  · intro hdated offset limit
    have hall : ∀ r ∈ rows ++ [.ofRecord record], r.IsReadable := by
      intro r hr
      rcases List.mem_append.1 hr with hold | hsame
      · exact hreadable r hold
      · rw [List.mem_singleton.1 hsame]
        exact hnew.2 hdated
    constructor
    · exact hskipped.2 (fun r hr _ _ => hall r hr) offset limit
    · exact hmigrated.2 (fun r hr _ _ => hall r hr) offset limit

/-- What the store accepts and what it can read back. A record with a start date that the source
decoder can produce is found again after it was accepted, with its start date cut to microseconds,
exactly if the start date is missing or has a year of four digits. Where all rows before could be
read, exactly then every page of skipped and of migrated records is answered. The place of the last
record is answered also where some other row has a start date. No later run fails to read the store,
whatever its mode and settings, over start times with years of four digits, exactly if the record
has such a year itself, or it is not skipped and some other row has a start date. -/
theorem accepted_record_is_read_back_iff (hrows : t.Holds rows db)
    (hdecodable : Instant.Decodable record.startDate)
    (hinsert : (insert t record).run db = (.ok (), db')) :
    (((find? t record.legacyId).run db').1 = .ok (some record.cut) ↔
      Instant.Dated record.startDate) ∧
    ((∀ r ∈ rows, r.IsReadable) →
      ((∀ offset limit,
        (∃ page, ((skipped t .processInstance offset limit).run db').1 = .ok page) ∧
          ∃ page, ((migrated t .processInstance offset limit).run db').1 = .ok page) ↔
        Instant.Dated record.startDate) ∧
      ((∃ place, ((latest? t .processInstance).run db').1 = .ok place) ↔
        Instant.Dated record.startDate ∨ ∃ r ∈ rows, r.startDate.isSome = true) ∧
      ((∀ w : Workspace, w.tables = t → w.database = db' →
          (∀ i ∈ w.source.listing, Instant.Dated i.startTime) → w.StaysReadable) ↔
        Instant.Dated record.startDate ∨
          (record.skipReason = none ∧ ∃ r ∈ rows, r.startDate.isSome = true))) := by
  obtain ⟨hrows', hids⟩ : t.Holds (rows ++ [.ofRecord record]) db' ∧
      ∀ r ∈ rows, r.legacyId ≠ record.legacyId := by
    have hrun := (insert_triple t rows record).ok hrows (congrArg Prod.fst hinsert)
    rw [hinsert] at hrun
    exact hrun
  have hone : (Row.ofRecord record).hasOneOutcome = true := by
    rw [insert_run hrows] at hinsert
    by_contra hnot
    rw [if_neg hnot] at hinsert
    cases hinsert
  refine ⟨find?_append_iff hrows' hids hdecodable, ?_⟩
  intro hreadable
  refine ⟨?_, ?_, ?_⟩
  · exact pages_append_iff hrows' hreadable hone hdecodable
  · rw [latest?_answered_iff hrows']
    exact lastDate_append_iff hreadable hdecodable
  · rw [← legible_append_iff hreadable hdecodable]
    constructor
    · intro hall
      -- a workspace without instances shows what the runs read
      let w : Workspace := ⟨⟨[]⟩, ⟨[], .absent, .start []⟩, t, db'⟩
      have hnothing : ∀ i ∈ w.source.listing, Instant.Dated i.startTime := fun i hi => by cases hi
      exact (Workspace.staysReadable_iff (w := w) hrows' hnothing).1 (hall w rfl rfl hnothing)
    · rintro hlegible w rfl rfl hdated
      exact (Workspace.staysReadable_iff hrows' hdated).2 hlegible

/-- A database with an empty mapping table. -/
def emptyMapping : Database := ⟨[⟨"migration_mapping", .mapping []⟩], []⟩

/-- An order that was skipped in the year 2026 is found again, whatever runs come later. -/
theorem order_of_2026_is_read_back :
    let record : MappingRecord := .skipped "order" (some ⟨1772352000, 123456789⟩) "no definition"
    let db := ((insert ⟨""⟩ record).run emptyMapping).2
    Instant.read? "2026-03-01T08:00:00.123456789Z" = record.startDate ∧
      ((find? ⟨""⟩ "order").run db).1 =
        .ok (some (.skipped "order" (some ⟨1772352000, 123456000⟩) "no definition")) ∧
      Workspace.StaysReadable ⟨⟨[]⟩, ⟨[], .absent, .start []⟩, ⟨""⟩, db⟩ := by
  intro record db
  have hread : Instant.read? "2026-03-01T08:00:00.123456789Z" = record.startDate := by
    decide +kernel
  have hdated : Instant.Dated record.startDate := by
    intro time htime
    cases htime
    unfold Instant.OnClock
    decide
  have hrows : StoreTables.Holds ⟨""⟩ [] emptyMapping := by
    unfold StoreTables.Holds
    decide +kernel
  have hinsert : (insert ⟨""⟩ record).run emptyMapping = (.ok (), db) := by decide +kernel
  obtain ⟨hfind, hlater⟩ := accepted_record_is_read_back_iff hrows
    (fun time htime => ⟨_, hread.trans htime⟩) hinsert
  have hempty : ∀ r ∈ ([] : List Row), r.IsReadable := fun r hr => by cases hr
  refine ⟨hread, hfind.2 hdated, ?_⟩
  exact (hlater hempty).2.2.2 (.inl hdated) _ rfl rfl fun i hi => by cases hi

/-- An order of the year 10000 is accepted and not found again. The skipped records cannot be listed
any more, and no run that migrates comes any further. -/
theorem order_of_10000_is_not_read_back :
    let record : MappingRecord := .skipped "order" (some ⟨253402300800, 0⟩) "no definition"
    let db := ((insert ⟨""⟩ record).run emptyMapping).2
    let w : Workspace := ⟨⟨[]⟩, ⟨[], .absent, .start []⟩, ⟨""⟩, db⟩
    let cause (column : Nat) : StoreError :=
      .database (.unreadable column (.timestamp "+10000-01-01T00:00:00.000000Z" .invalid))
    Instant.read? "+10000-01-01T00:00:00Z" = record.startDate ∧
      ((insert ⟨""⟩ record).run emptyMapping).1 = .ok () ∧
      ((find? ⟨""⟩ "order").run db).1 = .error (cause 3) ∧
      (Workspace.perform { world := w } ⟨.listSkipped, {}, .empty⟩).1 = .error (.store (cause 3)) ∧
      (Workspace.perform { world := w } ⟨.migrate, {}, .empty⟩).1 = .error (.store (cause 1)) := by
  decide +kernel

end Store
end ProcessMigration
